/-
AwsSigning/Proofs/Operation.lean

How operations run: one equation for each way in which an operation is put
together.  With these a procedure is computed step by step, and its outcome
is written without the procedure.

Of many operations all that matters is that they do not fail, and something
about their results; `Ensures` says that from every state, and follows the
ways of putting operations together.  `Yields` says the same of operations
that may fail.
-/
import AwsSigning.Cached

namespace AwsSigning

namespace Operation

variable {σ τ α β : Type}

/-! ### One equation for each form -/

@[simp] theorem outcome_of (run : σ → Except Error α × σ) (s : σ) :
    (of run).outcome s = run s := rfl

@[simp] theorem outcome_pure (a : α) (s : σ) :
    (pure a : Operation σ α).outcome s = (.ok a, s) := rfl

@[simp] theorem outcome_fail (e : Error) (s : σ) :
    (fail e : Operation σ α).outcome s = (.error e, s) := rfl

@[simp] theorem outcome_ofExcept (r : Except Error α) (s : σ) :
    (ofExcept r : Operation σ α).outcome s = (r, s) := rfl

@[simp] theorem outcome_get (s : σ) :
    (get : Operation σ σ).outcome s = (.ok s, s) := rfl

@[simp] theorem outcome_set (s s' : σ) :
    (set s' : Operation σ PUnit).outcome s = (.ok ⟨⟩, s') := rfl

@[simp] theorem outcome_modify (f : σ → σ) (s : σ) :
    (modify f : Operation σ PUnit).outcome s = (.ok ⟨⟩, f s) := rfl

@[simp] theorem outcome_focus (part : σ → τ) (put : τ → σ → σ) (op : Operation τ α) (s : σ) :
    (focus part put op).outcome s
      = ((op.outcome (part s)).1, put (op.outcome (part s)).2 s) := rfl

@[simp] theorem outcome_mapFailure (f : Error → Error) (op : Operation σ α) (s : σ) :
    (op.mapFailure f).outcome s = ((op.outcome s).1.mapError f, (op.outcome s).2) := rfl

/-- An operation that restores keeps its outcome, and after a failure its state is mended. -/
theorem outcome_restoring (restore : σ → σ → σ) (op : Operation σ α) (s : σ) :
    (restoring restore op).outcome s =
      match op.outcome s with
      | (.ok a, after) => (.ok a, after)
      | (.error e, after) => (.error e, restore s after) := rfl

/-- After a failure the rest of a sequence does not run. -/
theorem outcome_bind (op : Operation σ α) (f : α → Operation σ β) (s : σ) :
    (op >>= f).outcome s =
      match op.outcome s with
      | (.ok a, s') => (f a).outcome s'
      | (.error e, s') => (.error e, s') := by
  rcases h : op.outcome s with ⟨e | a, s'⟩
  · rw [outcome] at h
    rw [outcome, ExceptT.run_bind, StateT.run_bind, h]
    rfl
  · rw [outcome] at h
    rw [outcome, ExceptT.run_bind, StateT.run_bind, h]
    rfl

theorem outcome_map (f : α → β) (op : Operation σ α) (s : σ) :
    (f <$> op).outcome s = ((op.outcome s).1.map f, (op.outcome s).2) := by
  rw [map_eq_pure_bind, outcome_bind]
  rcases op.outcome s with ⟨e | a, t⟩ <;> rfl

/-- A sequence that succeeds has succeeded at both steps. -/
theorem outcome_bind_eq_ok_iff {op : Operation σ α} {f : α → Operation σ β} {s s' : σ} {b : β} :
    (op >>= f).outcome s = (.ok b, s') ↔
      ∃ a t, op.outcome s = (.ok a, t) ∧ (f a).outcome t = (.ok b, s') := by
  rw [outcome_bind]
  constructor
  · intro h
    rcases hop : op.outcome s with ⟨e | a, t⟩
    · rw [hop] at h
      cases h
    · rw [hop] at h
      exact ⟨a, t, rfl, h⟩
  · rintro ⟨a, t, hop, hf⟩
    rw [hop]
    exact hf

/-- A sequence that fails has failed at the first step, or at the second. -/
theorem outcome_bind_eq_error_iff {op : Operation σ α} {f : α → Operation σ β} {s s' : σ}
    {e : Error} :
    (op >>= f).outcome s = (.error e, s') ↔
      op.outcome s = (.error e, s') ∨
        ∃ a t, op.outcome s = (.ok a, t) ∧ (f a).outcome t = (.error e, s') := by
  rw [outcome_bind]
  rcases op.outcome s with ⟨e' | a, t⟩
  · simp
  · constructor
    · intro h
      exact .inr ⟨a, t, rfl, h⟩
    · rintro (h | ⟨_, _, h, hf⟩)
      · cases h
      · cases h
        exact hf

/-! ### Operations that do not fail -/

/-- The operation does not fail, and its result has a property. -/
def Ensures (op : Operation σ α) (P : α → Prop) : Prop :=
  ∀ s, ∃ a s', op.outcome s = (.ok a, s') ∧ P a

variable {P : α → Prop} {Q : β → Prop} {op : Operation σ α}

theorem ensures_pure {a : α} (h : P a) : (pure a : Operation σ α).Ensures P :=
  fun s => ⟨a, s, rfl, h⟩

theorem ensures_ofExcept {r : Except Error α} {a : α} (hr : r = .ok a) (h : P a) :
    (ofExcept r : Operation σ α).Ensures P :=
  fun s => ⟨a, s, by rw [hr]; rfl, h⟩

theorem ensures_modify (f : σ → σ) : (modify f : Operation σ PUnit).Ensures fun _ => True :=
  fun s => ⟨⟨⟩, f s, rfl, trivial⟩

theorem Ensures.imp {P' : α → Prop} (h : op.Ensures P) (hP : ∀ a, P a → P' a) :
    op.Ensures P' := by
  intro s
  obtain ⟨a, s', hop, ha⟩ := h s
  exact ⟨a, s', hop, hP a ha⟩

theorem Ensures.bind {f : α → Operation σ β} (h : op.Ensures P) (hf : ∀ a, P a → (f a).Ensures Q) :
    (op >>= f).Ensures Q := by
  intro s
  obtain ⟨a, s', hop, ha⟩ := h s
  obtain ⟨b, s'', hb, hq⟩ := hf a ha s'
  refine ⟨b, s'', ?_, hq⟩
  rw [outcome_bind, hop]
  exact hb

/-- A loop whose steps keep an invariant does not fail. -/
theorem ensures_foldlM {step : β → α → Operation σ β} {as : List α}
    (hstep : ∀ b a, Q b → (step b a).Ensures Q) {b : β} (h : Q b) :
    (as.foldlM step b).Ensures Q := by
  induction as generalizing b with
  | nil => exact ensures_pure h
  | cons a as ih =>
    rw [List.foldlM_cons]
    exact (hstep b a h).bind fun next hnext => ih hnext

/-! ### Operations that may fail -/

/-- If the operation succeeds, its result has a property. -/
def Yields (op : Operation σ α) (P : α → Prop) : Prop :=
  ∀ s a s', op.outcome s = (.ok a, s') → P a

theorem yields_pure {a : α} (h : P a) : (pure a : Operation σ α).Yields P := by
  rintro s _ _ ⟨⟩
  exact h

theorem yields_true (op : Operation σ α) : op.Yields fun _ => True := fun _ _ _ _ => trivial

theorem yields_fail (e : Error) : (fail e : Operation σ α).Yields P := by
  rintro s _ _ ⟨⟩

theorem yields_ofExcept (r : Except Error α) :
    (ofExcept r : Operation σ α).Yields fun a => r = .ok a := by
  intro s a s' h
  exact (Prod.mk.inj h).1

/-- What an operation ensures, it yields. -/
theorem Ensures.yields (h : op.Ensures P) : op.Yields P := by
  intro s a s' hop
  obtain ⟨b, t, hop', hb⟩ := h s
  rw [hop] at hop'
  cases hop'
  exact hb

theorem Yields.bind {f : α → Operation σ β} (h : op.Yields P) (hf : ∀ a, P a → (f a).Yields Q) :
    (op >>= f).Yields Q := by
  intro s b s' hb
  obtain ⟨a, t, ha, hb⟩ := outcome_bind_eq_ok_iff.mp hb
  exact hf a (h s a t ha) t b s' hb

/-- A loop whose steps keep an invariant ends with it, if it ends well. -/
theorem yields_foldlM {step : β → α → Operation σ β} {as : List α}
    (hstep : ∀ b, ∀ a ∈ as, Q b → (step b a).Yields Q) {b : β} (h : Q b) :
    (as.foldlM step b).Yields Q := by
  induction as generalizing b with
  | nil => exact yields_pure h
  | cons a as ih =>
    rw [List.foldlM_cons]
    refine (hstep b a List.mem_cons_self h).bind fun next hnext => ?_
    exact ih (fun b x hx => hstep b x (List.mem_cons_of_mem a hx)) hnext

end Operation

/-! ### Cells -/

open Operation in
/-- The fresh value of a cell is given and nothing is done; otherwise one is loaded, given and
kept. -/
theorem Cached.outcome_getOrLoad {σ α : Type} (part : σ → Cached α) (put : Cached α → σ → σ)
    (clock : σ → Instant) (load : Operation σ (Entry α)) (s : σ) :
    (getOrLoad part put clock load).outcome s =
      match (part s).get? (clock s) with
      | some value => (.ok value, s)
      | none =>
        match load.outcome s with
        | (.ok entry, after) => (.ok entry.value, put ((part after).install entry) after)
        | (.error e, after) => (.error e, after) := by
  rw [getOrLoad, outcome_bind, outcome_get]
  dsimp only
  rcases (part s).get? (clock s) with - | value
  · rw [outcome_bind]
    rcases load.outcome s with ⟨e | entry, after⟩ <;> rfl
  · rfl

end AwsSigning
