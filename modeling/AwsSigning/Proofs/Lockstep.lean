/-
AwsSigning/Proofs/Lockstep.lean

Two operations followed side by side.

Operations on two states that differ only in what does not matter are in
*lockstep* (`Operation.Lockstep`): they end alike, and the states after them
differ only in what does not matter.  What does not matter is said by a
relation between states, and there is one rule for each way in which
operations are put together.
-/
import AwsSigning.Cached
import AwsSigning.Proofs.Operation
import AwsSigning.Proofs.Steps

namespace AwsSigning

namespace Operation

variable {σ τ σ' τ' α β γ δ : Type} {R : σ → τ → Prop} {Q : α → β → Prop} {S : γ → δ → Prop}
  {op : Operation σ α} {op' : Operation τ β}

/-- From related states two operations end alike, and in states that are related again. -/
def Lockstep (R : σ → τ → Prop) (Q : α → β → Prop) (op : Operation σ α) (op' : Operation τ β) :
    Prop :=
  ∀ s t, R s t →
    EndAlike Q (op.outcome s).1 (op'.outcome t).1 ∧ R (op.outcome s).2 (op'.outcome t).2

namespace Lockstep

/-- An operation is in lockstep with itself. -/
theorem self (op : Operation σ α) : Lockstep Eq Eq op op := by
  rintro s _ rfl
  exact ⟨.refl (fun _ => rfl) _, rfl⟩

theorem pure {a : α} {b : β} (h : Q a b) : Lockstep R Q (Pure.pure a) (Pure.pure b) :=
  fun _ _ hst => ⟨.ok h, hst⟩

theorem ofExcept {x : Except Error α} {y : Except Error β} (h : EndAlike Q x y) :
    Lockstep R Q (ofExcept x) (ofExcept y) :=
  fun _ _ hst => ⟨h, hst⟩

/-- An outcome that is the same for both is in lockstep with itself. -/
theorem ofExcept_self (x : Except Error α) : Lockstep R Eq (Operation.ofExcept x) (.ofExcept x) :=
  ofExcept (.refl (fun _ => rfl) x)

theorem get : Lockstep R R MonadState.get MonadState.get :=
  fun _ _ hst => ⟨.ok hst, hst⟩

theorem modify {f : σ → σ} {g : τ → τ} (h : ∀ s t, R s t → R (f s) (g t)) :
    Lockstep R Eq (modify f : Operation σ PUnit) (modify g : Operation τ PUnit) :=
  fun s t hst => ⟨.ok rfl, h s t hst⟩

/-- **One after the other**: what the first two end with is handed to the next two. -/
theorem bind {f : α → Operation σ γ} {g : β → Operation τ δ} (h : Lockstep R Q op op')
    (hfg : ∀ a b, Q a b → Lockstep R S (f a) (g b)) : Lockstep R S (op >>= f) (op' >>= g) := by
  intro s t hst
  obtain ⟨hend, hafter⟩ := h s t hst
  rw [outcome_bind, outcome_bind]
  rcases hs : op.outcome s with ⟨x, s'⟩
  rcases ht : op'.outcome t with ⟨y, t'⟩
  rw [hs, ht] at hend hafter
  cases hend with
  | ok hab => exact hfg _ _ hab s' t' hafter
  | error e => exact ⟨.error e, hafter⟩

/-- Two steps that end with one and the same result hand it on. -/
theorem bind_same {op : Operation σ α} {op' : Operation τ α} {f : α → Operation σ γ}
    {g : α → Operation τ δ} (h : Lockstep R Eq op op') (hfg : ∀ a, Lockstep R S (f a) (g a)) :
    Lockstep R S (op >>= f) (op' >>= g) :=
  h.bind fun a _ hab => hab ▸ hfg a

/-- A failure that is the same for both is in lockstep with itself. -/
theorem fail (e : Error) : Lockstep R Q (Operation.fail e) (Operation.fail e) :=
  fun _ _ hst => ⟨.error e, hst⟩

/-- **One loop over the same list**, with two bodies in lockstep. -/
theorem foldlM {step : β → α → Operation σ β} {step' : β → α → Operation τ β} {as : List α}
    (hstep : ∀ b, ∀ a ∈ as, Lockstep R Eq (step b a) (step' b a)) (b : β) :
    Lockstep R Eq (as.foldlM step b) (as.foldlM step' b) := by
  induction as generalizing b with
  | nil => exact .pure rfl
  | cons a as ih =>
    rw [List.foldlM_cons, List.foldlM_cons]
    refine (hstep b a List.mem_cons_self).bind_same fun next => ?_
    exact ih (fun b x hx => hstep b x (List.mem_cons_of_mem a hx)) next

theorem map {f : α → γ} {g : β → δ} (h : Lockstep R Q op op')
    (hfg : ∀ a b, Q a b → S (f a) (g b)) : Lockstep R S (f <$> op) (g <$> op') := by
  intro s t hst
  obtain ⟨hend, hafter⟩ := h s t hst
  rw [outcome_map, outcome_map]
  exact ⟨hend.map hfg, hafter⟩

theorem mapFailure (h : Lockstep R Q op op') (f : Error → Error) :
    Lockstep R Q (op.mapFailure f) (op'.mapFailure f) := by
  intro s t hst
  obtain ⟨hend, hafter⟩ := h s t hst
  exact ⟨hend.mapError f, hafter⟩

/-- On parts of the states. -/
theorem focus {R' : σ' → τ' → Prop} {part : σ' → σ} {put : σ → σ' → σ'} {part' : τ' → τ}
    {put' : τ → τ' → τ'} (h : Lockstep R Q op op') (hpart : ∀ s t, R' s t → R (part s) (part' t))
    (hput : ∀ s t u v, R' s t → R u v → R' (put u s) (put' v t)) :
    Lockstep R' Q (Operation.focus part put op) (Operation.focus part' put' op') := by
  intro s t hst
  obtain ⟨hend, hafter⟩ := h _ _ (hpart s t hst)
  exact ⟨hend, hput s t _ _ hst hafter⟩

end Lockstep

end Operation

/-- The two sides have the same component, beside states that are related. -/
def Beside {σ τ : Type} (R : τ → τ → Prop) (s t : σ × τ) : Prop := s.1 = t.1 ∧ R s.2 t.2

/-- A cell that is the same on both sides gives the same value, and is the same afterwards. -/
theorem Cached.lockstep_getOrLoad {σ α : Type} {R : σ → σ → Prop} {part : σ → Cached α}
    {put : Cached α → σ → σ} {clock : σ → Instant} {load : Operation σ (Entry α)}
    (hload : load.Lockstep R Eq load) (hpart : ∀ s t, R s t → part s = part t)
    (hput : ∀ s t cell, R s t → R (put cell s) (put cell t))
    (hclock : ∀ s t, R s t → clock s = clock t) :
    (getOrLoad part put clock load).Lockstep R Eq (getOrLoad part put clock load) := by
  refine Operation.Lockstep.get.bind fun s t hst => ?_
  rw [hpart s t hst, hclock s t hst]
  split
  · exact .pure rfl
  · refine hload.bind_same fun entry => ?_
    refine (Operation.Lockstep.modify fun s t hst => ?_).bind_same fun _ => .pure rfl
    rw [hpart s t hst]
    exact hput s t _ hst

end AwsSigning
