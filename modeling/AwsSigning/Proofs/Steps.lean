/-
AwsSigning/Proofs/Steps.lean

Sequences of steps that may fail, taken apart: a sequence that succeeds has
succeeded at every step.

Two sequences can also be followed side by side (`EndAlike`).  As long as
their results are related they go the same way, and the first failure, if
there is one, is a failure of both.
-/

namespace AwsSigning

variable {ε α β γ : Type}

theorem bind_eq_ok_iff {x : Except ε α} {f : α → Except ε β} {b : β} :
    x >>= f = .ok b ↔ ∃ a, x = .ok a ∧ f a = .ok b := by
  rcases x with e | a
  · constructor
    · intro h
      cases h
    · rintro ⟨_, h, -⟩
      cases h
  · constructor
    · intro h
      exact ⟨a, rfl, h⟩
    · rintro ⟨_, h, hf⟩
      cases h
      exact hf

theorem pure_eq_ok_iff {a b : α} : (pure a : Except ε α) = .ok b ↔ a = b :=
  ⟨Except.ok.inj, congrArg _⟩

theorem toOption_eq_some_iff {x : Except ε α} {a : α} : x.toOption = some a ↔ x = .ok a := by
  rcases x with e | b
  · simp [Except.toOption]
  · simp [Except.toOption]

/-- A change of the failure makes no success. -/
theorem mapError_eq_ok_iff {ε' : Type} {f : ε → ε'} {x : Except ε α} {a : α} :
    x.mapError f = .ok a ↔ x = .ok a := by
  rcases x with e | b
  · constructor <;> rintro ⟨⟩
  · constructor <;> rintro ⟨⟩ <;> rfl

/-- Steps that succeed for each of a list succeed for the whole list. -/
theorem exists_mapM_eq_ok {f : α → Except ε β} {as : List α} (h : ∀ a ∈ as, ∃ b, f a = .ok b) :
    ∃ bs, as.mapM f = .ok bs := by
  induction as with
  | nil => exact ⟨[], rfl⟩
  | cons a as ih =>
    obtain ⟨b, hb⟩ := h a List.mem_cons_self
    obtain ⟨bs, hbs⟩ := ih fun x hx => h x (List.mem_cons_of_mem a hx)
    refine ⟨b :: bs, ?_⟩
    rw [List.mapM_cons, hb, hbs]
    rfl

/-- Steps that do the same for each of a list do the same for the whole list. -/
theorem mapM_congr {f g : α → Except ε β} {as : List α} (h : ∀ a ∈ as, f a = g a) :
    as.mapM f = as.mapM g := by
  have hmap : (as.map f).mapM id = (as.map g).mapM id := by rw [List.map_congr_left h]
  rwa [List.mapM_map, List.mapM_map] at hmap

/-- Steps that depend on a part of their input only, taken for two lists that agree on it. -/
theorem mapM_eq_of_map_eq {f : α → Except ε β} {k : α → γ} (hf : ∀ a a', k a = k a' → f a = f a')
    {as as' : List α} (h : as.map k = as'.map k) : as.mapM f = as'.mapM f := by
  induction as generalizing as' with
  | nil =>
    have hnil : as' = [] := List.map_eq_nil_iff.mp h.symm
    rw [hnil]
  | cons a as ih =>
    rcases as' with - | ⟨a', as'⟩
    · cases h
    · obtain ⟨ha, has⟩ := List.cons.inj h
      rw [List.mapM_cons, List.mapM_cons, hf a a' ha, ih has]

/-- What a single step says about its result, a sequence says about all of them. -/
theorem map_eq_of_mapM_eq_ok {f : α → Except ε β} {g : α → γ} {k : β → γ} {as : List α}
    {bs : List β} (h : as.mapM f = .ok bs) (hk : ∀ a b, f a = .ok b → k b = g a) :
    bs.map k = as.map g := by
  induction as generalizing bs with
  | nil =>
    cases h
    rfl
  | cons a as ih =>
    simp only [List.mapM_cons, bind_eq_ok_iff, pure_eq_ok_iff] at h
    obtain ⟨b, hb, bs', hbs, rfl⟩ := h
    rw [List.map_cons, List.map_cons, hk a b hb, ih hbs]

/-- What a sequence gives are the results of its steps. -/
theorem exists_of_mapM_eq_ok {f : α → Except ε β} {as : List α} {bs : List β}
    (h : as.mapM f = .ok bs) :
    (∀ a ∈ as, ∃ b ∈ bs, f a = .ok b) ∧ ∀ b ∈ bs, ∃ a ∈ as, f a = .ok b := by
  induction as generalizing bs with
  | nil =>
    cases h
    simp
  | cons a as ih =>
    simp only [List.mapM_cons, bind_eq_ok_iff, pure_eq_ok_iff] at h
    obtain ⟨b, hb, bs', hbs, rfl⟩ := h
    obtain ⟨hsteps, hresults⟩ := ih hbs
    constructor
    · refine List.forall_mem_cons.mpr ⟨⟨b, List.mem_cons_self, hb⟩, fun x hx => ?_⟩
      obtain ⟨y, hy, hxy⟩ := hsteps x hx
      exact ⟨y, List.mem_cons_of_mem b hy, hxy⟩
    · refine List.forall_mem_cons.mpr ⟨⟨a, List.mem_cons_self, hb⟩, fun y hy => ?_⟩
      obtain ⟨x, hx, hxy⟩ := hresults y hy
      exact ⟨x, List.mem_cons_of_mem a hx, hxy⟩

/-- Steps that succeed for each of a list also succeed in another way that agrees with them. -/
theorem mapM_eq_some_of_mapM_eq_ok {f : α → Except ε β} {g : γ → Option β} {k : α → γ}
    {as : List α} {bs : List β} (h : as.mapM f = .ok bs)
    (hg : ∀ a ∈ as, ∀ b, f a = .ok b → g (k a) = some b) : (as.map k).mapM g = some bs := by
  induction as generalizing bs with
  | nil =>
    cases h
    rfl
  | cons a as ih =>
    simp only [List.mapM_cons, bind_eq_ok_iff, pure_eq_ok_iff] at h
    obtain ⟨b, hb, bs', hbs, rfl⟩ := h
    have hrest := ih hbs fun x hx => hg x (List.mem_cons_of_mem a hx)
    simp [hg a List.mem_cons_self b hb, hrest]

/-! ### Side by side -/

/-- Two steps end alike: with one and the same failure, or with results that are related. -/
inductive EndAlike (R : α → β → Prop) : Except ε α → Except ε β → Prop
  | ok {a b} (h : R a b) : EndAlike R (.ok a) (.ok b)
  | error (e : ε) : EndAlike R (.error e) (.error e)

namespace EndAlike

variable {R : α → β → Prop} {x : Except ε α} {y : Except ε β}

theorem bind {α' β' : Type} {S : α' → β' → Prop} {f : α → Except ε α'} {g : β → Except ε β'}
    (h : EndAlike R x y) (hfg : ∀ a b, R a b → EndAlike S (f a) (g b)) :
    EndAlike S (x >>= f) (y >>= g) := by
  cases h with
  | ok h => exact hfg _ _ h
  | error e => exact .error e

/-- A step ends like itself. -/
theorem refl {R : α → α → Prop} (hR : ∀ a, R a a) (x : Except ε α) : EndAlike R x x := by
  rcases x with e | a
  · exact .error e
  · exact .ok (hR a)

/-- Steps that end alike with equal results are the same. -/
theorem eq {x y : Except ε α} (h : EndAlike Eq x y) : x = y := by
  cases h with
  | ok h => exact congrArg _ h
  | error e => rfl

/-- Steps that end alike fail alike. -/
theorem eq_error_iff (h : EndAlike R x y) (e : ε) : x = .error e ↔ y = .error e := by
  cases h with
  | ok h => exact ⟨nofun, nofun⟩
  | error e' => exact ⟨fun h => congrArg _ (Except.error.inj h), fun h => congrArg _ (Except.error.inj h)⟩

theorem map {α' β' : Type} {S : α' → β' → Prop} {f : α → α'} {g : β → β'} (h : EndAlike R x y)
    (hfg : ∀ a b, R a b → S (f a) (g b)) : EndAlike S (x.map f) (y.map g) := by
  cases h with
  | ok h => exact .ok (hfg _ _ h)
  | error e => exact .error e

theorem mapError {ε' : Type} (f : ε → ε') (h : EndAlike R x y) :
    EndAlike R (x.mapError f) (y.mapError f) := by
  cases h with
  | ok h => exact .ok h
  | error e => exact .error (f e)

end EndAlike

end AwsSigning
