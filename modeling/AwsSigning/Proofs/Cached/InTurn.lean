/-
AwsSigning/Proofs/Cached/InTurn.lean

Who loads and who shares.

Callers come to a cell in order, the clock stands still, and the lock goes to
those who wait in the order in which they came (`Room.InTurn`).  Nothing else
is said about the order of events: a caller may look before or after those in
front of it have their answers.

The caller `i` then runs a load exactly if the `i` loads before it, run by the
callers in front of it, all gave nothing fresh.  So the number of loads that
have ended tells nearly everything (`Progress`): as many callers have been
served, each by a load of its own, and either nothing is fresh and it is the
turn of the next one, or the last load was fresh, or the cell was from the
start, and everybody else shares.  One lemma for each event keeps this, and
when everybody is served it is the whole answer (`Progress.ended`).

How many loads there are in all, and who gets what, is then worked out for
loads the first of which fail (`settles_failingFirst`).
-/
import AwsSigning.Proofs.Cached.SingleFlight

namespace AwsSigning.Cached

variable {α : Type}

/-- A load gives nothing that is fresh: it fails, or what it gives is about to expire. -/
def IsStale (margin : Duration) (now : Instant) (result : Except Error (Entry α)) : Prop :=
  ∀ entry, result = .ok entry → ¬IsFresh margin entry now

/-- The caller is still to be served. -/
def Caller.isPending : Caller α → Bool
  | .arriving | .waiting | .checking | .loading => true
  | .answered _ | .dropped => false

namespace Room

/-! ### Runs in turn -/

/-- Rooms that are reached in turn, with the number of loads that have ended.  A caller takes the
lock when nobody in front of it has yet to come or to be served. -/
inductive InTurn (load : Loader α) (start : Room α) : Nat → Room α → Prop
  /-- Nothing has happened yet. -/
  | start : InTurn load start 0 start
  /-- A caller looks. -/
  | look {runs i room room'} (h : InTurn load start runs room)
      (hstep : room.step? (.look i) = some room') : InTurn load start runs room'
  /-- The caller whose turn it is takes the lock. -/
  | acquire {runs i room room'} (h : InTurn load start runs room)
      (hturn : ∀ j < i, room.callers[j]? ≠ some .arriving ∧ room.callers[j]? ≠ some .waiting)
      (hstep : room.step? (.acquire i) = some room') : InTurn load start runs room'
  /-- The caller with the lock looks again. -/
  | recheck {runs i room room'} (h : InTurn load start runs room)
      (hstep : room.step? (.recheck i) = some room') : InTurn load start runs room'
  /-- A load ends. -/
  | finish {runs i room room'} (h : InTurn load start runs room)
      (hstep : room.step? (.finish i (load runs i)) = some room') :
      InTurn load start (runs + 1) room'

/-- Everybody has an answer. -/
def IsDone (room : Room α) : Prop :=
  ∀ (i : Nat) caller, room.callers[i]? = some caller → ∃ answer, caller = .answered answer

/-! ### How far the callers have come -/

/-- Where the fresh value of the cell comes from, if there is one, after some loads. -/
inductive Source (load : Loader α) (cell : Cached α) (now : Instant) : Nat → Option α → Prop
  /-- There was none, and no load has given one. -/
  | missing {runs} (hnone : cell.get? now = none)
      (hstale : ∀ i < runs, IsStale cell.margin now (load i i)) : Source load cell now runs none
  /-- It was there. -/
  | kept {value} (hkept : cell.get? now = some value) : Source load cell now 0 (some value)
  /-- It was given by the last load, and by no load before it. -/
  | loaded {last entry} (hnone : cell.get? now = none)
      (hstale : ∀ i < last, IsStale cell.margin now (load i i))
      (hload : load last last = .ok entry) (hfresh : IsFresh cell.margin entry now) :
      Source load cell now (last + 1) (some entry.value)

/-- What a caller may be doing after some loads none of which was its own. -/
inductive Allowed (found : Option α) (runs i : Nat) : Caller α → Prop
  | arriving : Allowed found runs i .arriving
  | waiting : Allowed found runs i .waiting
  /-- While nothing is fresh, only one caller has had its turn. -/
  | checking (hturn : found = none → i = runs) : Allowed found runs i .checking
  | loading (hnone : found = none) (hturn : i = runs) : Allowed found runs i .loading
  /-- It shares. -/
  | answered {value} (hfound : found = some value) : Allowed found runs i (.answered (.ok value))

/-- How far the callers have come after some loads. -/
structure Progress (load : Loader α) (cell : Cached α) (now : Instant) (n runs : Nat)
    (room : Room α) : Prop where
  clock : room.now = now
  margin : room.cell.margin = cell.margin
  length : room.callers.length = n
  guarded : Guarded room
  source : Source load cell now runs (room.cell.get? now)
  /-- The first callers have run the loads. -/
  served : ∀ i < runs, room.callers[i]? = some (.answered ((load i i).map Entry.value))
  rest : ∀ (i : Nat) caller, runs ≤ i → room.callers[i]? = some caller →
    Allowed (room.cell.get? now) runs i caller

variable {load : Loader α} {cell : Cached α} {now : Instant} {n runs i : Nat}
  {start room room' : Room α} {caller new : Caller α} {value : α} {found : Option α}

theorem progress_gathered (load : Loader α) (cell : Cached α) (now : Instant) (n : Nat) :
    Progress load cell now n 0 (gathered cell now n) where
  clock := rfl
  margin := rfl
  length := List.length_replicate
  guarded := guarded_gathered cell now n
  source := by
    show Source load cell now 0 (cell.get? now)
    rcases hfound : cell.get? now with - | value
    · exact .missing hfound (by simp)
    · exact .kept hfound
  served := by simp
  rest := by
    intro i caller _ hi
    have harriving : caller = .arriving := List.eq_of_mem_replicate (List.mem_of_getElem? hi)
    rw [harriving]
    exact .arriving

theorem Progress.exists_caller (h : Progress load cell now n runs room) (hi : i < n) :
    ∃ caller, room.callers[i]? = some caller :=
  ⟨_, List.getElem?_eq_getElem (h.length.symm ▸ hi)⟩

theorem Progress.lt_of_caller (h : Progress load cell now n runs room)
    (hi : room.callers[i]? = some caller) : i < n :=
  h.length ▸ (List.getElem?_eq_some_iff.mp hi).1

/-- A caller that is still to be served has not run a load. -/
theorem Progress.runs_le (h : Progress load cell now n runs room)
    (hi : room.callers[i]? = some caller) (hpending : caller.isPending = true) : runs ≤ i := by
  by_contra hlt
  have hserved := h.served i (by omega)
  rw [hi] at hserved
  cases hserved
  cases hpending

/-! ### One lemma for each event -/

/-- A caller comes one step further, but not by a load. -/
theorem Progress.put {holder : Option Nat} (h : Progress load cell now n runs room)
    (hguarded : Guarded { room.put i new with holder }) (hruns : runs ≤ i)
    (hnew : Allowed (room.cell.get? now) runs i new) :
    Progress load cell now n runs { room.put i new with holder } where
  clock := h.clock
  margin := h.margin
  length := by simpa [Room.put] using h.length
  guarded := hguarded
  source := h.source
  served := by
    intro j hj
    show (room.put i new).callers[j]? = _
    rw [callers_put_of_ne (by omega)]
    exact h.served j hj
  rest := by
    intro j caller hj hcaller
    rcases eq_or_of_callers_put hcaller with ⟨rfl, rfl⟩ | hold
    · exact hnew
    · exact h.rest j caller hj hold

theorem Progress.look (h : Progress load cell now n runs room)
    (hstep : Step room (.look i) room') : Progress load cell now n runs room' := by
  cases hstep with
  | hit hi hfound =>
    rw [h.clock] at hfound
    exact h.put (h.guarded.put_same hi rfl) (h.runs_le hi rfl) (.answered hfound)
  | miss hi hnone => exact h.put (h.guarded.put_same hi rfl) (h.runs_le hi rfl) .waiting

theorem Progress.acquire (h : Progress load cell now n runs room)
    (hturn : ∀ j < i, room.callers[j]? ≠ some .arriving ∧ room.callers[j]? ≠ some .waiting)
    (hstep : Step room (.acquire i) room') : Progress load cell now n runs room' := by
  have hguarded := h.guarded.step hstep
  cases hstep with
  | acquire hi hfree =>
    have hruns := h.runs_le hi rfl
    refine h.put hguarded hruns (.checking fun hnone => ?_)
    -- the caller whose turn it is has neither come too late nor is it inside
    by_contra hne
    have hlt : runs < i := by omega
    obtain ⟨next, hnext⟩ := h.exists_caller (Nat.lt_trans hlt (h.lt_of_caller hi))
    have hallowed := h.rest runs next (Nat.le_refl runs) hnext
    rw [hnone] at hallowed
    have houtside : next.isInside = false := by
      rw [Bool.eq_false_iff, Ne, ← h.guarded.holder_iff hnext, hfree]
      simp
    cases hallowed with
    | arriving => exact (hturn runs hlt).1 hnext
    | waiting => exact (hturn runs hlt).2 hnext
    | checking | loading => cases houtside
    | answered hfound => cases hfound

theorem Progress.recheck (h : Progress load cell now n runs room)
    (hstep : Step room (.recheck i) room') : Progress load cell now n runs room' := by
  have hguarded := h.guarded.step hstep
  cases hstep with
  | share hi hfound =>
    rw [h.clock] at hfound
    exact h.put hguarded (h.runs_le hi rfl) (.answered hfound)
  | load hi hnone =>
    rw [h.clock] at hnone
    have hruns := h.runs_le hi rfl
    have hallowed := h.rest i _ hruns hi
    cases hallowed with
    | checking hturn => exact h.put hguarded hruns (.loading hnone (hturn hnone))

/-- The caller whose turn it was is served by its own load. -/
theorem Progress.serve (h : Progress load cell now n runs room) (cell' : Cached α)
    (hi : room.callers[runs]? = some .loading) (hnone : room.cell.get? now = none)
    (hmargin : cell'.margin = cell.margin)
    (hsource : Source load cell now (runs + 1) (cell'.get? now)) :
    Progress load cell now n (runs + 1)
      { (room.put runs (.answered ((load runs runs).map Entry.value))).release with
        cell := cell' } where
  clock := h.clock
  margin := hmargin
  length := by simpa [Room.put, release] using h.length
  guarded := h.guarded.put_release hi rfl rfl
  source := hsource
  served := by
    intro j hj
    show (room.put runs _).callers[j]? = _
    rcases Nat.lt_succ_iff_lt_or_eq.mp hj with hlt | rfl
    · rw [callers_put_of_ne (by omega)]
      exact h.served j hlt
    · exact callers_put_self hi _
  rest := by
    intro j caller hj hcaller
    rcases eq_or_of_callers_put hcaller with ⟨rfl, -⟩ | hold
    · omega
    · -- nobody behind the one that was served has had its turn
      have hallowed := h.rest j caller (by omega) hold
      rw [hnone] at hallowed
      cases hallowed with
      | arriving => exact .arriving
      | waiting => exact .waiting
      | checking hturn =>
        have := hturn rfl
        omega
      | loading _ hturn => omega
      | answered hfound => cases hfound

/-- One more load that gave nothing fresh. -/
theorem Source.stale (h : Source load cell now runs none)
    (hstale : IsStale cell.margin now (load runs runs)) :
    Source load cell now (runs + 1) none := by
  cases h with
  | missing hnone hbefore =>
    refine .missing hnone fun i hi => ?_
    rcases Nat.lt_succ_iff_lt_or_eq.mp hi with hlt | rfl
    · exact hbefore i hlt
    · exact hstale

/-- What a load gives is in the cell after it. -/
theorem Source.install {entry : Entry α} {cell' : Cached α} (h : Source load cell now runs none)
    (hload : load runs runs = .ok entry) (hmargin : cell'.margin = cell.margin) :
    Source load cell now (runs + 1) ((cell'.install entry).get? now) := by
  by_cases hfresh : IsFresh cell.margin entry now
  · have hfound : (cell'.install entry).get? now = some entry.value :=
      get?_eq_some_iff.mpr ⟨entry, rfl, rfl, hmargin ▸ hfresh⟩
    rw [hfound]
    cases h with
    | missing hnone hbefore => exact .loaded hnone hbefore hload hfresh
  · have hnone : (cell'.install entry).get? now = none := by
      rw [Option.eq_none_iff_forall_ne_some]
      intro value hvalue
      obtain ⟨entry', hentry, -, hfresh'⟩ := get?_eq_some_iff.mp hvalue
      cases hentry
      exact hfresh (hmargin ▸ hfresh')
    rw [hnone]
    refine h.stale fun entry' hentry => ?_
    rw [hload] at hentry
    cases hentry
    exact hfresh

theorem Progress.finish (h : Progress load cell now n runs room)
    (hstep : Step room (.finish i (load runs i)) room') :
    Progress load cell now n (runs + 1) room' := by
  -- whoever loads does so because it is its turn
  have hturn : ∀ {j : Nat}, room.callers[j]? = some .loading →
      room.cell.get? now = none ∧ j = runs := by
    intro j hj
    have hallowed := h.rest j _ (h.runs_le hj rfl) hj
    cases hallowed with
    | loading hnone hturn => exact ⟨hnone, hturn⟩
  generalize hresult : load runs i = result at hstep
  cases hstep with
  | @install _ entry hi =>
    obtain ⟨hnone, rfl⟩ := hturn hi
    have hsource := h.source
    rw [hnone] at hsource
    have hserved := h.serve (room.cell.install entry) hi hnone h.margin
      (hsource.install hresult h.margin)
    rw [hresult] at hserved
    exact hserved
  | @fail _ e hi =>
    obtain ⟨hnone, rfl⟩ := hturn hi
    have hsource := h.source
    rw [hnone] at hsource
    have hstale : IsStale cell.margin now (load i i) := by
      intro entry hentry
      rw [hresult] at hentry
      cases hentry
    have hserved := h.serve room.cell hi hnone h.margin (hnone ▸ hsource.stale hstale)
    rw [hresult] at hserved
    exact hserved

/-- **Whatever happens in turn, as many callers have been served by loads of their own as loads
have ended**, and the others wait or share. -/
theorem InTurn.progress (h : InTurn load (gathered cell now n) runs room) :
    Progress load cell now n runs room := by
  induction h with
  | start => exact progress_gathered load cell now n
  | look _ hstep ih => exact ih.look (.of_step? hstep)
  | acquire _ hturn hstep ih => exact ih.acquire hturn (.of_step? hstep)
  | recheck _ hstep ih => exact ih.recheck (.of_step? hstep)
  | finish _ hstep ih => exact ih.finish (.of_step? hstep)

/-! ### When everybody is served -/

theorem answers_eq {due : Nat → Except Error α} (hlength : room.callers.length = n)
    (h : ∀ i < n, room.callers[i]? = some (.answered (due i))) :
    room.answers = (List.range n).map due := by
  have hcallers : room.callers = (List.range n).map fun i => .answered (due i) := by
    apply List.ext_getElem?
    intro i
    by_cases hi : i < n
    · simp [h i hi, hi]
    · simp [hlength, hi]
  rw [answers, hcallers, List.filterMap_map]
  exact congrFun List.filterMap_eq_map (List.range n)

/-- The answer of a caller, told from the loads and what the cell holds at the end. -/
def due (load : Loader α) (runs : Nat) (found : Option α) (i : Nat) : Except Error α :=
  match found with
  | none => (load i i).map Entry.value
  | some value => if i < runs then (load i i).map Entry.value else .ok value

/-- When everybody is served, those in front have what they loaded and the others what they share;
if nothing is shared, everybody has loaded. -/
theorem Progress.ended (h : Progress load cell now n runs room) (hdone : room.IsDone) :
    runs ≤ n ∧ (room.cell.get? now = none → runs = n) ∧
      room.answers = (List.range n).map (due load runs (room.cell.get? now)) := by
  have hle : runs ≤ n := by
    by_contra hlt
    exact Nat.lt_irrefl n (h.lt_of_caller (h.served n (by omega)))
  have hshares : ∀ i < n, runs ≤ i → ∃ value, room.cell.get? now = some value ∧
      room.callers[i]? = some (.answered (.ok value)) := by
    intro i hi hruns
    obtain ⟨caller, hcaller⟩ := h.exists_caller hi
    have hallowed := h.rest i caller hruns hcaller
    obtain ⟨answer, rfl⟩ := hdone i caller hcaller
    cases hallowed with
    | answered hfound => exact ⟨_, hfound, hcaller⟩
  refine ⟨hle, ?_, answers_eq h.length fun i hi => ?_⟩
  · intro hnone
    by_contra hne
    obtain ⟨value, hfound, -⟩ := hshares runs (by omega) (Nat.le_refl runs)
    rw [hnone] at hfound
    cases hfound
  · by_cases hlt : i < runs
    · rw [h.served i hlt]
      rcases room.cell.get? now with - | value
      · rfl
      · rw [due, if_pos hlt]
    · obtain ⟨value, hfound, hanswer⟩ := hshares i hi (by omega)
      rw [hanswer, hfound, due, if_neg hlt]

/-! ### One such order -/

/-- A caller that has looked. -/
def HasLooked (caller : Caller α) : Prop := caller = .waiting ∨ ∃ answer, caller = .answered answer

/-- Some callers have looked, and the others have yet to come. -/
structure Queued (m n : Nat) (room : Room α) : Prop where
  free : room.holder = none
  front : ∀ i < m, ∃ caller, room.callers[i]? = some caller ∧ HasLooked caller
  back : ∀ i, m ≤ i → i < n → room.callers[i]? = some .arriving

theorem look_of_arriving (hi : room.callers[i]? = some .arriving) :
    ∃ caller, HasLooked caller ∧ room.look i = room.put i caller ∧
      room.step? (.look i) = some (room.look i) := by
  rcases hfound : room.cell.get? room.now with - | value
  · exact ⟨.waiting, .inl rfl, by simp [Room.look, step?, hi, hfound]⟩
  · exact ⟨.answered (.ok value), .inr ⟨_, rfl⟩, by simp [Room.look, step?, hi, hfound]⟩

theorem queued_look (load : Loader α) (cell : Cached α) (now : Instant) {m n : Nat} (hm : m ≤ n) :
    InTurn load (gathered cell now n) 0 ((List.range m).foldl look (gathered cell now n)) ∧
      Queued m n ((List.range m).foldl look (gathered cell now n)) := by
  induction m with
  | zero =>
    refine ⟨.start, rfl, by simp, ?_⟩
    intro i _ hi
    exact List.getElem?_replicate_of_lt hi
  | succ m ih =>
    obtain ⟨hturn, hqueued⟩ := ih (by omega)
    rw [List.range_succ, List.foldl_append, List.foldl_cons, List.foldl_nil]
    generalize (List.range m).foldl look (gathered cell now n) = room at hturn hqueued
    -- looking moves the next one from the back to the front
    have hm' := hqueued.back m (Nat.le_refl m) hm
    obtain ⟨caller, hlooked, hlook, hstep⟩ := look_of_arriving hm'
    refine ⟨hturn.look hstep, ?_⟩
    rw [hlook]
    constructor
    · exact hqueued.free
    · intro i hi
      rcases Nat.lt_succ_iff_lt_or_eq.mp hi with hlt | rfl
      · rw [callers_put_of_ne (by omega)]
        exact hqueued.front i hlt
      · exact ⟨caller, callers_put_self hm' caller, hlooked⟩
    · intro i hi hin
      rw [callers_put_of_ne (by omega)]
      exact hqueued.back i (by omega) hin

/-- Some callers have been served, and the others have looked. -/
structure Serving (m n : Nat) (room : Room α) : Prop where
  free : room.holder = none
  front : ∀ i < m, ∃ answer, room.callers[i]? = some (.answered answer)
  back : ∀ i, m ≤ i → i < n → ∃ caller, room.callers[i]? = some caller ∧ HasLooked caller

theorem serveOne_of_recheck {inside checked : Room α}
    (hacquire : room.step? (.acquire i) = some inside)
    (hrecheck : inside.step? (.recheck i) = some checked) :
    serveOne load (room, runs) i = (checked.step? (.finish i (load runs i))).elim (checked, runs)
      fun served => (served, runs + 1) := by
  simp only [serveOne, hacquire, Option.bind_some, hrecheck]
  rcases checked.step? (.finish i (load runs i)) with - | served
  · rfl
  · rfl

/-- Whoever waits in front is served to the end. -/
theorem serveOne_of_waiting (hi : room.callers[i]? = some .waiting) (hfree : room.holder = none)
    (hfront : ∀ j < i, ∃ answer, room.callers[j]? = some (.answered answer))
    (h : InTurn load start runs room) :
    ∃ answer, InTurn load start (serveOne load (room, runs) i).2
        (serveOne load (room, runs) i).1 ∧
      (serveOne load (room, runs) i).1.holder = none ∧
      (serveOne load (room, runs) i).1.callers = room.callers.set i (.answered answer) := by
  have hlength : i < room.callers.length := (List.getElem?_eq_some_iff.mp hi).1
  have hturn : ∀ j < i, room.callers[j]? ≠ some .arriving ∧ room.callers[j]? ≠ some .waiting := by
    intro j hj
    obtain ⟨answer, hanswer⟩ := hfront j hj
    simp [hanswer]
  have hacquire : room.step? (.acquire i)
      = some { room.put i .checking with holder := some i } := by
    simp [step?, hi, hfree]
  have hinside := h.acquire hturn hacquire
  rcases hfound : room.cell.get? room.now with - | value
  · have hrecheck : Room.step? { room.put i .checking with holder := some i } (.recheck i)
        = some { room.put i .loading with holder := some i } := by
      simp [step?, Room.put, hfound, hlength]
    have hloading := hinside.recheck hrecheck
    rw [serveOne_of_recheck hacquire hrecheck]
    -- the load is its own, and it ends one way or the other
    rcases hresult : load runs i with e | entry
    · have hfinish : Room.step? { room.put i .loading with holder := some i }
          (.finish i (.error e)) = some (room.put i (.answered (.error e))).release := by
        simp [step?, Room.put, release, hlength]
      rw [hfinish]
      exact ⟨.error e, hloading.finish (hresult ▸ hfinish), rfl, rfl⟩
    · have hfinish : Room.step? { room.put i .loading with holder := some i }
          (.finish i (.ok entry))
          = some { (room.put i (.answered (.ok entry.value))).release with
              cell := room.cell.install entry } := by
        simp [step?, Room.put, release, hlength]
      rw [hfinish]
      exact ⟨.ok entry.value, hloading.finish (hresult ▸ hfinish), rfl, rfl⟩
  · have hrecheck : Room.step? { room.put i .checking with holder := some i } (.recheck i)
        = some (room.put i (.answered (.ok value))).release := by
      simp [step?, Room.put, release, hfound, hlength]
    have hfinish : (room.put i (.answered (.ok value))).release.step? (.finish i (load runs i))
        = none := by
      simp [step?, Room.put, release, hlength]
    rw [serveOne_of_recheck hacquire hrecheck, hfinish]
    exact ⟨.ok value, hinside.recheck hrecheck, rfl, rfl⟩

theorem serving_serveOne (hturn : InTurn load start 0 room) (hqueued : Queued n n room) {m : Nat}
    (hm : m ≤ n) :
    InTurn load start ((List.range m).foldl (serveOne load) (room, 0)).2
        ((List.range m).foldl (serveOne load) (room, 0)).1 ∧
      Serving m n ((List.range m).foldl (serveOne load) (room, 0)).1 := by
  induction m with
  | zero => exact ⟨hturn, hqueued.free, by simp, fun i _ hi => hqueued.front i hi⟩
  | succ m ih =>
    obtain ⟨hbefore, hserving⟩ := ih (by omega)
    rw [List.range_succ, List.foldl_append, List.foldl_cons, List.foldl_nil]
    generalize (List.range m).foldl (serveOne load) (room, 0) = state at hbefore hserving
    rcases state with ⟨mid, runs⟩
    obtain ⟨caller, hcaller, hlooked⟩ := hserving.back m (Nat.le_refl m) hm
    rcases hlooked with rfl | ⟨answer, rfl⟩
    · obtain ⟨answer, hnext, hfree, hset⟩ :=
        serveOne_of_waiting hcaller hserving.free hserving.front hbefore
      refine ⟨hnext, hfree, ?_, ?_⟩
      · intro i hi
        rw [hset]
        rcases Nat.lt_succ_iff_lt_or_eq.mp hi with hlt | rfl
        · rw [List.getElem?_set_ne (by omega)]
          exact hserving.front i hlt
        · exact ⟨answer, List.getElem?_set_self (List.getElem?_eq_some_iff.mp hcaller).1⟩
      · intro i hi hin
        rw [hset, List.getElem?_set_ne (by omega)]
        exact hserving.back i (by omega) hin
    · -- it found what it came for when it looked
      have hsame : serveOne load (mid, runs) m = (mid, runs) := by
        simp [serveOne, step?, hcaller]
      rw [hsame]
      refine ⟨hbefore, hserving.free, ?_, fun i hi => hserving.back i (by omega)⟩
      intro i hi
      rcases Nat.lt_succ_iff_lt_or_eq.mp hi with hlt | rfl
      · exact hserving.front i hlt
      · exact ⟨answer, hcaller⟩

/-- **Serving everybody one after the other is a run in turn**, and nobody is left. -/
theorem inTurn_serve (load : Loader α) (cell : Cached α) (now : Instant) (n : Nat) :
    InTurn load (gathered cell now n) (serve load (gathered cell now n)).2
        (serve load (gathered cell now n)).1 ∧
      (serve load (gathered cell now n)).1.IsDone := by
  obtain ⟨hlooked, hqueued⟩ := queued_look load cell now (Nat.le_refl n)
  obtain ⟨hserved, hserving⟩ := serving_serveOne hlooked hqueued (Nat.le_refl n)
  have hserve : serve load (gathered cell now n) = (List.range n).foldl (serveOne load)
      ((List.range n).foldl look (gathered cell now n), 0) := by
    simp [serve, gathered]
  rw [hserve]
  refine ⟨hserved, fun i caller hi => ?_⟩
  obtain ⟨answer, hanswer⟩ := hserving.front i (hserved.progress.lt_of_caller hi)
  rw [hi] at hanswer
  exact ⟨answer, Option.some.inj hanswer⟩

/-! ### Who loads and who shares -/

/-- Callers that come to a cell together run so many loads, and get these answers. -/
structure Settles (cell : Cached α) (now : Instant) (n : Nat) (load : Loader α) (runs : Nat)
    (answer : Nat → Except Error α) : Prop where
  /-- Whatever happens in turn, that is how it ends. -/
  inTurn : ∀ k room, InTurn load (gathered cell now n) k room → room.IsDone →
    k = runs ∧ room.answers = (List.range n).map answer
  /-- It does end if they are served one after the other. -/
  served : ∃ after, concurrently cell now n load = ((List.range n).map answer, runs, after)

/-- How it ends is told from where the value comes from that is fresh then. -/
theorem settles_of_source {answer : Nat → Except Error α}
    (h : ∀ k found, Source load cell now k found → k ≤ n → (found = none → k = n) →
      k = runs ∧ ∀ i < n, due load k found i = answer i) :
    Settles cell now n load runs answer := by
  have hends : ∀ k room, InTurn load (gathered cell now n) k room → room.IsDone →
      k = runs ∧ room.answers = (List.range n).map answer := by
    intro k room hturn hdone
    obtain ⟨hle, hall, hanswers⟩ := hturn.progress.ended hdone
    obtain ⟨hruns, hdue⟩ := h k _ hturn.progress.source hle hall
    refine ⟨hruns, hanswers.trans (List.map_congr_left fun i hi => ?_)⟩
    exact hdue i (List.mem_range.mp hi)
  obtain ⟨hturn, hdone⟩ := inTurn_serve load cell now n
  obtain ⟨hruns, hanswers⟩ := hends _ _ hturn hdone
  refine ⟨hends, (serve load (gathered cell now n)).1.cell, ?_⟩
  rw [← hruns, ← hanswers]
  rfl

/-- Loads the first of which fail.  The others give what their callers want, and all of it expires
at the same time. -/
def failingFirst (failures : Nat) (fault : Nat → Error) (value : Nat → α)
    (expiry : Option Instant) : Loader α :=
  fun runs i => if runs < failures then .error (fault (runs + 1)) else .ok ⟨value i, expiry⟩

variable {failures : Nat} {fault : Nat → Error} {give : Nat → α} {expiry : Option Instant}

theorem failingFirst_eq_ok_iff {entry : Entry α} :
    failingFirst failures fault give expiry i i = .ok entry ↔
      failures ≤ i ∧ entry = ⟨give i, expiry⟩ := by
  unfold failingFirst
  split
  · next hlt =>
    constructor
    · intro h
      cases h
    · rintro ⟨hle, -⟩
      omega
  · next hge =>
    constructor
    · intro h
      cases h
      exact ⟨by omega, rfl⟩
    · rintro ⟨-, rfl⟩
      rfl

theorem map_failingFirst (i : Nat) :
    (failingFirst failures fault give expiry i i).map Entry.value
      = if i < failures then .error (fault (i + 1)) else .ok (give i) := by
  unfold failingFirst
  split <;> rfl

/-- **Who loads and who shares.**  If nothing fresh is there, the first callers get the failures of
their own loads.  If what a load gives is fresh, the first good load is the last one, and everybody
behind it shares; otherwise everybody loads.  If something fresh is there, nobody does. -/
theorem settles_failingFirst (cell : Cached α) (now : Instant) (n failures : Nat)
    (fault : Nat → Error) (value : Nat → α) (expiry : Option Instant) :
    (cell.get? now = none → (∀ time ∈ expiry, now.before (time.sub cell.margin) = true) →
      Settles cell now n (failingFirst failures fault value expiry) (min n (failures + 1)) fun i =>
        if i < failures then .error (fault (i + 1)) else .ok (value failures)) ∧
    (cell.get? now = none → ¬(∀ time ∈ expiry, now.before (time.sub cell.margin) = true) →
      Settles cell now n (failingFirst failures fault value expiry) n fun i =>
        if i < failures then .error (fault (i + 1)) else .ok (value i)) ∧
    (∀ kept, cell.get? now = some kept →
      Settles cell now n (failingFirst failures fault value expiry) 0 fun _ => .ok kept) := by
  refine ⟨fun hnone hfresh => ?_, fun hnone hstale => ?_, fun kept hkept => ?_⟩
  · -- a load gives something fresh as soon as it does not fail
    have hfails : ∀ {i}, IsStale cell.margin now (failingFirst failures fault value expiry i i) →
        i < failures := by
      intro i hi
      by_contra hge
      exact hi _ (failingFirst_eq_ok_iff.mpr ⟨by omega, rfl⟩) hfresh
    refine settles_of_source fun k found hsource hle hall => ?_
    cases hsource with
    | missing _ hbefore =>
      obtain rfl := hall rfl
      have hn : k ≤ failures := by
        by_contra hlt
        have := hfails (hbefore failures (by omega))
        omega
      refine ⟨by omega, fun i hi => ?_⟩
      rw [due, map_failingFirst, if_pos (by omega), if_pos (by omega)]
    | kept hkept =>
      rw [hnone] at hkept
      cases hkept
    | @loaded last entry _ hbefore hload =>
      obtain ⟨hge, rfl⟩ := failingFirst_eq_ok_iff.mp hload
      obtain rfl : last = failures := by
        by_contra hne
        have := hfails (hbefore failures (by omega))
        omega
      refine ⟨by omega, fun i hi => ?_⟩
      rw [due, map_failingFirst]
      split
      · split
        · rfl
        · obtain rfl : i = last := by omega
          rfl
      · rw [if_neg (by omega)]
  · refine settles_of_source fun k found hsource hle hall => ?_
    cases hsource with
    | missing =>
      exact ⟨hall rfl, fun i hi => map_failingFirst i⟩
    | kept hkept =>
      rw [hnone] at hkept
      cases hkept
    | loaded _ _ hload hfresh =>
      obtain ⟨-, rfl⟩ := failingFirst_eq_ok_iff.mp hload
      exact absurd hfresh hstale
  · refine settles_of_source fun k found hsource hle hall => ?_
    cases hsource with
    | kept hfound =>
      rw [hkept] at hfound
      cases hfound
      exact ⟨rfl, fun i hi => by rw [due, if_neg (Nat.not_lt_zero i)]⟩
    | missing hnone | loaded hnone =>
      rw [hkept] at hnone
      cases hnone

/-- The loads of callers that want their own numbers; the first one fails. -/
def numbered (expiry : Instant) : Loader Nat :=
  failingFirst 1 (fun _ => .platform .noResponseLeft) id (some expiry)

/-- Four callers at an empty cell.  What lasts for a hundred seconds is loaded twice and shared,
what lasts for as long as the margin is loaded by everybody, and what is there is not loaded. -/
theorem settles_failingFirst_numbered :
    Settles ⟨.ofSeconds 10, none⟩ (.ofSecond 0) 4 (numbered (.ofSecond 100)) 2 (fun i =>
      if i < 1 then .error (.platform .noResponseLeft) else .ok 1) ∧
    Settles ⟨.ofSeconds 10, none⟩ (.ofSecond 0) 4 (numbered (.ofSecond 10)) 4 (fun i =>
      if i < 1 then .error (.platform .noResponseLeft) else .ok i) ∧
    Settles ⟨.ofSeconds 10, some ⟨7, none⟩⟩ (.ofSecond 0) 4 (numbered (.ofSecond 100)) 0
      (fun _ => .ok 7) :=
  ⟨(settles_failingFirst _ _ 4 1 _ id _).1 rfl (by decide),
   (settles_failingFirst _ _ 4 1 _ id _).2.1 rfl (by decide),
   (settles_failingFirst _ _ 4 1 _ id _).2.2 7 rfl⟩

end Room

end AwsSigning.Cached
