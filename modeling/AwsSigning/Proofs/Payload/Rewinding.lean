/-
AwsSigning/Proofs/Payload/Rewinding.lean

Where a stream stands after its digest was taken.

A stream *restarts* if rewinding it succeeds at every moment, whatever was
called before, and leads to its start.  Only the stream knows what its start
is, so the start may be any property that rewinding establishes, such as that
all chunks are still to come (`Restarts`).

Whoever takes a digest asks for chunks up to the end and then rewinds:

    all chunks are read    next … next rewind    at the start
    a chunk is not read    next … next           where the failure left it

So the stream is back at its start exactly if all chunks were read, or if the
failure left it there by itself (`atStart_iff_of_hexDigest`).  A stream in
memory that fails at its end stays there, and the next to read it finds no
chunk (`FaultyStream.unread_of_hexDigest`).
-/
import AwsSigning.Proofs.Payload.Recording

namespace AwsSigning

open ByteStream

/-! ### Streams that restart -/

namespace ByteStream

variable {σ : Type} [ByteStream σ] {AtStart : σ → Prop} {s : σ}

/-- Rewinding succeeds whatever was called before, and leads to the start. -/
def Restarts (AtStart : σ → Prop) (s : σ) : Prop :=
  ∀ made, ∃ t, rewind.outcome (after s made) = (.ok (), t) ∧ AtStart t

end ByteStream

/-- **A stream in memory restarts with all its chunks.** -/
theorem ReplayableStream.restarts (s : ReplayableStream) :
    Restarts (fun t => t.unread = s.chunks) s := by
  intro made
  refine ⟨_, (after s made).outcome_rewind, ?_⟩
  show (after s made).chunks.drop 0 = s.chunks
  rw [List.drop_zero, s.chunks_after]

/-! ### Where the stream stands -/

namespace Payload

variable {σ : Type} [ByteStream σ] {AtStart : σ → Prop} {s s' : σ} {chunks : List Bytes}
  {e : Error}

/-- A stream whose chunks are all read is rewound. -/
theorem exists_hexDigest_of_read (hreplayable : replayable s = true) (h : Restarts AtStart s)
    (hread : readRest s = (.ok chunks, s')) :
    ∃ later, hexDigest.outcome (stream s)
        = (.ok (Sha256.hexDigest chunks.flatten), stream later) ∧
      AtStart later ∧ ∃ n, later = ByteStream.after s (List.replicate n .next ++ [.rewind]) := by
  obtain ⟨n, hcalls⟩ := exists_after_eq_readRest s
  rw [hread] at hcalls
  obtain ⟨t, hrewind, hstart⟩ := h (List.replicate n .next)
  rw [← hcalls] at hrewind
  refine ⟨t, ?_, hstart, n, ?_⟩
  · rw [outcome_hexDigest_stream hreplayable, hread]
    dsimp only
    rw [hrewind]
    rfl
  · rw [after_append, ← hcalls]
    exact (congrArg Prod.snd hrewind).symm

/-- A stream with a chunk that is not read stays where it is then. -/
theorem hexDigest_of_not_read (hreplayable : replayable s = true)
    (hread : readRest s = (.error e, s')) :
    hexDigest.outcome (stream s) = (.error e, stream s') := by
  rw [outcome_hexDigest_stream hreplayable, hread]

/-- **A stream is back at its start after its digest was taken, unless a chunk could not be read.**
With the digest the stream is at its start; with a failure to read it is where that left it, and
rewinding was not tried. -/
theorem atStart_iff_of_hexDigest (hreplayable : replayable s = true) (h : Restarts AtStart s) :
    ∃ result later, hexDigest.outcome (stream s) = (result, stream later) ∧
      result = (readRest s).1.map (fun chunks => Sha256.hexDigest chunks.flatten) ∧
      (∀ digest, result = .ok digest →
        AtStart later ∧ ∃ n, later = ByteStream.after s (List.replicate n .next ++ [.rewind])) ∧
      (∀ e, result = .error e →
        later = (readRest s).2 ∧ ∃ n, later = ByteStream.after s (List.replicate n .next)) ∧
      (AtStart later ↔ (∃ digest, result = .ok digest) ∨ AtStart (readRest s).2) := by
  rcases hread : readRest s with ⟨e | chunks, s'⟩
  · obtain ⟨n, hcalls⟩ := exists_after_eq_readRest s
    rw [hread] at hcalls
    refine ⟨.error e, s', hexDigest_of_not_read hreplayable hread, rfl, ?_, ?_, ?_⟩
    · rintro digest ⟨⟩
    · exact fun _ _ => ⟨rfl, n, hcalls⟩
    · refine ⟨.inr, ?_⟩
      rintro (⟨digest, ⟨⟩⟩ | hstart)
      exact hstart
  · obtain ⟨later, hdigest, hstart, hcalls⟩ := exists_hexDigest_of_read hreplayable h hread
    refine ⟨_, later, hdigest, rfl, fun _ _ => ⟨hstart, hcalls⟩, ?_, ?_⟩
    · rintro e ⟨⟩
    · exact ⟨fun _ => .inl ⟨_, rfl⟩, fun _ => hstart⟩

/-- A greeting in two chunks, of which the first one has been read. -/
def greeting : ReplayableStream := ⟨[Utf8.ofString "hello ", Utf8.ofString "world"], 1⟩

/-- The digest is that of the second chunk, and then both chunks are still to come. -/
theorem atStart_iff_of_hexDigest_greeting :
    ∃ later, hexDigest.outcome (stream greeting)
        = (.ok (Sha256.hexDigest (Utf8.ofString "world")), stream later) ∧
      later.unread = greeting.chunks := by
  obtain ⟨result, later, hdigest, hresult, hback, -, -⟩ :=
    atStart_iff_of_hexDigest (s := greeting) rfl greeting.restarts
  rw [greeting.readRest_eq.1] at hresult
  subst hresult
  exact ⟨later, hdigest, (hback _ rfl).1⟩

end Payload

/-! ### Streams in memory that fail -/

namespace FaultyStream

variable {s : FaultyStream} {e : Error}

/-- Asking for a chunk moves the stream in memory, whether it fails or not. -/
theorem called_next (s : FaultyStream) :
    called s .next = { s with inner := called s.inner .next } := by
  show (FaultyStream.next.outcome s).2
    = { s with inner := (ReplayableStream.next.outcome s.inner).2 }
  rw [next, Operation.outcome_of]
  rcases ReplayableStream.next.outcome s.inner with ⟨_ | _ | chunk, inner⟩
  · rfl
  · rcases s.readFault with - | e <;> rfl
  · rfl

/-- No call changes the chunks, or whether rewinding fails. -/
theorem kept_called (s : FaultyStream) (call : Call) :
    (called s call).inner.chunks = s.inner.chunks ∧
      (called s call).rewindFault = s.rewindFault := by
  cases call with
  | next =>
    rw [called_next]
    exact ⟨s.inner.chunks_called .next, rfl⟩
  | rewind =>
    show (FaultyStream.rewind.outcome s).2.inner.chunks = _ ∧
      (FaultyStream.rewind.outcome s).2.rewindFault = _
    rw [rewind, Operation.outcome_of]
    split
    · exact ⟨rfl, rfl⟩
    · exact ⟨rfl, rfl⟩

theorem kept_after (s : FaultyStream) (made : List Call) :
    (after s made).inner.chunks = s.inner.chunks ∧
      (after s made).rewindFault = s.rewindFault := by
  induction made generalizing s with
  | nil => exact ⟨rfl, rfl⟩
  | cons call made ih =>
    obtain ⟨hchunks, hfault⟩ := ih (called s call)
    obtain ⟨hchunks', hfault'⟩ := s.kept_called call
    exact ⟨hchunks.trans hchunks', hfault.trans hfault'⟩

theorem outcome_rewind (h : s.rewindFault = none) : ByteStream.rewind.outcome s
    = (.ok (), { s with inner := { s.inner with position := 0 } }) := by
  obtain ⟨inner, readFault, rewindFault⟩ := s
  cases h
  rfl

/-- **A stream in memory whose rewinding does not fail restarts with all its chunks.** -/
theorem restarts (h : s.rewindFault = none) :
    Restarts (fun t => t.inner.unread = s.inner.chunks) s := by
  intro made
  obtain ⟨hchunks, hfault⟩ := s.kept_after made
  exact ⟨_, outcome_rewind (hfault.trans h), hchunks⟩

/-- A chunk is read, or the fault shows at the end. -/
theorem outcome_next (h : s.readFault = some e) :
    (ByteStream.next.outcome s = (.error e, s) ∧ s.inner.unread = []) ∨
      ∃ chunk, ByteStream.next.outcome s = (.ok (some chunk), called s .next) ∧
        (called s .next).readFault = some e := by
  obtain ⟨inner, readFault, rewindFault⟩ := s
  cases h
  rw [called_next]
  show (FaultyStream.next.outcome _ = _ ∧ _) ∨ ∃ _, FaultyStream.next.outcome _ = _ ∧ _
  rw [next, Operation.outcome_of]
  rcases inner.outcome_next with ⟨hend, hunread⟩ | ⟨chunk, hnext, -⟩
  · have hend : ReplayableStream.next.outcome inner = (.ok none, inner) := hend
    exact .inl ⟨by rw [hend], hunread⟩
  · refine .inr ⟨chunk, ?_, rfl⟩
    have hnext' : ReplayableStream.next.outcome inner
        = (.ok (some chunk), { inner with position := inner.position + 1 }) := hnext
    rw [hnext', called, hnext]

/-- **A stream that fails at its end is read up to its end**, from wherever it stands. -/
theorem readRest_of_readFault (h : s.readFault = some e) :
    (readRest s).1 = .error e ∧ (readRest s).2.inner.unread = [] := by
  induction s using readRest.induct with
  | case1 s chunk s' hnext ih =>
    rcases outcome_next h with ⟨hend, -⟩ | ⟨chunk', hsome, hfault⟩
    · cases hnext.symm.trans hend
    · cases hnext.symm.trans hsome
      obtain ⟨hfailed, hunread⟩ := ih hfault
      rw [readRest_of_some hnext, hfailed]
      exact ⟨rfl, hunread⟩
  | case2 s s' hnext =>
    rcases outcome_next h with ⟨hend, -⟩ | ⟨chunk, hsome, -⟩
    · cases hnext.symm.trans hend
    · cases hnext.symm.trans hsome
  | case3 s e' s' hnext =>
    rcases outcome_next h with ⟨hend, hunread⟩ | ⟨chunk, hsome, -⟩
    · cases hnext.symm.trans hend
      rw [readRest_of_error hnext]
      exact ⟨rfl, hunread⟩
    · cases hnext.symm.trans hsome

/-- **A stream that fails at its end is left there when its digest is taken**, so the next to read
it finds no chunk. -/
theorem unread_of_hexDigest (h : s.readFault = some e) :
    ∃ later, Payload.hexDigest.outcome (.stream s) = (.error e, .stream later) ∧
      later.inner.unread = [] := by
  obtain ⟨hfailed, hunread⟩ := readRest_of_readFault h
  exact ⟨_, Payload.hexDigest_of_not_read rfl (Prod.ext hfailed rfl), hunread⟩

/-- The greeting, with a fault behind it. -/
def brokenGreeting : FaultyStream where
  inner := Payload.greeting
  readFault := some (.of (.stated .unexpected "stream read failed"))

/-- **A stream that can be rewound is not, when a chunk cannot be read.** -/
theorem not_atStart_brokenGreeting :
    replayable brokenGreeting = true ∧
      Restarts (fun t => t.inner.unread = brokenGreeting.inner.chunks) brokenGreeting ∧
      ∃ e later, Payload.hexDigest.outcome (.stream brokenGreeting) = (.error e, .stream later) ∧
        later.inner.unread = [] ∧ later.inner.unread ≠ brokenGreeting.inner.chunks := by
  refine ⟨rfl, restarts rfl, ?_⟩
  obtain ⟨later, hdigest, hunread⟩ := unread_of_hexDigest (s := brokenGreeting) rfl
  refine ⟨_, later, hdigest, hunread, ?_⟩
  rw [hunread]
  exact (List.cons_ne_nil _ _).symm

end FaultyStream

end AwsSigning
