/-
AwsSigning/Proofs/Payload/Recording.lean

Which calls are made to a stream.

What an operation does to a stream shows in the stream afterwards, but not
every call leaves a trace there.  So the stream is put into a record that
writes down each call (`Recorded`) and is a stream as well: it answers every
call as the stream in it does.  Whatever is done to a payload of any stream is
done to that of a record, and there the calls can be read off (`Called`):

    rewinding a payload    no chunk is asked for
    taking its digest      chunks up to the end, and back to the first byte

A payload that cannot be read twice is not called at all when it is rewound.
-/
import AwsSigning.Proofs.Payload.Reading

namespace AwsSigning

/-! ### Streams that are called -/

namespace ByteStream

variable {σ : Type} [ByteStream σ]

theorem after_append (s : σ) (made more : List Call) :
    after s (made ++ more) = after (after s made) more :=
  List.foldl_append

/-- **Reading to the end asks for chunks only.** -/
theorem exists_after_eq_readRest (s : σ) :
    ∃ n, (readRest s).2 = after s (List.replicate n .next) := by
  induction s using readRest.induct with
  | case1 s chunk s' h ih =>
    obtain ⟨n, ih⟩ := ih
    have hcall : called s .next = s' := congrArg Prod.snd h
    refine ⟨n + 1, ?_⟩
    rw [readRest_of_some h, List.replicate_succ, after, List.foldl_cons, hcall]
    exact ih
  | case2 s s' h =>
    rw [readRest_of_none h]
    exact ⟨1, (congrArg Prod.snd h).symm⟩
  | case3 s e s' h =>
    rw [readRest_of_error h]
    exact ⟨1, (congrArg Prod.snd h).symm⟩

end ByteStream

open ByteStream

/-! ### Records -/

/-- A stream, and the calls that were made to it. -/
structure Recorded (σ : Type) where
  stream : σ
  calls : List Call := []

namespace Recorded

variable {σ : Type}

/-- A call is answered by the stream, and written down. -/
def answer (call : Call) (op : Operation σ α) : Operation (Recorded σ) α :=
  Operation.of fun r => ((op.outcome r.stream).1, ⟨(op.outcome r.stream).2, r.calls ++ [call]⟩)

instance [ByteStream σ] : ByteStream (Recorded σ) where
  length? r := length? r.stream
  replayable r := replayable r.stream
  next := answer .next next
  rewind := answer .rewind rewind
  left r := left r.stream
  left_lt := by
    rintro ⟨stream, calls⟩ chunk _ h
    obtain ⟨hchunk, rfl⟩ := Prod.mk.inj h
    exact left_lt _ _ _ (Prod.ext hchunk rfl)

/-- **A record tells the calls that were made to it**, in their order. -/
theorem calls_after [ByteStream σ] (r : Recorded σ) (made : List Call) :
    (after r made).calls = r.calls ++ made := by
  induction made generalizing r with
  | nil => exact (List.append_nil r.calls).symm
  | cons call made ih =>
    have hcall : (called r call).calls = r.calls ++ [call] := by
      cases call <;> rfl
    rw [after, List.foldl_cons, ← after, ih, hcall, List.append_assoc, List.singleton_append]

end Recorded

/-! ### Payloads -/

namespace Payload

variable {σ : Type} [ByteStream σ]

/-- The payload after some calls to its stream, if it is one. -/
def after (payload : Payload σ) (made : List Call) : Payload σ :=
  match payload with
  | stream s => stream (ByteStream.after s made)
  | other => other

theorem after_nil (payload : Payload σ) : payload.after [] = payload := by
  cases payload <;> rfl

theorem after_after (payload : Payload σ) (made more : List Call) :
    (payload.after made).after more = payload.after (made ++ more) := by
  rcases payload with - | bytes | s
  · rfl
  · rfl
  · exact congrArg stream (after_append s made more).symm

/-- A payload that cannot be read twice is not rewound. -/
theorem outcome_rewind_of_isUnbounded {payload : Payload σ} (h : payload.isUnbounded = true) :
    rewind.outcome payload = (.ok (), payload) := by
  rcases payload with - | bytes | s
  · rfl
  · rfl
  · have hreplayable : ¬replayable s = true := by simpa [isUnbounded] using h
    rw [rewind, Operation.outcome_of]
    dsimp only
    rw [if_neg hreplayable]

/-- The calls that were made to the stream, if the payload is one. -/
def calls : Payload (Recorded σ) → List Call
  | stream r => r.calls
  | _ => []

/-- Between two moments some calls were made to a payload, and its record tells them. -/
structure Called (before later : Payload (Recorded σ)) (made : List Call) : Prop where
  eq_after : later = before.after made
  calls_eq : later.calls = before.calls ++ made

theorem Called.refl (payload : Payload (Recorded σ)) : Called payload payload [] :=
  ⟨payload.after_nil.symm, (List.append_nil _).symm⟩

theorem Called.trans {before between later : Payload (Recorded σ)} {made more : List Call}
    (h : Called before between made) (h' : Called between later more) :
    Called before later (made ++ more) where
  eq_after := by rw [h'.eq_after, h.eq_after, after_after]
  calls_eq := by rw [h'.calls_eq, h.calls_eq, List.append_assoc]

theorem called_stream (r : Recorded σ) (made : List Call) :
    Called (stream r) (stream (ByteStream.after r made)) made :=
  ⟨rfl, r.calls_after made⟩

/-- To rewind a payload no chunk is asked for. -/
theorem exists_called_rewind (payload : Payload (Recorded σ)) :
    ∃ made, Called payload (rewind.outcome payload).2 made ∧ .next ∉ made := by
  rcases payload with - | bytes | r
  · exact ⟨[], .refl _, List.not_mem_nil⟩
  · exact ⟨[], .refl _, List.not_mem_nil⟩
  · rw [rewind, Operation.outcome_of]
    dsimp only
    split
    · exact ⟨[.rewind], called_stream r [.rewind], by decide⟩
    · exact ⟨[], .refl _, List.not_mem_nil⟩

/-- For a digest, a payload is called if it can be read twice. -/
theorem exists_called_hexDigest (payload : Payload (Recorded σ)) :
    ∃ made, Called payload (hexDigest.outcome payload).2 made := by
  rcases payload with - | bytes | r
  · exact ⟨[], .refl _⟩
  · exact ⟨[], .refl _⟩
  · by_cases hreplayable : replayable r = true
    · rw [outcome_hexDigest_stream hreplayable]
      obtain ⟨n, hread⟩ := exists_after_eq_readRest r
      rcases hrest : readRest r with ⟨e | chunks, r'⟩
      · rw [hrest] at hread
        subst hread
        exact ⟨_, called_stream r _⟩
      · rw [hrest] at hread
        subst hread
        exact ⟨_, (called_stream r _).trans (called_stream _ [.rewind])⟩
    · rw [hexDigest, Operation.outcome_of]
      dsimp only
      rw [if_neg hreplayable]
      exact ⟨[], .refl _⟩

end Payload

end AwsSigning
