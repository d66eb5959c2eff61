/-
AwsSigning/Proofs/Traffic.lean

What goes over the wire.

A platform writes down what is sent and uses its replies up in order.  So the
requests that stand there after an operation and did not stand there before
are the traffic of the operation, each with the reply that was next at the
time (`Platform.exchanges`).

An operation that does nothing to a platform but send moves it on in a way
that is told by its traffic alone (`Platform.Exchanged`), and the traffic of
two operations in turn is that of the first and then that of the second:

    Exchanged p log q  →  Exchanged q log' r  →  Exchanged p (log ++ log') r
-/
import AwsSigning.Proofs.Operation
import AwsSigning.Proofs.Platform

namespace AwsSigning

/-! ### Exchanges -/

/-- A request, the time at which it was sent, and what it got. -/
structure Exchange where
  time : Instant
  request : Outgoing
  reply : Reply

namespace Exchange

/-- What was to be done. -/
def method (x : Exchange) : Method := x.request.head.method

/-- The request has this method, goes to this address and says nothing but these fields. -/
structure Spells (x : Exchange) (method : Method) (url : String)
    (fields : List (HeaderName × String)) : Prop where
  method : x.method = method
  uri : Uri.parse url = .ok x.request.head.uri
  fields : x.request.head.headers.map (fun field => (field.1, field.2.bytes))
    = fields.map fun field => (field.1, Utf8.ofString field.2)
  payload : x.request.payload = []

end Exchange

/-- What can come of sending at most one request, of which something is known: nothing is sent, or
the outcome is the reply, up to what a failure says. -/
inductive SentOnce (P : Exchange → Prop) : List Exchange → Except Error Response → Prop
  | unsent {e} : SentOnce P [] (.error e)
  | sent {x r} (hx : P x) (hreply : x.reply.toOption = r.toOption) : SentOnce P [x] r

theorem SentOnce.imp {P Q : Exchange → Prop} {log : List Exchange} {r : Except Error Response}
    (h : SentOnce P log r) (hPQ : ∀ x, P x → Q x) : SentOnce Q log r := by
  cases h with
  | unsent => exact .unsent
  | sent hx hreply => exact .sent (hPQ _ hx) hreply

theorem SentOnce.mapError {P : Exchange → Prop} {log : List Exchange} {r : Except Error Response}
    (h : SentOnce P log r) (f : Error → Error) : SentOnce P log (r.mapError f) := by
  cases h with
  | unsent => exact .unsent
  | sent hx hreply =>
    refine .sent hx (hreply.trans ?_)
    rcases r with e | response <;> rfl

namespace Platform

variable {p q r : Platform} {log log' : List Exchange} {x : Exchange}

/-- What the `n`-th request from now on gets. -/
def replyAt (p : Platform) (n : Nat) : Reply :=
  ((p.replies.getD [])[n]?).getD (.error (.platform .noResponseLeft))

/-- These requests, sent one after the other while the clock stands still. -/
def traffic (p : Platform) (requests : List Outgoing) : List Exchange :=
  requests.mapIdx fun n request => ⟨p.now, request, p.replyAt n⟩

/-- The requests that were sent in between, with what they got. -/
def exchanges (before after : Platform) : List Exchange :=
  before.traffic (after.sent.drop before.sent.length)

/-- Nothing but these exchanges has happened in between. -/
structure Exchanged (p : Platform) (log : List Exchange) (q : Platform) : Prop where
  after : q = { p with
    sent := p.sent ++ log.map (·.request)
    replies := p.replies.map (·.drop log.length) }
  entries : log = p.traffic (log.map (·.request))

namespace Exchanged

/-- What is exchanged can be read off the platform. -/
theorem exchanges_eq (h : Exchanged p log q) : p.exchanges q = log := by
  rw [exchanges, h.after, List.drop_left, ← h.entries]

theorem now_eq (h : Exchanged p log q) : q.now = p.now := by rw [h.after]

theorem sameSettings (h : Exchanged p log q) : p.SameSettings q := by
  rw [h.after]
  exact ⟨rfl, rfl⟩

/-- The clock does not move in between. -/
theorem time_of_mem (h : Exchanged p log q) (hx : x ∈ log) : x.time = p.now := by
  rw [h.entries, traffic, List.mem_mapIdx] at hx
  obtain ⟨n, hn, rfl⟩ := hx
  rfl

protected theorem nil (p : Platform) : Exchanged p [] p where
  after := by cases p; simp
  entries := rfl

/-- Where nothing was exchanged, nothing has happened. -/
theorem eq_of_nil (h : Exchanged p [] q) : q = p := by
  rw [h.after]
  cases p
  simp

/-- Requests can still be sent. -/
theorem replies_ne_none (h : Exchanged p log q) (hp : p.replies ≠ none) : q.replies ≠ none := by
  rw [h.after]
  simpa using hp

/-- The next replies are those behind the ones that were used up. -/
theorem replyAt_eq (h : Exchanged p log q) (n : Nat) :
    q.replyAt n = p.replyAt (n + log.length) := by
  rw [h.after, replyAt, replyAt]
  rcases p.replies with - | replies
  · rfl
  · simp [Nat.add_comm]

/-- **What is exchanged first and what is exchanged then is exchanged in turn.** -/
theorem append (h : Exchanged p log q) (h' : Exchanged q log' r) :
    Exchanged p (log ++ log') r where
  after := by
    rw [h'.after, h.after]
    simp [Function.comp_def]
  entries := by
    -- the later requests get the replies behind those that were used up
    have hlater : p.traffic (log.map (·.request) ++ log'.map (·.request))
        = p.traffic (log.map (·.request)) ++ q.traffic (log'.map (·.request)) := by
      simp only [traffic, List.mapIdx_append, List.length_map, h.now_eq, h.replyAt_eq]
    rw [List.map_append, hlater, ← h.entries, ← h'.entries]

end Exchanged

/-- **A request that is sent is exchanged with the next reply**, and nothing else happens. -/
theorem exists_exchanged_send (hreplies : p.replies ≠ none) (request : Outgoing) :
    ∃ x, Exchanged p [x] ((send request).outcome p).2 ∧ x.request = request ∧
      x.reply = ((send request).outcome p).1 := by
  -- no reply is left, or there is a next one
  rcases hleft : p.replies with - | - | ⟨reply, rest⟩
  · exact absurd hleft hreplies
  all_goals simp only [send, Operation.outcome_of, hleft]
  · refine ⟨⟨p.now, request, .error (.platform .noResponseLeft)⟩, ⟨?_, ?_⟩, rfl, rfl⟩
    · simp [hleft]
    · simp [traffic, replyAt, hleft]
  · refine ⟨⟨p.now, request, reply⟩, ⟨?_, ?_⟩, rfl, rfl⟩
    · simp [hleft]
    · simp [traffic, replyAt, hleft]

/-- If there is no service, nothing is sent. -/
theorem exists_sentOnce_send (request : Outgoing) (p : Platform) :
    ∃ log, Exchanged p log ((send request).outcome p).2 ∧
      SentOnce (·.request = request) log ((send request).outcome p).1 := by
  by_cases hreplies : p.replies = none
  · simp only [send, Operation.outcome_of, hreplies]
    exact ⟨[], .nil p, .unsent⟩
  · obtain ⟨x, hlog, hrequest, hreply⟩ := exists_exchanged_send hreplies request
    exact ⟨[x], hlog, .sent hrequest (congrArg Except.toOption hreply)⟩

end Platform

end AwsSigning
