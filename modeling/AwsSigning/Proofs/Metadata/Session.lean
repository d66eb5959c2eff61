/-
AwsSigning/Proofs/Metadata/Session.lean

What a client of the metadata service says on the wire, in calls that follow
one another.

A call asks for a token if the client has none that is good, shows the token
to ask for a path, and starts over once if the token is refused.  What it
shows is tied to everything that was exchanged before, in this call and in
earlier ones, by one invariant (`Holds`):

    the cell holds the token that was granted last, or nothing

One lemma for each operation says how it can end, what it exchanged, and that
the invariant holds again.  `keepsProtocol_fetch` puts them together for one
call, and `keepsProtocol_of_visits` for a client after any calls, between
which the clock, the settings and the replies to come may change in any way.

The age of a token is told by the order of points in time.  Outside of leap
seconds that is a bound on the seconds between them (`Young.span`).
-/
import Mathlib.Data.List.Chain
import AwsSigning.Metadata.Client
import AwsSigning.Proofs.Cached.SingleFlight
import AwsSigning.Proofs.Http.Header
import AwsSigning.Proofs.Metadata.Client
import AwsSigning.Proofs.Steps
import AwsSigning.Proofs.Time.Instant
import AwsSigning.Proofs.Traffic

namespace AwsSigning

open Operation

/-! ### Tokens on the wire -/

namespace Exchange

/-- The time at which a token was granted, and the response with it, if this was a `PUT` that was
answered with success. -/
def granted? (x : Exchange) : Option (Instant × Response) :=
  if x.method = .put then
    (x.reply.toOption.filter fun response => response.status = .ok).map fun response =>
      (x.time, response)
  else none

/-- The token that was shown was not accepted. -/
def Refused (x : Exchange) : Prop :=
  ∃ response, x.reply = .ok response ∧ response.status = .unauthorized

/-- The token that was shown. -/
def shown? (x : Exchange) : Option Bytes :=
  (x.request.head.headers.values .metadataToken).head?.map (·.bytes)

/-- This text was asked for and given. -/
def Gives (x : Exchange) (text : String) : Prop :=
  x.method = .get ∧ ∃ response, x.reply = .ok response ∧ response.status = .ok ∧
    response.text = text

variable {x : Exchange} {response : Response}

theorem granted?_of_get (h : x.method = .get) : x.granted? = none := by
  have hne : x.method ≠ .put := by
    rw [h]
    decide
  exact if_neg hne

theorem granted?_of_put (hmethod : x.method = .put) {r : Except Error Response}
    (hreply : x.reply.toOption = r.toOption) :
    x.granted? = (r.toOption.filter fun response => response.status = .ok).map fun response =>
      (x.time, response) := by
  rw [granted?, if_pos hmethod, hreply]

/-- A request that shows a token has one field, which holds it. -/
theorem Spells.exists_value {method : Method} {url token : String}
    (h : x.Spells method url [(.metadataToken, token)]) :
    ∃ value, x.request.head.headers = [(.metadataToken, value)] ∧
      value.bytes = Utf8.ofString token := by
  obtain ⟨⟨name, value⟩, hheaders, hfield⟩ := List.map_eq_singleton_iff.mp h.fields
  simp only [Prod.mk.injEq] at hfield
  obtain ⟨rfl, hbytes⟩ := hfield
  exact ⟨value, hheaders, hbytes⟩

theorem shown?_of_spells {method : Method} {url token : String}
    (h : x.Spells method url [(.metadataToken, token)]) :
    x.shown? = some (Utf8.ofString token) := by
  obtain ⟨value, hheaders, hbytes⟩ := h.exists_value
  simp [shown?, Headers.values, hheaders, hbytes]

end Exchange

namespace Metadata

namespace Client

/-! ### Protocol -/

/-- The last token that was granted, and when. -/
def lastGranted? (history : List Exchange) : Option (Instant × Response) :=
  history.reverse.findSome? Exchange.granted?

theorem lastGranted?_append_singleton (history : List Exchange) (x : Exchange) :
    lastGranted? (history ++ [x]) = x.granted?.or (lastGranted? history) := by
  rw [lastGranted?, List.reverse_append, List.reverse_singleton, List.singleton_append,
    List.findSome?_cons]
  rcases x.granted? with - | granted <;> rfl

/-- A token that was granted at a time has not come close to its end. -/
structure Young (granted now : Instant) : Prop where
  order : now.before (granted.add (.ofSeconds 21480)) = true
  span : granted.nano < 1000000000 → now.nano < 1000000000 →
    (now.since granted).nanoseconds < (Duration.ofSeconds 21480).nanoseconds

/-- The exchange asks for a token. -/
def AsksToken (place : Except Error String) (x : Exchange) : Prop :=
  ∃ base, place = .ok base ∧ x.Spells .put (base ++ tokenPath)
    [(.contentLength, "0"), (.metadataTokenTtl, toString tokenSeconds)]

/-- The exchange asks for a path, and shows a token. -/
def AsksPath (place : Except Error String) (path token : String) (x : Exchange) : Prop :=
  ∃ base, place = .ok base ∧ x.Spells .get (base ++ path) [(.metadataToken, token)]

/-- After what was exchanged before, an exchange has its place. -/
inductive InPlace (place : Except Error String) (path : String) (history : List Exchange)
    (x : Exchange) : Prop
  /-- It asks for a token. -/
  | token (h : AsksToken place x)
  /-- It asks for the path, and the token it shows is the last one granted and still young. -/
  | page {time response} (hlast : lastGranted? history = some (time, response))
      (hyoung : Young time x.time) (h : AsksPath place path response.text x)

/-- Every exchange has its place after those before it. -/
def AllInPlace (place : Except Error String) (path : String) (history log : List Exchange) : Prop :=
  ∀ done x rest, log = done ++ x :: rest → InPlace place path (history ++ done) x

/-- The orders in which a call can ask. -/
def courses : List (List Method) :=
  [[.get], [.put, .get], [.get, .put, .get], [.put, .get, .put, .get]]

/-- What a call exchanges and how it ends, after what was exchanged before. -/
structure KeepsProtocol (place : Except Error String) (path : String)
    (history log : List Exchange) (result : Except Error String) : Prop where
  /-- The call follows one of the courses, and may break off. -/
  order : ∃ course ∈ courses, log.map (·.method) <+: course
  /-- Every request is one for a token, or shows the last token granted. -/
  places : AllInPlace place path history log
  /-- Another token is asked for only if one was refused. -/
  again : log.IsChain fun x next => x.method = .get → next.method = .put → x.Refused
  /-- The answer is the text of the last response, if that is one of success to the path. -/
  answer : ∀ text, result = .ok text ↔ ∃ x, log.getLast? = some x ∧ x.Gives text

/-- A call on some platform. -/
structure Visit where
  platform : Platform
  path : String

/-- The client after a call, and what was exchanged up to then. -/
def Visit.after (visit : Visit) (client : Client) (history : List Exchange) :
    Client × List Exchange :=
  let (_, client', platform') := (fetch visit.path).outcome (client, visit.platform)
  (client', history ++ visit.platform.exchanges platform')

/-- A client after some calls, and all that it has exchanged. -/
def visited (client : Client) (visits : List Visit) : Client × List Exchange :=
  visits.foldl (fun s visit => visit.after s.1 s.2) (client, [])

/-! ### What is said -/

section Says

variable {α β : Type} {post : List Exchange → Except Error α → Client → Prop}
  {post' : List Exchange → Except Error β → Client → Prop} {op : Operation Session α} {s : Session}

/-- What an operation exchanges, how it ends and the client that is left are as told, and nothing
else happens on the platform. -/
def Says (op : Operation Session α) (s : Session)
    (post : List Exchange → Except Error α → Client → Prop) : Prop :=
  ∃ log result client platform, op.outcome s = (result, client, platform) ∧
    s.2.Exchanged log platform ∧ post log result client

/-- An operation that leaves the platform alone exchanges nothing. -/
theorem says_of_outcome (result : Except Error α) (client : Client)
    (h : op.outcome s = (result, client, s.2)) (hpost : post [] result client) : Says op s post :=
  ⟨[], result, client, s.2, h, .nil s.2, hpost⟩

theorem Says.imp {post' : List Exchange → Except Error α → Client → Prop} (h : Says op s post)
    (himp : ∀ log result client, post log result client → post' log result client) :
    Says op s post' := by
  obtain ⟨log, result, client, q, hop, hlog, hpost⟩ := h
  exact ⟨log, result, client, q, hop, hlog, himp log result client hpost⟩

/-- **What is said in turn**: what the first step says, and then what the second one says from
there, unless the first one fails. -/
theorem Says.bind {f : α → Operation Session β} (h : Says op s post)
    (herror : ∀ log e client, post log (.error e) client → post' log (.error e) client)
    (hok : ∀ log a client q, post log (.ok a) client → s.2.Exchanged log q →
      Says (f a) (client, q) fun log' => post' (log ++ log')) :
    Says (op >>= f) s post' := by
  obtain ⟨log, e | a, client, q, hop, hlog, hpost⟩ := h
  · exact ⟨log, .error e, client, q, by rw [outcome_bind, hop], hlog, herror log e client hpost⟩
  · obtain ⟨log', result, client', q', hf, hlog', hpost'⟩ := hok log a client q hpost hlog
    exact ⟨log ++ log', result, client', q', by rw [outcome_bind, hop, ← hf], hlog.append hlog',
      hpost'⟩

end Says

variable {place : Except Error String} {path : String} {history log log' : List Exchange}
  {x : Exchange} {now : Instant} {client client' : Client} {p q : Platform}

/-! ### Single requests -/

/-- What a request that could be made says. -/
theorem spells_of_requestFor {method : Method} {url : String} {fields : List (HeaderName × String)}
    {head : Request} (h : requestFor method url fields = .ok head) (hx : x.request = ⟨head, []⟩) :
    x.Spells method url fields := by
  simp only [requestFor, bind_eq_ok_iff, pure_eq_ok_iff] at h
  obtain ⟨uri, huri, headers, hheaders, rfl⟩ := h
  refine ⟨by rw [Exchange.method, hx], ?_, ?_, by rw [hx]⟩
  · rw [hx]
    rcases hparse : Uri.parse url with fault | parsed
    · rw [hparse] at huri
      cases huri
    · rw [hparse] at huri
      cases huri
      rfl
  · rw [hx]
    refine map_eq_of_mapM_eq_ok hheaders ?_
    rintro ⟨name, text⟩ field hfield
    simp only [bind_eq_ok_iff, pure_eq_ok_iff] at hfield
    obtain ⟨value, hvalue, rfl⟩ := hfield
    rw [HeaderValue.bytes_of_ofString hvalue]

/-- A request sent for a client leaves the client as it is. -/
theorem says_send (request : Outgoing) (f : Error → Error) (s : Session) :
    Says ((onSecond (Platform.send request)).mapFailure f) s fun log result client =>
      client = s.1 ∧ SentOnce (·.request = request) log result := by
  obtain ⟨log, hlog, hsent⟩ := Platform.exists_sentOnce_send request s.2
  refine ⟨log, _, s.1, _, rfl, hlog, rfl, ?_⟩
  exact hsent.mapError f

/-- The place of the service stays the same while requests are sent. -/
theorem base_eq_of_exchanged (h : p.Exchanged log q) (hend : client'.endpoint = client.endpoint) :
    client'.base q = client.base p := by
  simp only [base, hend, Setting.metadataEndpoint.resolveFromProcess_eq h.sameSettings]

section Requests

variable {β : Type} {method : Method} {path : String} {fields : List (HeaderName × String)}
  {fault : String → Error → Error} {rest : String → Request → Operation Session β}
  {post : List Exchange → Except Error β → Client → Prop}

/-- Before a request is sent its address is looked up and it is put together. -/
theorem says_with_request_of_ok {base : String} {head : Request} (hbase : client.base p = .ok base)
    (hhead : requestFor method (base ++ path) fields = .ok head)
    (h : Says (rest base head) (client, p) post) :
    Says (currentBase >>= fun base =>
      Operation.ofExcept ((requestFor method (base ++ path) fields).mapError (fault base)) >>=
        rest base) (client, p) post := by
  obtain ⟨log, result, client', q, hop, hlog, hpost⟩ := h
  refine ⟨log, result, client', q, ?_, hlog, hpost⟩
  simp [outcome_bind, currentBase, hbase, hhead, Except.mapError, hop]

/-- If it has no address or cannot be put together, nothing is said. -/
theorem says_with_request (hunsent : ∀ e, post [] (.error e) client)
    (hrest : ∀ base head, client.base p = .ok base →
      requestFor method (base ++ path) fields = .ok head → Says (rest base head) (client, p) post) :
    Says (currentBase >>= fun base =>
      Operation.ofExcept ((requestFor method (base ++ path) fields).mapError (fault base)) >>=
        rest base) (client, p) post := by
  rcases hbase : client.base p with e | base
  · refine says_of_outcome (.error e) client ?_ (hunsent e)
    simp [outcome_bind, currentBase, hbase]
  rcases hhead : requestFor method (base ++ path) fields with e | head
  · refine says_of_outcome (.error (fault base e)) client ?_ (hunsent _)
    simp [outcome_bind, currentBase, hbase, hhead, Except.mapError]
  · exact says_with_request_of_ok hbase hhead (hrest base head hbase hhead)

end Requests

theorem AsksToken.method_eq (h : AsksToken place x) : x.method = .put := by
  obtain ⟨_, _, h⟩ := h
  exact h.method

theorem AsksPath.method_eq {token : String} (h : AsksPath place path token x) :
    x.method = .get := by
  obtain ⟨_, _, h⟩ := h
  exact h.method

/-- Asking for a path sends one request at most. -/
theorem says_ask (path token : String) (client : Client) (p : Platform) :
    Says (ask path token) (client, p) fun log result client' =>
      client' = client ∧ SentOnce (AsksPath (client.base p) path token) log result := by
  refine says_with_request (fun e => ⟨rfl, .unsent⟩) fun base head hbase hhead => ?_
  refine (says_send _ _ _).imp fun log result client' h => ⟨h.1, h.2.imp fun x hx => ?_⟩
  exact ⟨base, hbase, spells_of_requestFor hhead hx⟩

/-! ### Tokens -/

/-- What the cell holds after a token was granted. -/
def tokenEntry (time : Instant) (response : Response) : Entry String :=
  ⟨response.text, some (time.add (.ofSeconds tokenSeconds))⟩

/-- How asking for a token can end. -/
inductive Fetched (place : Except Error String) (now : Instant) :
    List Exchange → Except Error (Entry String) → Prop
  /-- Nothing was sent. -/
  | unsent {e} : Fetched place now [] (.error e)
  /-- No token was granted. -/
  | denied {x e} (hx : AsksToken place x) (hdenied : x.granted? = none) :
      Fetched place now [x] (.error e)
  /-- A token was granted. -/
  | granted {x response} (hx : AsksToken place x)
      (hgranted : x.granted? = some (now, response)) :
      Fetched place now [x] (.ok (tokenEntry now response))

theorem tokenOf_of_status_ne (endpoint : String) {response : Response}
    (h : response.status ≠ .ok) : ∃ e, tokenOf endpoint response = .error e := by
  unfold tokenOf
  rw [if_neg h]
  split
  · exact ⟨_, rfl⟩
  · exact ⟨_, rfl⟩

theorem says_fetchToken (client : Client) (p : Platform) :
    Says fetchToken (client, p) fun log result client' =>
      client' = client ∧ Fetched (client.base p) p.now log result := by
  refine says_with_request (fun e => ⟨rfl, .unsent⟩) fun base head hbase hhead => ?_
  have hasks : ∀ x : Exchange, x.request = ⟨head, []⟩ → AsksToken (client.base p) x :=
    fun x hx => ⟨base, hbase, spells_of_requestFor hhead hx⟩
  obtain ⟨log, result, client', q, hop, hlog, rfl, hsent⟩ :=
    says_send ⟨head, []⟩ (unreached base) (client, p)
  cases hsent with
  | unsent => exact ⟨[], _, _, q, by rw [outcome_bind, hop], hlog, rfl, .unsent⟩
  | @sent x result hx hreply =>
    have hgranted := Exchange.granted?_of_put (hasks x hx).method_eq hreply
    rw [hlog.time_of_mem List.mem_cons_self] at hgranted
    rcases result with e | response
    · exact ⟨_, _, _, q, by rw [outcome_bind, hop], hlog, rfl, .denied (hasks x hx) hgranted⟩
    by_cases hstatus : response.status = .ok
    · refine ⟨_, .ok (tokenEntry p.now response), _, q, ?_, hlog, rfl, .granted (hasks x hx) ?_⟩
      · simp [outcome_bind, outcome_map, hop, tokenOf, tokenEntry, hstatus, hlog.now_eq, Except.map]
      · simpa [Except.toOption, Option.filter_some, hstatus] using hgranted
    · obtain ⟨e, he⟩ := tokenOf_of_status_ne base hstatus
      refine ⟨_, .error e, _, q, ?_, hlog, rfl, .denied (hasks x hx) ?_⟩
      · simp [outcome_bind, hop, he]
      · simpa [Except.toOption, Option.filter_some, hstatus] using hgranted

/-- The cell holds the token that was granted last, or nothing. -/
structure Holds (history : List Exchange) (client : Client) : Prop where
  margin : client.token.margin = .ofMinutes 2
  entry : ∀ entry ∈ client.token.entry, ∃ time response,
    lastGranted? history = some (time, response) ∧ entry = tokenEntry time response

/-- A token in the cell is given out while it is young. -/
theorem young_of_fresh {time : Instant}
    (h : now.before ((time.add (.ofSeconds tokenSeconds)).sub (.ofMinutes 2)) = true) :
    Young time now := by
  have hspan : (time.add (.ofSeconds tokenSeconds)).sub (.ofMinutes 2)
      = time.add (.ofSeconds 21480) :=
    Instant.add_add (by decide) (by decide)
  rw [hspan] at h
  exact ⟨h, fun htime hnow => (Instant.before_add_iff hnow htime _).mp h⟩

/-- A new token is young. -/
theorem Young.refl (now : Instant) : Young now now where
  order := Instant.before_add (by decide)
  span := fun _ _ => by simp [Instant.since, Duration.ofSeconds]

/-- How looking for a token can end. -/
inductive Obtained (place : Except Error String) (history : List Exchange) (now : Instant)
    (client : Client) : List Exchange → Except Error String → Client → Prop
  /-- The token in the cell is still young. -/
  | kept {time response} (hheld : client.token.entry ≠ none)
      (hlast : lastGranted? history = some (time, response)) (hyoung : Young time now) :
      Obtained place history now client [] (.ok response.text) client
  /-- Another token was granted, and is kept. -/
  | granted {x response} (hx : AsksToken place x)
      (hgranted : x.granted? = some (now, response)) :
      Obtained place history now client [x] (.ok response.text)
        { client with token := client.token.install (tokenEntry now response) }
  /-- Nothing was sent. -/
  | unsent {e} : Obtained place history now client [] (.error e) client
  /-- No token was granted. -/
  | denied {x e} (hx : AsksToken place x) (hdenied : x.granted? = none) :
      Obtained place history now client [x] (.error e) client

/-- A token that the cell gives out is used. -/
theorem currentToken_of_get? {token : String} (h : client.token.get? p.now = some token) :
    currentToken.outcome (client, p) = (.ok token, client, p) := by
  rw [currentToken, Cached.outcome_getOrLoad, h]

/-- Otherwise another one is asked for, and kept. -/
theorem currentToken_of_get?_none (h : client.token.get? p.now = none) :
    currentToken.outcome (client, p) = match fetchToken.outcome (client, p) with
      | (.ok entry, s) => (.ok entry.value, { s.1 with token := s.1.token.install entry }, s.2)
      | (.error e, s) => (.error e, s) := by
  rw [currentToken, Cached.outcome_getOrLoad, h]
  rcases fetchToken.outcome (client, p) with ⟨e | entry, s⟩ <;> rfl

/-- A token that the cell gives out is the one that was granted last, and young. -/
theorem Holds.exists_young_of_get? (h : Holds history client) {token : String}
    (hget : client.token.get? now = some token) :
    ∃ time response, lastGranted? history = some (time, response) ∧ Young time now ∧
      token = response.text := by
  obtain ⟨entry, hentry, rfl, hfresh⟩ := Cached.get?_eq_some_iff.mp hget
  obtain ⟨time, response, hlast, rfl⟩ := h.entry entry hentry
  rw [Cached.IsFresh, h.margin] at hfresh
  exact ⟨time, response, hlast, young_of_fresh (hfresh _ rfl), rfl⟩

theorem says_currentToken (h : Holds history client) (p : Platform) :
    Says currentToken (client, p) (Obtained (client.base p) history p.now client) := by
  rcases hget : client.token.get? p.now with - | token
  · obtain ⟨log, result, client', q, hop, hlog, rfl, hfetched⟩ := says_fetchToken client p
    have hrun := currentToken_of_get?_none hget
    rw [hop] at hrun
    cases hfetched with
    | unsent => exact ⟨_, _, _, q, hrun, hlog, .unsent⟩
    | denied hx hdenied => exact ⟨_, _, _, q, hrun, hlog, .denied hx hdenied⟩
    | granted hx hgranted => exact ⟨_, _, _, q, hrun, hlog, .granted hx hgranted⟩
  · obtain ⟨time, response, hlast, hyoung, rfl⟩ := h.exists_young_of_get? hget
    obtain ⟨entry, hentry, -⟩ := Cached.get?_eq_some_iff.mp hget
    exact says_of_outcome _ client (currentToken_of_get? hget)
      (.kept (by simp [hentry]) hlast hyoung)

theorem holds_nil (endpoint : Option String) : Holds [] { endpoint } := ⟨rfl, by simp⟩

/-- Exchanges in which no token is granted leave the last one as it is. -/
theorem Holds.append_of_not_granted (h : Holds history client) (hx : x.granted? = none) :
    Holds (history ++ [x]) client where
  margin := h.margin
  entry := by
    rw [lastGranted?_append_singleton, hx]
    exact h.entry

theorem Holds.of_clear (h : Holds history client) :
    Holds history { client with token := client.token.clear } :=
  ⟨h.margin, by simp [Cached.clear]⟩

/-- **Looking for a token keeps the invariant.** -/
theorem Obtained.holds {result : Except Error String} (h : Holds history client)
    (hend : Obtained place history now client log result client') :
    Holds (history ++ log) client' := by
  cases hend with
  | kept | unsent => rwa [List.append_nil]
  | denied hx hdenied => exact h.append_of_not_granted hdenied
  | granted hx hgranted =>
    refine ⟨h.margin, fun entry hentry => ⟨_, _, ?_, (Option.some.inj hentry).symm⟩⟩
    rw [lastGranted?_append_singleton, hgranted]
    rfl

theorem Obtained.endpoint_eq {result : Except Error String}
    (hend : Obtained place history now client log result client') :
    client'.endpoint = client.endpoint := by
  cases hend <;> rfl

/-! ### Places in a log -/

theorem allInPlace_nil : AllInPlace place path history [] := by
  intro done x rest hsplit
  simp at hsplit

theorem allInPlace_singleton (h : InPlace place path history x) :
    AllInPlace place path history [x] := by
  intro done y rest hsplit
  rcases List.singleton_eq_append_iff.mp hsplit with ⟨rfl, hy⟩ | ⟨-, hnil⟩
  · obtain ⟨rfl, -⟩ := List.cons.inj hy
    rwa [List.append_nil]
  · cases hnil

/-- What comes later has its place after all that comes before. -/
theorem AllInPlace.append (h : AllInPlace place path history log)
    (h' : AllInPlace place path (history ++ log) log') :
    AllInPlace place path history (log ++ log') := by
  intro done x rest hsplit
  obtain ⟨more, rfl, hlog'⟩ | ⟨more, hlog, hrest⟩ := List.append_eq_append_iff.mp hsplit
  · rw [← List.append_assoc]
    exact h' more x rest hlog'
  · rcases more with - | ⟨y, more⟩
    · rw [List.append_nil] at hlog
      subst hlog
      simpa using h' [] x rest hrest.symm
    · obtain ⟨rfl, -⟩ := List.cons.inj hrest
      exact h done x more hlog

/-! ### One attempt -/

/-- Asking for a path once, with a token that is looked for first. -/
def attempt (path : String) : Operation Session Response := do
  ask path (← currentToken)

/-- How one attempt can end. -/
structure Attempted (place : Except Error String) (path : String) (history : List Exchange)
    (client : Client) (log : List Exchange) (result : Except Error Response) (client' : Client) :
    Prop where
  /-- It asks for a token and then for the path, or for the path alone if there was a token. -/
  order : log.map (·.method) <+: [.put, .get] ∨
    client.token.entry ≠ none ∧ log.map (·.method) = [.get]
  places : AllInPlace place path history log
  /-- It ends with the response to a request for the path. -/
  answer : ∀ response, result = .ok response ↔
    ∃ x, log.getLast? = some x ∧ x.method = .get ∧ x.reply = .ok response
  holds : Holds (history ++ log) client'
  endpoint : client'.endpoint = client.endpoint

/-- An attempt that has found a token, after it has exchanged nothing or one request for a token. -/
theorem Attempted.of_sentOnce {time : Instant} {response : Response}
    {result : Except Error Response}
    (hstart : client.token.entry ≠ none ∧ log = [] ∨ ∃ x, AsksToken place x ∧ log = [x])
    (hholds : Holds (history ++ log) client') (hend : client'.endpoint = client.endpoint)
    (hlast : lastGranted? (history ++ log) = some (time, response)) (hyoung : Young time now)
    (hnow : ∀ y ∈ log', y.time = now)
    (hsent : SentOnce (AsksPath place path response.text) log' result) :
    Attempted place path history client (log ++ log') result client' := by
  have hplaces : AllInPlace place path history log := by
    rcases hstart with ⟨-, rfl⟩ | ⟨x, hx, rfl⟩
    · exact allInPlace_nil
    · exact allInPlace_singleton (.token hx)
  cases hsent with
  | unsent =>
    rw [List.append_nil]
    refine ⟨?_, hplaces, fun response => ?_, hholds, hend⟩
    · rcases hstart with ⟨-, rfl⟩ | ⟨x, hx, rfl⟩
      · exact .inl List.nil_prefix
      · simp [hx.method_eq]
    · rcases hstart with ⟨-, rfl⟩ | ⟨x, hx, rfl⟩
      · simp
      · simp [hx.method_eq, show Method.put ≠ .get by decide]
  | @sent y _ hy hreply =>
    have hget := hy.method_eq
    refine ⟨?_, hplaces.append (allInPlace_singleton ?_), fun response => ?_, ?_, hend⟩
    · rcases hstart with ⟨hheld, rfl⟩ | ⟨x, hx, rfl⟩
      · exact .inr ⟨hheld, by simp [hget]⟩
      · exact .inl (by simp [hx.method_eq, hget])
    · exact .page hlast (by rwa [hnow y List.mem_cons_self]) hy
    · rw [← toOption_eq_some_iff, ← hreply, toOption_eq_some_iff]
      simp [hget]
    · rw [← List.append_assoc]
      exact hholds.append_of_not_granted (Exchange.granted?_of_get hget)

/-- **What one attempt says.** -/
theorem says_attempt (h : Holds history client) (p : Platform) (path : String) :
    Says (attempt path) (client, p) (Attempted (client.base p) path history client) := by
  refine (says_currentToken h p).bind (fun log e client' hend => ?_)
    fun log token client' q hend hlog => ?_
  · -- no token: the log is empty, or it is a request for a token in vain
    have hholds := hend.holds h
    cases hend with
    | unsent =>
      exact ⟨.inl List.nil_prefix, allInPlace_nil, by simp, hholds, rfl⟩
    | denied hx hdenied =>
      refine ⟨.inl (by simp [hx.method_eq]), allInPlace_singleton (.token hx), ?_, hholds, rfl⟩
      simp [hx.method_eq, show Method.put ≠ .get by decide]
  · have hholds := hend.holds h
    have hplace := base_eq_of_exchanged hlog hend.endpoint_eq
    obtain ⟨log', result, _, q', hop, hlog', rfl, hsent⟩ := says_ask path token client' q
    rw [hplace] at hsent
    have hnow : ∀ y ∈ log', y.time = p.now := fun y hy =>
      (hlog'.time_of_mem hy).trans hlog.now_eq
    refine ⟨log', result, _, q', hop, hlog', ?_⟩
    cases hend with
    | kept hheld hlast hyoung =>
      exact .of_sentOnce (.inl ⟨hheld, rfl⟩) hholds rfl (by simpa using hlast) hyoung hnow hsent
    | @granted x response hx hgranted =>
      refine .of_sentOnce (.inr ⟨x, hx, rfl⟩) hholds rfl ?_ (.refl p.now) hnow hsent
      rw [lastGranted?_append_singleton, hgranted]
      rfl

/-! ### Calls -/

/-- A call is one attempt, and another one with a new token if the first token is refused. -/
theorem fetch_eq (path : String) :
    fetch path = attempt path >>= fun first =>
      if first.status = .unauthorized then
        forgetToken >>= fun _ => attempt path >>= fun second =>
          Operation.ofExcept (textOf path second)
      else Operation.ofExcept (textOf path first) := by
  simp [fetch, attempt]

/-- A second attempt is made with an empty cell. -/
theorem says_again {post : List Exchange → Except Error Response → Client → Prop}
    {post' : List Exchange → Except Error String → Client → Prop}
    (h : Says (attempt path) ({ client with token := client.token.clear }, p) post)
    (hpost : ∀ log result client, post log result client →
      post' log (result >>= textOf path) client) :
    Says (forgetToken >>= fun _ => attempt path >>= fun second =>
      Operation.ofExcept (textOf path second)) (client, p) post' := by
  obtain ⟨log, result, client', q, hop, hlog, hend⟩ := h
  refine ⟨log, result >>= textOf path, client', q, ?_, hlog, hpost log result client' hend⟩
  rcases result with e | second
  all_goals
    simp only [outcome_bind, forgetToken, outcome_modify, hop, outcome_ofExcept]
    rfl

theorem textOf_eq_ok_iff {response : Response} {text : String} :
    textOf path response = .ok text ↔ response.status = .ok ∧ response.text = text := by
  unfold textOf
  split
  · next h => simp [h]
  · next h => simp [h]

/-- The text that an attempt ends with is that of the last response, if that is one of success. -/
theorem Attempted.answer_text {result : Except Error Response}
    (h : Attempted place path history client log result client') (text : String) :
    result >>= textOf path = .ok text ↔ ∃ x, log.getLast? = some x ∧ x.Gives text := by
  simp only [bind_eq_ok_iff, h.answer, textOf_eq_ok_iff, Exchange.Gives]
  constructor
  · rintro ⟨response, ⟨x, hlast, hget, hreply⟩, hstatus, htext⟩
    exact ⟨x, hlast, hget, response, hreply, hstatus, htext⟩
  · rintro ⟨x, hlast, hget, response, hreply, hstatus, htext⟩
    exact ⟨response, ⟨x, hlast, hget, hreply⟩, hstatus, htext⟩

/-- An attempt that got a response has asked for the path. -/
theorem Attempted.order_of_ok {response : Response}
    (h : Attempted place path history client log (.ok response) client') :
    log.map (·.method) = [.put, .get] ∨ log.map (·.method) = [.get] := by
  obtain ⟨x, hlast, hget, -⟩ := (h.answer response).mp rfl
  rcases h.order with hprefix | ⟨-, hlog⟩
  · rcases log with - | ⟨y, - | ⟨z, rest⟩⟩
    · simp at hlast
    · -- the only request would be one for a token, and the last one is not
      simp only [List.getLast?_singleton, Option.some.injEq] at hlast
      subst hlast
      simp [hget, show Method.get ≠ .put by decide] at hprefix
    · simp only [List.map_cons, List.cons_prefix_cons, List.prefix_nil] at hprefix
      obtain ⟨hy, hz, hrest⟩ := hprefix
      exact .inl (by simp [hy, hz, hrest])
  · exact .inr hlog

/-- Within one attempt no token is asked for after the path. -/
theorem Attempted.isChain {result : Except Error Response}
    (h : Attempted place path history client log result client') :
    log.IsChain fun x next => x.method = .get → next.method = .put → x.Refused := by
  rcases log with - | ⟨y, - | ⟨z, rest⟩⟩
  · exact .nil
  · exact .singleton y
  · rcases h.order with hprefix | ⟨-, hlog⟩
    · simp only [List.map_cons, List.cons_prefix_cons, List.prefix_nil, List.map_eq_nil_iff]
        at hprefix
      obtain ⟨-, hz, rfl⟩ := hprefix
      simp [hz, show Method.get ≠ .put by decide]
    · simp at hlog

/-- One attempt keeps to the protocol, if its answer is taken as the answer. -/
theorem Attempted.keepsProtocol {result : Except Error Response}
    (h : Attempted place path history client log result client') :
    KeepsProtocol place path history log (result >>= textOf path) where
  order := by
    rcases h.order with hprefix | ⟨-, hlog⟩
    · exact ⟨_, by simp [courses], hprefix⟩
    · exact ⟨[.get], by simp [courses], hlog ▸ List.prefix_rfl⟩
  places := h.places
  again := h.isChain
  answer := h.answer_text

/-- A second attempt after a refused one keeps to the protocol. -/
theorem Attempted.keepsProtocol_append {first : Response} {result : Except Error Response}
    {middle last : Client} (h : Attempted place path history client log (.ok first) client')
    (hrefused : first.status = .unauthorized) (hcleared : middle.token.entry = none)
    (h' : Attempted place path (history ++ log) middle log' result last) :
    KeepsProtocol place path history (log ++ log') (result >>= textOf path) := by
  obtain ⟨x, hlast, hget, hreply⟩ := (h.answer first).mp rfl
  refine ⟨?_, h.places.append h'.places, ?_, fun text => ?_⟩
  · have hsecond : log'.map (·.method) <+: [.put, .get] := by
      rcases h'.order with hprefix | ⟨hheld, -⟩
      · exact hprefix
      · exact absurd hcleared hheld
    refine ⟨log.map (·.method) ++ [.put, .get], ?_, ?_⟩
    · rcases h.order_of_ok with hlog | hlog
      · simp [hlog, courses]
      · simp [hlog, courses]
    · rw [List.map_append]
      exact (List.prefix_append_right_inj _).mpr hsecond
  · refine List.isChain_append.mpr ⟨h.isChain, h'.isChain, fun y hy z hz hyget hzput => ?_⟩
    rw [Option.mem_def, hlast] at hy
    cases hy
    exact ⟨first, hreply, hrefused⟩
  · rw [h'.answer_text]
    rcases hend : log'.getLast? with - | y
    · -- nothing was sent again, so the refusal is the last response
      simp [List.getLast?_append, hend, hlast, Exchange.Gives, hreply, hrefused,
        show Status.unauthorized ≠ .ok by decide]
    · simp [List.getLast?_append, hend]

/-- **What one call says**, and that the invariant holds after it. -/
theorem says_fetch (h : Holds history client) (p : Platform) (path : String) :
    Says (fetch path) (client, p) fun log result client' =>
      KeepsProtocol (client.base p) path history log result ∧ Holds (history ++ log) client' ∧
        client'.endpoint = client.endpoint := by
  rw [fetch_eq]
  refine (says_attempt h p path).bind (fun log e client' hend => ?_)
    fun log first client' q hend hlog => ?_
  · exact ⟨hend.keepsProtocol, hend.holds, hend.endpoint⟩
  split
  · next hrefused =>
    -- the token is forgotten, so the second attempt starts with an empty cell
    have hplace : base { client' with token := client'.token.clear } q = client.base p :=
      base_eq_of_exchanged hlog hend.endpoint
    refine says_again (says_attempt hend.holds.of_clear q path) fun log' result client'' hend' => ?_
    rw [hplace] at hend'
    refine ⟨hend.keepsProtocol_append hrefused rfl hend', ?_, hend'.endpoint.trans hend.endpoint⟩
    rw [← List.append_assoc]
    exact hend'.holds
  · refine says_of_outcome (textOf path first) client' rfl ?_
    rw [List.append_nil]
    exact ⟨hend.keepsProtocol, hend.holds, hend.endpoint⟩

/-! ### Runs -/

theorem holds_after (h : Holds history client) (visit : Visit) :
    Holds (visit.after client history).2 (visit.after client history).1 ∧
      (visit.after client history).1.endpoint = client.endpoint := by
  obtain ⟨log, result, client', q, hop, hlog, -, hholds, hendpoint⟩ :=
    says_fetch h visit.platform visit.path
  rw [Visit.after, hop]
  dsimp only at hlog ⊢
  rw [hlog.exchanges_eq]
  exact ⟨hholds, hendpoint⟩

/-- The invariant holds after any calls. -/
theorem holds_visited (endpoint : Option String) (visits : List Visit) :
    Holds (visited { endpoint } visits).2 (visited { endpoint } visits).1 ∧
      (visited { endpoint } visits).1.endpoint = endpoint := by
  induction visits using List.reverseRecOn with
  | nil => exact ⟨holds_nil endpoint, rfl⟩
  | append_singleton visits visit ih =>
    have hlast := holds_after ih.1 visit
    rw [visited, List.foldl_append]
    exact ⟨hlast.1, hlast.2.trans ih.2⟩

/-- **After any calls a call keeps to the protocol of the service**, and the clock does not move. -/
theorem keepsProtocol_of_visits (endpoint : Option String) (visits : List Visit) (p : Platform)
    (path : String) :
    let (client, history) := visited { endpoint } visits
    let (result, _, p') := (fetch path).outcome (client, p)
    KeepsProtocol (base { endpoint } p) path history (p.exchanges p') result ∧ p'.now = p.now := by
  obtain ⟨hholds, hendpoint⟩ := holds_visited endpoint visits
  obtain ⟨log, result, client', q, hop, hlog, hprotocol, -⟩ := says_fetch hholds p path
  have hplace : base (visited { endpoint } visits).1 p = base { endpoint } p :=
    base_eq_of_exchanged (.nil p) hendpoint
  dsimp only
  rw [hop]
  dsimp only at hlog ⊢
  rw [hlog.exchanges_eq, ← hplace]
  exact ⟨hprotocol, hlog.now_eq⟩

/-! ### What is not promised -/

/-- Whenever a path is asked for, the last token granted and the request have something to do with
each other. -/
def EachShown (P : Instant → Response → Exchange → Prop) (history log : List Exchange) : Prop :=
  ∀ done x rest, log = done ++ x :: rest → x.method = .get →
    ∃ time response, lastGranted? (history ++ done) = some (time, response) ∧ P time response x

theorem not_eachShown_of_getElem {P : Instant → Response → Exchange → Prop} (n : Nat)
    (hn : n < log.length) (hget : log[n].method = .get)
    (hnot : ∀ granted ∈ lastGranted? (history ++ log.take n), ¬P granted.1 granted.2 log[n]) :
    ¬EachShown P history log := by
  intro h
  have hsplit : log = log.take n ++ log[n] :: log.drop (n + 1) := by
    rw [List.getElem_cons_drop, List.take_append_drop]
  obtain ⟨time, response, hlast, hshown⟩ := h _ _ _ hsplit hget
  exact hnot _ hlast hshown

/-- A platform whose service grants a token that is no text. -/
def garbled : Platform :=
  { now := ⟨0, 0⟩, replies := some [.ok ⟨.ok, [0xFF, 0x41]⟩, .ok ⟨.ok, Utf8.ofString "page"⟩] }

/-- The evening before a leap second: 18:02:00.5 on the last day of 2016. -/
def evening : Platform :=
  { now := ⟨1483207320, 500000000⟩
    replies := some [.ok ⟨.ok, Utf8.ofString "token"⟩, .ok ⟨.ok, Utf8.ofString "page"⟩] }

/-- The leap second, 21480.1 s later: 23:59:60.6. -/
def midnight : Platform :=
  { now := ⟨1483228799, 1600000000⟩, replies := some [.ok ⟨.ok, Utf8.ofString "page"⟩] }

/-- A token is not always shown byte for byte as it was granted, and in a leap second it may be
older than 21480 seconds. -/
theorem not_eachShown :
    ¬EachShown (fun _ response x =>
        x.request.head.headers.map (fun field => (field.1, field.2.bytes))
          = [(.metadataToken, response.payload)]) []
      (garbled.exchanges ((fetch "/x").outcome ({}, garbled)).2.2) ∧
    ¬EachShown (fun time _ x => (x.time.since time).nanoseconds
        < (Duration.ofSeconds 21480).nanoseconds) (visited {} [⟨evening, "/x"⟩]).2
      (midnight.exchanges
        ((fetch "/x").outcome ((visited {} [⟨evening, "/x"⟩]).1, midnight)).2.2) := by
  constructor
  · exact not_eachShown_of_getElem 1 (by decide +kernel) (by decide +kernel) (by decide +kernel)
  · exact not_eachShown_of_getElem 0 (by decide +kernel) (by decide +kernel) (by decide +kernel)

end Client
end Metadata
end AwsSigning
