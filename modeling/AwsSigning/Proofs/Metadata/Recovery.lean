/-
AwsSigning/Proofs/Metadata/Recovery.lean

A client of the metadata service after the service has come back.

A service *works* if it grants every token that is asked for, gives a page to
whoever shows the token that it granted last, and refuses everybody else
(`Works`).  However the service has behaved before, what is left of that in the
client is one token.  A token that is refused is forgotten, another one is
granted, and the second attempt succeeds.

But a token may have been granted that no header field can hold.  With it no
request can be put together, so nothing is sent that the service could refuse,
and the token stays where it is (`Stuck`).  These are the only clients that a
working service does not help, and they are not helped before the token is
old (`exists_text_iff_of_works`).
-/
import AwsSigning.Proofs.Metadata.Session
import AwsSigning.Proofs.Text.Utf8

namespace AwsSigning

open Operation

/-! ### A service that works -/

namespace Metadata

namespace Client

/-- A header field can hold the token. -/
def Presentable (token : String) : Prop := ∃ value, HeaderValue.ofString token = .ok value

/-- What a service does that works and accepts one token. -/
inductive AnsweredWell (accepted : Option Bytes) (x : Exchange) : Prop
  /-- A new token is granted, and it can be shown. -/
  | granted (token : String) (hmethod : x.method = .put) (htoken : Presentable token)
      (hreply : x.reply = .ok ⟨.ok, Utf8.ofString token⟩)
  /-- A page is given to whoever shows the token that is accepted. -/
  | served (response : Response) (hmethod : x.method = .get) (hshown : x.shown? = accepted)
      (hreply : x.reply = .ok response) (hstatus : response.status = .ok)
  /-- Everybody else is refused. -/
  | refused (hmethod : x.method = .get) (hshown : x.shown? ≠ accepted) (hrefused : x.Refused)

/-- A token that was asked for is granted. -/
theorem AnsweredWell.granted_of_put {accepted : Option Bytes} {x : Exchange}
    (h : AnsweredWell accepted x) (hput : x.method = .put) :
    ∃ token, Presentable token ∧ x.reply = .ok ⟨.ok, Utf8.ofString token⟩ := by
  cases h with
  | granted token _ htoken hreply => exact ⟨token, htoken, hreply⟩
  | served _ hget => exact absurd (hput.symm.trans hget) (by decide)
  | refused hget => exact absurd (hput.symm.trans hget) (by decide)

/-- The token that is accepted after an exchange: the one that was granted in it, or else the one
that was accepted before. -/
def acceptedAfter (accepted : Option Bytes) (x : Exchange) : Option Bytes :=
  x.granted?.elim accepted fun granted => some granted.2.payload

/-- The service works as long as these exchanges take place. -/
def Works : Option Bytes → List Exchange → Prop
  | _, [] => True
  | accepted, x :: rest => AnsweredWell accepted x ∧ Works (acceptedAfter accepted x) rest

variable {accepted : Option Bytes} {history log log' : List Exchange} {x : Exchange}
  {client client' : Client} {p q : Platform} {path token : String}

theorem works_append :
    Works accepted (log ++ log') ↔
      Works accepted log ∧ Works (log.foldl acceptedAfter accepted) log' := by
  induction log generalizing accepted with
  | nil => simp [Works]
  | cons x log ih => simp [Works, ih, and_assoc]

/-- A token that is granted is accepted. -/
theorem acceptedAfter_of_granted? {time : Instant} {response : Response}
    (h : x.granted? = some (time, response)) :
    acceptedAfter accepted x = some response.payload := by
  rw [acceptedAfter, h]
  rfl

/-! ### Requests that are sent -/

/-- Requests can be sent, and the addresses of the token and of the page are well formed. -/
structure Reachable (client : Client) (path : String) (p : Platform) : Prop where
  replies : p.replies ≠ none
  address : ∃ base, client.base p = .ok base ∧ (∃ uri, Uri.parse (base ++ tokenPath) = .ok uri) ∧
    ∃ uri, Uri.parse (base ++ path) = .ok uri

/-- A service that can be reached can be reached again. -/
theorem Reachable.of_exchanged (h : Reachable client path p) (hlog : p.Exchanged log q)
    (hend : client'.endpoint = client.endpoint) : Reachable client' path q where
  replies := hlog.replies_ne_none h.replies
  address := by
    rw [base_eq_of_exchanged hlog hend]
    exact h.address

theorem says_send_of_replies {s : Session} (hreplies : s.2.replies ≠ none) (request : Outgoing)
    (f : Error → Error) :
    Says ((onSecond (Platform.send request)).mapFailure f) s fun log _ _ => log ≠ [] := by
  obtain ⟨x, hlog, -⟩ := Platform.exists_exchanged_send hreplies request
  exact ⟨[x], _, s.1, _, rfl, hlog, List.cons_ne_nil _ _⟩

/-- What is said in two ways is said in both. -/
theorem Says.and {α : Type} {op : Operation Session α} {s : Session}
    {post post' : List Exchange → Except Error α → Client → Prop} (h : Says op s post)
    (h' : Says op s post') :
    Says op s fun log result client => post log result client ∧ post' log result client := by
  obtain ⟨log, result, client, q, hop, hlog, hpost⟩ := h
  obtain ⟨log', result', client', q', hop', hlog', hpost'⟩ := h'
  rw [hop] at hop'
  cases hop'
  obtain rfl : log = log' := hlog.exchanges_eq.symm.trans hlog'.exchanges_eq
  exact ⟨log, result, client, q, hop, hlog, hpost, hpost'⟩

/-- A request for a token can always be put together. -/
theorem exists_requestFor_token {url : String} {uri : Uri} (h : Uri.parse url = .ok uri) :
    ∃ head, requestFor .put url
      [(.contentLength, "0"), (.metadataTokenTtl, toString tokenSeconds)] = .ok head := by
  rw [requestFor, h]
  exact ⟨_, rfl⟩

/-- A request for a page can be put together with a token that can be shown. -/
theorem exists_requestFor_page {url : String} {uri : Uri} (h : Uri.parse url = .ok uri)
    (htoken : Presentable token) :
    ∃ head, requestFor .get url [(.metadataToken, token)] = .ok head := by
  obtain ⟨value, hvalue⟩ := htoken
  rw [requestFor, h]
  simp only [List.mapM_cons, List.mapM_nil, hvalue]
  exact ⟨_, rfl⟩

/-- A token that was shown can be shown. -/
theorem presentable_of_spells {method : Method} {url : String}
    (h : x.Spells method url [(.metadataToken, token)]) : Presentable token := by
  obtain ⟨value, -, hbytes⟩ := h.exists_value
  exact ⟨_, dif_pos (hbytes ▸ value.legal)⟩

/-! ### A working service -/

/-- A service that works grants a token, and accepts it from then on. -/
theorem says_fetchToken_of_works (h : Reachable client path p) :
    Says fetchToken (client, p) fun log result client' => client' = client ∧
      ∀ accepted, Works accepted log → ∃ entry, result = .ok entry ∧ Presentable entry.value ∧
        log.foldl acceptedAfter accepted = some (Utf8.ofString entry.value) := by
  obtain ⟨base, hbase, ⟨uri, huri⟩, -⟩ := h.address
  obtain ⟨head, hhead⟩ := exists_requestFor_token huri
  have hsent : Says fetchToken (client, p) fun log _ _ => log ≠ [] := by
    refine says_with_request_of_ok hbase hhead ?_
    refine (says_send_of_replies h.replies _ _).bind (fun _ _ _ hlog => hlog) ?_
    intro log response client' q hlog hq
    rcases tokenOf base response with e | token
    · exact says_of_outcome (.error e) client' (by simp [outcome_bind]) (by simpa using hlog)
    · refine says_of_outcome (.ok ⟨token, some (q.now.add (.ofSeconds tokenSeconds))⟩) client' ?_
        (by simpa using hlog)
      simp [outcome_bind, outcome_map, Except.map]
  refine (hsent.and (says_fetchToken client p)).imp ?_
  rintro log result client' ⟨hlog, rfl, hfetched⟩
  refine ⟨rfl, fun accepted hworks => ?_⟩
  cases hfetched with
  | unsent => exact absurd rfl hlog
  | @denied x e hx hdenied =>
    obtain ⟨token, -, hreply⟩ := hworks.1.granted_of_put hx.method_eq
    rw [Exchange.granted?_of_put hx.method_eq (congrArg Except.toOption hreply)] at hdenied
    simp [Except.toOption] at hdenied
  | @granted x response hx hgranted =>
    obtain ⟨token, htoken, hreply⟩ := hworks.1.granted_of_put hx.method_eq
    obtain rfl : response = ⟨.ok, Utf8.ofString token⟩ := by
      rw [Exchange.granted?_of_put hx.method_eq (congrArg Except.toOption hreply)] at hgranted
      simp only [Except.toOption, Option.filter_some, decide_true, if_true, Option.map_some,
        Option.some.injEq, Prod.mk.injEq] at hgranted
      exact hgranted.2.symm
    refine ⟨_, rfl, ?_, ?_⟩
    · simpa [tokenEntry, Response.text] using htoken
    · simp [acceptedAfter_of_granted? hgranted, tokenEntry, Response.text]

/-- Looking for a token gives the one in the cell, or else a new one that is accepted. -/
theorem says_currentToken_of_works (h : Reachable client path p) :
    Says currentToken (client, p) fun log result client' => client'.endpoint = client.endpoint ∧
      ∀ accepted, Works accepted log → ∃ token, result = .ok token ∧
        (client.token.get? p.now = some token ∨
          client.token.get? p.now = none ∧ Presentable token ∧
            log.foldl acceptedAfter accepted = some (Utf8.ofString token)) := by
  rcases hget : client.token.get? p.now with - | token
  · obtain ⟨log, result, client', q, hop, hlog, rfl, hfetched⟩ := says_fetchToken_of_works h
    have hrun := currentToken_of_get?_none hget
    rw [hop] at hrun
    rcases result with e | entry
    · refine ⟨log, .error e, client', q, hrun, hlog, rfl, fun accepted hworks => ?_⟩
      obtain ⟨entry, ⟨⟩, -⟩ := hfetched accepted hworks
    · refine ⟨log, .ok entry.value, _, q, hrun, hlog, rfl, fun accepted hworks => ?_⟩
      obtain ⟨_, ⟨⟩, htoken, haccepted⟩ := hfetched accepted hworks
      exact ⟨entry.value, rfl, .inr ⟨rfl, htoken, haccepted⟩⟩
  · exact says_of_outcome _ client (currentToken_of_get? hget)
      ⟨rfl, fun _ _ => ⟨token, rfl, .inl rfl⟩⟩

/-- A page is given to whoever shows the token that is accepted, and others are refused. -/
theorem says_ask_of_works (h : Reachable client path p) (token : String) :
    Says (ask path token) (client, p) fun log result client' => client' = client ∧
      ∀ accepted, Works accepted log → Presentable token → ∃ response, result = .ok response ∧
        (response.status = .ok ∨
          response.status = .unauthorized ∧ accepted ≠ some (Utf8.ofString token)) := by
  have hsent : Says (ask path token) (client, p) fun log _ _ => Presentable token → log ≠ [] := by
    by_cases htoken : Presentable token
    · obtain ⟨base, hbase, -, uri, huri⟩ := h.address
      obtain ⟨head, hhead⟩ := exists_requestFor_page huri htoken
      refine says_with_request_of_ok hbase hhead ?_
      exact (says_send_of_replies h.replies _ _).imp fun _ _ _ hlog _ => hlog
    · exact (says_ask path token client p).imp fun _ _ _ _ hnot => absurd hnot htoken
  refine (hsent.and (says_ask path token client p)).imp ?_
  rintro log result client' ⟨hlog, rfl, hasked⟩
  refine ⟨rfl, fun accepted hworks htoken => ?_⟩
  cases hasked with
  | unsent => exact absurd rfl (hlog htoken)
  | @sent x result hx hreply =>
    have hget := hx.method_eq
    obtain ⟨base, -, hx⟩ := hx
    have hshown := Exchange.shown?_of_spells hx
    cases hworks.1 with
    | granted other hput => exact absurd (hput.symm.trans hget) (by decide)
    | served response _ _ hserved hstatus =>
      rw [hserved] at hreply
      exact ⟨response, toOption_eq_some_iff.mp hreply.symm, .inl hstatus⟩
    | refused _ hother hrefused =>
      obtain ⟨response, hresponse, hstatus⟩ := hrefused
      rw [hresponse] at hreply
      refine ⟨response, toOption_eq_some_iff.mp hreply.symm, .inr ⟨hstatus, ?_⟩⟩
      exact fun haccepted => hother (hshown.trans haccepted.symm)

/-! ### Clients that are stuck -/

/-- The client uses a token that cannot be shown. -/
def Stuck (client : Client) (now : Instant) : Prop :=
  ∃ token, client.token.get? now = some token ∧ ¬Presentable token

/-- **A client that is stuck sends nothing, fails, and is stuck as before.** -/
theorem fetch_of_stuck (h : Stuck client p.now) (path : String) :
    ∃ e, (fetch path).outcome (client, p) = (.error e, client, p) := by
  obtain ⟨token, hget, htoken⟩ := h
  obtain ⟨log, result, client', q, hop, hlog, rfl, hasked⟩ := says_ask path token client p
  have hattempt : (attempt path).outcome (client', p) = (result, client', q) := by
    rw [attempt, outcome_bind, currentToken_of_get? hget]
    exact hop
  cases hasked with
  | @unsent e =>
    refine ⟨e, ?_⟩
    rw [fetch_eq, outcome_bind, hattempt, hlog.eq_of_nil]
  | sent hx =>
    obtain ⟨base, -, hx⟩ := hx
    exact absurd (presentable_of_spells hx) htoken

/-! ### Calls -/

/-- With a working service an attempt ends with a page, unless the token was an old one. -/
theorem says_attempt_of_works (h : Reachable client path p) (hstuck : ¬Stuck client p.now) :
    Says (attempt path) (client, p) fun log result client' => client'.endpoint = client.endpoint ∧
      ∀ accepted, Works accepted log → ∃ response, result = .ok response ∧
        (response.status = .ok ∨
          response.status = .unauthorized ∧ client.token.get? p.now ≠ none) := by
  refine (says_currentToken_of_works h).bind (fun log e client' hend => ?_)
    fun log token client' q hend hlog => ?_
  · obtain ⟨hendpoint, hfound⟩ := hend
    refine ⟨hendpoint, fun accepted hworks => ?_⟩
    obtain ⟨token, ⟨⟩, -⟩ := hfound accepted hworks
  · obtain ⟨hendpoint, hfound⟩ := hend
    refine (says_ask_of_works (h.of_exchanged hlog hendpoint) token).imp ?_
    rintro log' result _ ⟨rfl, hasked⟩
    refine ⟨hendpoint, fun accepted hworks => ?_⟩
    obtain ⟨hworks, hworks'⟩ := works_append.mp hworks
    obtain ⟨_, ⟨⟩, hkept | ⟨-, htoken, haccepted⟩⟩ := hfound accepted hworks
    · have htoken : Presentable token := by
        by_contra hnot
        exact hstuck ⟨token, hkept, hnot⟩
      obtain ⟨response, hresult, hstatus⟩ := hasked _ hworks' htoken
      refine ⟨response, hresult, hstatus.imp_right fun hrefused => ⟨hrefused.1, ?_⟩⟩
      simp [hkept]
    · -- a token that was just granted is the one that is accepted
      obtain ⟨response, hresult, hstatus | ⟨-, hother⟩⟩ := hasked _ hworks' htoken
      · exact ⟨response, hresult, .inl hstatus⟩
      · exact absurd haccepted hother

theorem not_stuck_of_clear (client : Client) (now : Instant) :
    ¬Stuck { client with token := client.token.clear } now := by
  rintro ⟨token, hget, -⟩
  simp [Cached.get?, Cached.clear] at hget

/-- **With a working service a client that is not stuck gets the page.** -/
theorem says_fetch_of_works (h : Reachable client path p) (hstuck : ¬Stuck client p.now) :
    Says (fetch path) (client, p) fun log result _ =>
      ∀ accepted, Works accepted log → ∃ text, result = .ok text := by
  rw [fetch_eq]
  refine (says_attempt_of_works h hstuck).bind (fun log e client' hend => ?_)
    fun log first client' q hend hlog => ?_
  · intro accepted hworks
    obtain ⟨response, ⟨⟩, -⟩ := hend.2 accepted hworks
  obtain ⟨hendpoint, hfirst⟩ := hend
  split
  · -- the token is forgotten, and the second attempt gets a new one
    have hcleared : Reachable { client' with token := client'.token.clear } path q :=
      h.of_exchanged hlog hendpoint
    refine says_again (says_attempt_of_works hcleared (not_stuck_of_clear client' q.now)) ?_
    rintro log' result client'' ⟨-, hsecond⟩ accepted hworks
    obtain ⟨response, rfl, hstatus | ⟨-, hheld⟩⟩ := hsecond _ (works_append.mp hworks).2
    · exact ⟨response.text, textOf_eq_ok_iff.mpr ⟨hstatus, rfl⟩⟩
    · exact absurd rfl hheld
  · next hstatus =>
    refine says_of_outcome (textOf path first) client' rfl fun accepted hworks => ?_
    rw [List.append_nil] at hworks
    obtain ⟨_, ⟨⟩, hok | ⟨hrefused, -⟩⟩ := hfirst accepted hworks
    · exact ⟨first.text, textOf_eq_ok_iff.mpr ⟨hok, rfl⟩⟩
    · exact absurd hrefused hstatus

/-- **A client gets what it asks a working service for, unless it is stuck.**  Whatever was said in
earlier calls, and whichever token the service accepts to begin with, a call with a working service
gives a page if and only if the client does not hold a token that cannot be shown.  A client that
does sends nothing and stays as it is; then the last token that was granted is such a token, and it
is still young. -/
theorem exists_text_iff_of_works (endpoint : Option String) (visits : List Visit)
    (h : Reachable { endpoint } path p) :
    let client := (visited { endpoint } visits).1
    let history := (visited { endpoint } visits).2
    let call := (fetch path).outcome (client, p)
    (∀ accepted, Works accepted (p.exchanges call.2.2) →
      ((∃ text, call.1 = .ok text) ↔ ¬Stuck client p.now)) ∧
    (Stuck client p.now → call.2 = (client, p) ∧
      ∃ time response, lastGranted? history = some (time, response) ∧ Young time p.now ∧
        ¬Presentable response.text) := by
  obtain ⟨hholds, hendpoint⟩ := holds_visited endpoint visits
  have hreachable := h.of_exchanged (.nil p) hendpoint
  dsimp only
  by_cases hstuck : Stuck (visited { endpoint } visits).1 p.now
  · obtain ⟨e, hfetch⟩ := fetch_of_stuck hstuck path
    obtain ⟨token, hget, htoken⟩ := hstuck
    obtain ⟨time, response, hlast, hyoung, rfl⟩ := hholds.exists_young_of_get? hget
    rw [hfetch]
    refine ⟨fun _ _ => ⟨?_, fun hnot => ?_⟩, fun _ => ⟨rfl, time, response, hlast, hyoung, htoken⟩⟩
    · rintro ⟨text, ⟨⟩⟩
    · exact absurd ⟨_, hget, htoken⟩ hnot
  · obtain ⟨log, result, client', q, hop, hlog, hworks⟩ := says_fetch_of_works hreachable hstuck
    rw [hop]
    dsimp only at hlog ⊢
    rw [hlog.exchanges_eq]
    exact ⟨fun accepted hlog => iff_of_true (hworks accepted hlog) hstuck, fun h => absurd h hstuck⟩

/-! ### Before and after a restart -/

/-- The service grants a token and gives a page. -/
def early : Visit where
  platform :=
    { now := ⟨0, 0⟩
      replies := some [.ok ⟨.ok, Utf8.ofString "old"⟩, .ok ⟨.ok, Utf8.ofString "page"⟩] }
  path := "/x"

/-- The service has been started again, and accepts no token yet. -/
def restarted : Platform where
  now := ⟨3600, 0⟩
  replies := some [.ok ⟨.unauthorized, []⟩, .ok ⟨.ok, Utf8.ofString "new"⟩,
    .ok ⟨.ok, Utf8.ofString "page"⟩]

theorem reachable_of_replies (hreplies : p.replies ≠ none)
    (hbase : base {} p = .ok defaultEndpoint) : Reachable {} "/x" p :=
  ⟨hreplies, defaultEndpoint, hbase, ⟨_, rfl⟩, _, rfl⟩

/-- A client that was granted a token in the beginning. -/
def holding (token : String) : Client where
  token := {
    margin := .ofMinutes 2
    entry := some (tokenEntry ⟨0, 0⟩ ⟨.ok, Utf8.ofString token⟩) }

theorem visited_early : (visited {} [early]).1 = holding "old" := by decide +kernel

/-- The old token is refused, and the call gets the page with another one. -/
theorem exists_text_iff_of_works_restarted :
    let client := (visited {} [early]).1
    let call := (fetch "/x").outcome (client, restarted)
    Reachable {} "/x" restarted ∧ Works none (restarted.exchanges call.2.2) ∧
      ∃ text, call.1 = .ok text := by
  have hreachable : Reachable {} "/x" restarted := reachable_of_replies (by simp [restarted]) rfl
  obtain ⟨hrecovers, -⟩ := exists_text_iff_of_works none [early] hreachable
  rw [visited_early] at hrecovers ⊢
  have hworks : Works none
      (restarted.exchanges ((fetch "/x").outcome (holding "old", restarted)).2.2) :=
    ⟨.refused rfl (by decide +kernel) ⟨_, rfl, rfl⟩, .granted "new" rfl ⟨_, rfl⟩ rfl,
      .served _ rfl (by decide +kernel) rfl rfl, trivial⟩
  have hstuck : ¬Stuck (holding "old") restarted.now := by
    rintro ⟨token, hget, htoken⟩
    cases hget
    exact htoken ⟨_, rfl⟩
  exact ⟨hreachable, hworks, (hrecovers none hworks).mpr hstuck⟩

/-- The service grants a token with a line feed in it. -/
def torn : Visit where
  platform := { now := ⟨0, 0⟩, replies := some [.ok ⟨.ok, Utf8.ofString "bad\ntoken"⟩] }
  path := "/x"

/-- Five hours later the service is in order. -/
def repaired : Platform where
  now := ⟨18000, 0⟩
  replies := some [.ok ⟨.ok, Utf8.ofString "new"⟩, .ok ⟨.ok, Utf8.ofString "page"⟩]

/-- A client that was granted a token with a line feed gets nothing from a service that works, while
a client without a token gets the page. -/
theorem not_recovers_torn :
    let client := (visited {} [torn]).1
    let call := (fetch "/x").outcome (client, repaired)
    let fresh := (fetch "/x").outcome ({}, repaired)
    Reachable {} "/x" repaired ∧
      (Works none (repaired.exchanges call.2.2) ∧ (∃ e, call.1 = .error e) ∧ call.2.1 = client) ∧
      Works none (repaired.exchanges fresh.2.2) ∧ fresh.1 = .ok "page" := by
  have hreachable : Reachable {} "/x" repaired := reachable_of_replies (by simp [repaired]) rfl
  have hvisited : (visited {} [torn]).1 = holding "bad\ntoken" := by decide +kernel
  have hstuck : Stuck (holding "bad\ntoken") repaired.now := by
    refine ⟨"bad\ntoken", rfl, ?_⟩
    rintro ⟨value, ⟨⟩⟩
  obtain ⟨e, hfetch⟩ := fetch_of_stuck hstuck "/x"
  have hworks : Works none (repaired.exchanges ((fetch "/x").outcome ({}, repaired)).2.2) :=
    ⟨.granted "new" rfl ⟨_, rfl⟩ rfl, .served _ rfl (by decide +kernel) rfl rfl, trivial⟩
  have hfresh : ((fetch "/x").outcome ({}, repaired)).1 = .ok "page" := rfl
  rw [hvisited]
  dsimp only
  rw [hfetch, Platform.Exchanged.exchanges_eq (.nil repaired)]
  exact ⟨hreachable, ⟨trivial, ⟨e, rfl⟩, rfl⟩, hworks, hfresh⟩

end Client
end Metadata
end AwsSigning
