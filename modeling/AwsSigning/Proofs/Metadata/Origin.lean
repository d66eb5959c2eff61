/-
AwsSigning/Proofs/Metadata/Origin.lean

Where the tokens come from that a client of the metadata service shows.

Every token that is shown was granted to the client earlier, in the same call
or in one before (`exists_issuer_of_journal`).  It was asked for where the
service was at that time, and it is shown where the service is now: the client
looks that up again for each request, while it keeps a token for hours.  As
long as the place stays the same, so does the server; that is so for a client
with an endpoint of its own, for requests of one call, and wherever the setting
is the same.  Nothing else ties a token to the one who granted it
(`not_staysHome`).
-/
import AwsSigning.Proofs.Http.Uri
import AwsSigning.Proofs.Metadata.Session

namespace AwsSigning

open Operation

namespace Metadata

namespace Client

/-! ### Journals -/

/-- An exchange, and the call in which it took place. -/
structure Recorded where
  visit : Visit
  exchange : Exchange

/-- What a client exchanges in calls that follow one another. -/
def journal : Client → List Visit → List Recorded
  | _, [] => []
  | client, visit :: rest =>
    let s := visit.after client []
    s.2.map (⟨visit, ·⟩) ++ journal s.1 rest

variable {history : List Exchange} {client : Client} {done rest : List Recorded} {r : Recorded}

/-- **Every exchange in a journal has its place after those before it**, whichever call it belongs
to. -/
theorem inPlace_of_journal (h : Holds history client) {visits : List Visit}
    (hsplit : journal client visits = done ++ r :: rest) :
    InPlace (client.base r.visit.platform) r.visit.path (history ++ done.map (·.exchange))
      r.exchange := by
  induction visits generalizing client history done with
  | nil => simp [journal] at hsplit
  | cons visit visits ih =>
    obtain ⟨log, result, client', q, hop, hlog, hprotocol, hholds, hend⟩ :=
      says_fetch h visit.platform visit.path
    have hafter : visit.after client [] = (client', log) := by
      rw [Visit.after, hop]
      simp [hlog.exchanges_eq]
    have hbase : ∀ p, client'.base p = client.base p := fun p => base_eq_of_exchanged (.nil p) hend
    have hexchanges : (log.map (Recorded.mk visit)).map (·.exchange) = log := by
      simp [Function.comp_def]
    rw [journal, hafter] at hsplit
    obtain ⟨more, rfl, hmore⟩ | ⟨more, hdone, hmore⟩ := List.append_eq_append_iff.mp hsplit
    · -- the exchange belongs to a later call
      have hlater := ih hholds hmore
      rw [hbase, List.append_assoc] at hlater
      rwa [List.map_append, hexchanges]
    rcases more with - | ⟨first, more⟩
    · -- it is the first one of a later call
      have hfirst : journal client' visits = [] ++ r :: rest := hmore.symm
      have hlater := ih hholds hfirst
      rw [List.append_nil] at hdone
      rw [hbase, List.map_nil, List.append_nil] at hlater
      rwa [← hdone, hexchanges]
    · obtain ⟨rfl, -⟩ := List.cons.inj hmore
      obtain ⟨before, after, rfl, rfl, hafter⟩ := List.map_eq_append_iff.mp hdone
      obtain ⟨x, after, rfl, rfl, -⟩ := List.map_eq_cons_iff.mp hafter
      have hplace := hprotocol.places before x after rfl
      simpa [Function.comp_def] using hplace

/-! ### Issuers -/

/-- The client finds the service in the same place on two platforms: it has an endpoint of its own,
or the setting is the same. -/
def SameEndpoint (endpoint : Option String) (p p' : Platform) : Prop :=
  endpoint ≠ none ∨
    Setting.metadataEndpoint.resolveFromProcess p = Setting.metadataEndpoint.resolveFromProcess p'

theorem base_eq_of_sameEndpoint {endpoint : Option String} {p p' : Platform}
    (h : SameEndpoint endpoint p p') : base { endpoint } p = base { endpoint } p' := by
  rcases endpoint with - | endpoint
  · obtain hnone | hsetting := h
    · exact absurd rfl hnone
    · simp only [base, hsetting]
  · rfl

/-- No slash is left at the end. -/
theorem getLast?_dropSlashes (s : String) : (dropSlashes s).toList.getLast? ≠ some '/' := by
  intro h
  have hhead := List.head?_dropWhile_not (fun c => decide (c = '/')) s.toList.reverse
  rw [dropSlashes, String.toList_ofList, List.getLast?_reverse] at h
  rw [h] at hhead
  simp at hhead

theorem getLast?_of_base {p : Platform} {place : String} (h : client.base p = .ok place) :
    place.toList.getLast? ≠ some '/' := by
  unfold base at h
  split at h
  · cases h
    exact getLast?_dropSlashes _
  · rcases hsetting : Setting.metadataEndpoint.resolveFromProcess p with e | found
    · rw [hsetting] at h
      cases h
    · rw [hsetting] at h
      cases h
      exact getLast?_dropSlashes _

/-- The token that is shown was granted in an earlier exchange. -/
def Carries (issuer r : Recorded) : Prop :=
  ∃ granted ∈ issuer.exchange.granted?,
    r.exchange.shown? = some (Utf8.ofString granted.2.text)

/-- Both requests went to the same server. -/
def SameServer (r r' : Recorded) : Prop :=
  r.exchange.request.head.uri.SameServer r'.exchange.request.head.uri

instance (r r' : Recorded) : Decidable (SameServer r r') := inferInstanceAs (Decidable (_ ∧ _))

/-- A token that was granted in one exchange and is shown in another one. -/
structure IssuedBy (endpoint : Option String) (issuer r : Recorded) : Prop where
  token : Carries issuer r
  /-- The token was asked for where the service was found in that call, and is shown where it is
  found in this one. -/
  places : ∃ place place',
    base { endpoint } issuer.visit.platform = .ok place ∧
    base { endpoint } r.visit.platform = .ok place' ∧
    Uri.parse (place ++ tokenPath) = .ok issuer.exchange.request.head.uri ∧
    Uri.parse (place' ++ r.visit.path) = .ok r.exchange.request.head.uri ∧
    (SameEndpoint endpoint issuer.visit.platform r.visit.platform → place = place')
  server : SameEndpoint endpoint issuer.visit.platform r.visit.platform →
    r.visit.path.toList.head? = some '/' → SameServer issuer r

theorem exists_mem_of_lastGranted? {granted : Instant × Response}
    (h : lastGranted? history = some granted) : ∃ x ∈ history, x.granted? = some granted := by
  obtain ⟨x, hx, hgranted⟩ := List.exists_of_findSome?_eq_some h
  exact ⟨x, List.mem_reverse.mp hx, hgranted⟩

/-- **Every token that is shown was granted to this client before.**  If the client finds the
service in the same place as then, and the path starts with a slash, the token is shown to the
server that granted it. -/
theorem exists_issuer_of_journal {endpoint : Option String} {visits : List Visit}
    (hsplit : journal { endpoint } visits = done ++ r :: rest) (hget : r.exchange.method = .get) :
    ∃ issuer ∈ done, IssuedBy endpoint issuer r := by
  cases inPlace_of_journal (holds_nil endpoint) hsplit with
  | token hasks => exact absurd (hasks.method_eq.symm.trans hget) (by decide)
  | @page time response hlast _ hasks =>
    obtain ⟨place', hplace', hpage⟩ := hasks
    obtain ⟨x, hx, hgranted⟩ := exists_mem_of_lastGranted? hlast
    obtain ⟨issuer, hissuer, rfl⟩ := List.mem_map.mp hx
    obtain ⟨before, after, rfl⟩ := List.append_of_mem hissuer
    -- the issuer has its own place in the journal, and a page grants nothing
    rw [List.append_assoc, List.cons_append] at hsplit
    cases inPlace_of_journal (holds_nil endpoint) hsplit with
    | page _ _ hasks =>
      rw [Exchange.granted?_of_get hasks.method_eq] at hgranted
      cases hgranted
    | token hasks =>
      obtain ⟨place, hplace, htoken⟩ := hasks
      have hsame : SameEndpoint endpoint issuer.visit.platform r.visit.platform →
          place = place' := by
        intro hsame
        have hbase := base_eq_of_sameEndpoint hsame
        rw [hplace, hplace'] at hbase
        exact Except.ok.inj hbase
      refine ⟨issuer, hissuer, ⟨_, hgranted, Exchange.shown?_of_spells hpage⟩,
        ⟨place, place', hplace, hplace', htoken.uri, hpage.uri, hsame⟩, fun hend hslash => ?_⟩
      obtain rfl := hsame hend
      obtain ⟨path, hpath⟩ := List.head?_eq_some_iff.mp hslash
      have htokenPath : tokenPath.toList = '/' :: "latest/api/token".toList := rfl
      exact Uri.sameServer_of_parse (getLast?_of_base hplace) htokenPath (by decide) hpath
        htoken.uri hpage.uri

/-! ### A place that changes -/

/-- A machine whose settings say where the service is. -/
def pointed (endpoint : String) (said : List String) : Platform where
  now := ⟨0, 0⟩
  environment := [("AWS_EC2_METADATA_SERVICE_ENDPOINT", endpoint)]
  replies := some (said.map fun text => .ok ⟨.ok, Utf8.ofString text⟩)

/-- A call, and another one in which the service is in the same place. -/
def settled : List Visit :=
  [⟨pointed "http://a" ["token", "page"], "/x"⟩, ⟨pointed "http://a" ["page"], "/y"⟩]

theorem eq_append_of_mem_getElem? {js : List Recorded} {n : Nat} (h : r ∈ js[n]?) :
    js = js.take n ++ r :: js.drop (n + 1) := by
  obtain ⟨hn, rfl⟩ := List.getElem?_eq_some_iff.mp h
  rw [List.getElem_cons_drop, List.take_append_drop]

/-- The second call shows the token of the first one, to the same server. -/
theorem exists_issuer_of_journal_settled :
    ∃ done r rest, journal {} settled = done ++ r :: rest ∧ r.exchange.method = .get ∧
      r.visit.path = "/y" ∧ ∃ issuer ∈ done, IssuedBy none issuer r ∧ SameServer issuer r := by
  obtain ⟨r, hr, hget, hpath⟩ : ∃ r ∈ (journal {} settled)[2]?,
      r.exchange.method = .get ∧ r.visit.path = "/y" := by decide +kernel
  have hsplit := eq_append_of_mem_getElem? hr
  obtain ⟨issuer, hissuer, hissued⟩ := exists_issuer_of_journal hsplit hget
  -- the setting is the same in both calls
  have hsettings : ∀ r ∈ journal {} settled, ∀ r' ∈ journal {} settled,
      r.visit.platform.environment = r'.visit.platform.environment ∧
        r.visit.platform.properties = r'.visit.platform.properties := by
    decide +kernel
  obtain ⟨henvironment, hproperties⟩ :=
    hsettings issuer (List.mem_of_mem_take hissuer) r (List.mem_of_getElem? hr)
  have hsame : SameEndpoint none issuer.visit.platform r.visit.platform :=
    .inr (Setting.metadataEndpoint.resolveFromProcess_eq ⟨henvironment, hproperties⟩)
  have hserver := hissued.server hsame (by rw [hpath]; rfl)
  exact ⟨_, r, _, hsplit, hget, hpath, issuer, hissuer, hissued, hserver⟩

/-- Every token that is shown goes to the server that granted it. -/
def StaysHome (js : List Recorded) : Prop :=
  ∀ done r rest, js = done ++ r :: rest → r.exchange.method = .get →
    ∃ issuer ∈ done, Carries issuer r ∧ SameServer issuer r

theorem not_staysHome_of_getElem? {js : List Recorded} (n : Nat)
    (h : ∃ r ∈ js[n]?, r.exchange.method = .get ∧ ∀ issuer ∈ js.take n, ¬SameServer issuer r) :
    ¬StaysHome js := by
  intro hstays
  obtain ⟨r, hr, hget, hnot⟩ := h
  obtain ⟨issuer, hissuer, -, hserver⟩ := hstays _ _ _ (eq_append_of_mem_getElem? hr) hget
  exact hnot issuer hissuer hserver

/-- A call, and another one after the setting has changed. -/
def moved : List Visit :=
  [⟨pointed "http://a" ["token", "page"], "/x"⟩, ⟨pointed "http://b" ["page"], "/x"⟩]

/-- A call for a path that goes on where the name of the server ends. -/
def strayed : List Visit := [⟨pointed "http://a" ["token", "page"], "@b/x"⟩]

/-- A token is shown to another server once the setting has changed, and for a path that does not
start with a slash. -/
theorem not_staysHome :
    ¬StaysHome (journal {} moved) ∧
      ¬StaysHome (journal { endpoint := some "http://a" } strayed) := by
  constructor
  · exact not_staysHome_of_getElem? 2 (by decide +kernel)
  · exact not_staysHome_of_getElem? 1 (by decide +kernel)

end Client
end Metadata
end AwsSigning
