/-
AwsSigning/Proofs/Signing/PayloadDigest.lean

Whether the digest that is signed is the digest of what is sent.

The digest of a stream in memory is taken from where the stream stands, and
the stream is sent from its first byte.  Both are the same only if nothing
has been read before: then the digest that is signed covers what is sent
(`Covers`).  In general, after any calls to the stream,

    the digest covers what is sent
      iff  SHA-256 of the unread chunks = SHA-256 of all chunks

and this holds of the digest alone as well as of the one that a middleware
signs (`covers_iff_of_sign`).
-/
import AwsSigning.Proofs.Payload.Reading
import AwsSigning.Proofs.Signing.Middleware
import AwsSigning.Proofs.Signing.Success
import AwsSigning.Provider.Credentials

namespace AwsSigning

open ByteStream

/-! ### Digests that cover a payload -/

/-- A digest is the one of all that comes out of a payload when it is sent. -/
def Payload.Covers {σ : Type} [ByteStream σ] (digest : String) (payload : Payload σ) : Prop :=
  ∃ s chunks, payload = .stream s ∧ (readRest s).1 = .ok chunks ∧
    digest = Sha256.hexDigest chunks.flatten

/-- A stream in memory that has been rewound is sent as a whole. -/
theorem Payload.covers_rewound_iff {digest : String} {s : ReplayableStream} :
    Covers digest (.stream { s with position := 0 }) ↔
      digest = Sha256.hexDigest s.chunks.flatten := by
  have hrest : (readRest { s with position := 0 }).1 = .ok s.chunks :=
    (ReplayableStream.readRest_eq { s with position := 0 }).1
  constructor
  · rintro ⟨s', chunks, hs, hchunks, rfl⟩
    cases hs
    cases hrest.symm.trans hchunks
    rfl
  · intro h
    exact ⟨_, _, rfl, hrest, h⟩

namespace Signing

variable {c : Config} {s : Signable} {canonical : CanonicalRequest}

/-- A config that was built signs what its draft says in place of the payload. -/
theorem payload_of_build {d : Draft} {now : Instant} (h : d.build now = .ok c) :
    c.payload = d.payload.getD .unsigned := by
  obtain ⟨region, -, h⟩ := bind_eq_ok_iff.mp h
  obtain ⟨service, -, h⟩ := bind_eq_ok_iff.mp h
  dsimp only at h
  split at h
  · obtain ⟨credential, -, h⟩ := bind_eq_ok_iff.mp h
    obtain ⟨⟨⟩, -, h⟩ := bind_eq_ok_iff.mp h
    cases h
    rfl
  · cases h

theorem payload_of_of (h : CanonicalRequest.of c s = .ok canonical) :
    canonical.payload = c.payload.text := by
  obtain ⟨path, -, h⟩ := bind_eq_ok_iff.mp h
  obtain ⟨fields, -, h⟩ := bind_eq_ok_iff.mp h
  cases h
  rfl

/-- What is signed in place of the payload does not matter if it is not sent. -/
theorem CanSign.withPayload {request : Request} (h : CanSign c request)
    (habsent : c.manner.payloadHeader = .absent) (value : PayloadValue) :
    CanSign { c with payload := value } request where
  algorithm := h.algorithm
  star := h.star
  path := h.path
  fields := by
    obtain ⟨parts, headers, hparts, hheaders, hreadable⟩ := h.fields
    refine ⟨parts, headers, hparts, ?_, hreadable⟩
    rw [← hheaders]
    simp only [canonicalHeaders, showPayload, habsent]
    rfl
  scope := h.scope
  token := h.token

namespace Middleware

variable {π : Type} {base : Draft} {desk desk' : Desk π ReplayableStream}

/-- In place of a stream in memory the digest of its unread chunks is signed, and the stream is
at its first byte afterwards. -/
theorem outcome_payloadValue_replayable {s : ReplayableStream} (desk : Desk π ReplayableStream)
    (hpayload : desk.payload = .stream s) (hvalue : desk.context.payload = none)
    (hunsigned : desk.context.unsignedPayload = false) :
    payloadValue.outcome desk
      = (.ok (.precomputed (Sha256.hexDigest s.unread.flatten)),
          { desk with payload := .stream { s with position := 0 } }) := by
  have hempty : desk.payload.isEmpty = false := by
    rw [hpayload]
    rfl
  have hunbounded : desk.payload.isUnbounded = false := by
    rw [hpayload]
    rfl
  rw [outcome_payloadValue_of_hashed hvalue hunsigned hempty hunbounded, hpayload,
    Payload.outcome_hexDigest_replayable]
  rfl

/-- **What a middleware signs is the digest of the unread chunks**, and it leaves the stream at its
first byte. -/
theorem exists_of_sign_replayable [Source π Credential] {s : ReplayableStream}
    (h : (sign base).outcome desk = (.ok (), desk')) (hpayload : desk.payload = .stream s)
    (hvalue : desk.context.payload = none) (hunsigned : desk.context.unsignedPayload = false) :
    ∃ config canonical, desk'.working = some (working config canonical) ∧
      desk'.context.signature = some (signature config (working config canonical).stringToSign) ∧
      canonical.payload = Sha256.hexDigest s.unread.flatten ∧
      desk'.payload = .stream { s with position := 0 } := by
  obtain ⟨given, asked, value, read, config, made, bench, payload, hgiven, hread, hbuild, hmade,
    hrewind, rfl⟩ := sign_eq_ok_iff.mp h
  -- asking for the credential touches neither the payload nor what is said about it
  obtain ⟨provider, platform, rfl⟩ := exists_of_outcome_credential hgiven
  rw [outcome_payloadValue_replayable { desk with provider, platform } hpayload hvalue hunsigned]
    at hread
  cases hread
  cases hrewind
  obtain ⟨-, prepared, canonical, request, hform, rfl, -, rfl⟩ := Signing.sign_eq_ok_iff.mp hmade
  refine ⟨config, canonical, rfl, rfl, ?_, rfl⟩
  rw [payload_of_of (prepared_of_canonicalize hform).2, payload_of_build hbuild]
  rfl

/-- **What a middleware signs covers the payload that is sent exactly if the unread chunks have the
digest of all**, whatever calls were made to the stream before; and so does the digest of the
payload by itself. -/
theorem covers_iff_of_sign [Source π Credential] {chunks : List Bytes} {calls : List Call}
    (hpayload : desk.payload = .stream (ReplayableStream.used chunks calls))
    (hvalue : desk.context.payload = none) (hunsigned : desk.context.unsignedPayload = false)
    (h : (sign base).outcome desk = (.ok (), desk')) :
    (∃ digest payload, Payload.hexDigest.outcome desk.payload = (.ok digest, payload) ∧
      (Payload.Covers digest payload ↔
        Sha256.hexDigest (ReplayableStream.used chunks calls).unread.flatten
          = Sha256.hexDigest chunks.flatten)) ∧
    ∃ config canonical, desk'.working = some (working config canonical) ∧
      desk'.context.signature = some (signature config (working config canonical).stringToSign) ∧
      (Payload.Covers canonical.payload desk'.payload ↔
        Sha256.hexDigest (ReplayableStream.used chunks calls).unread.flatten
          = Sha256.hexDigest chunks.flatten) := by
  have hchunks : (ReplayableStream.used chunks calls).chunks = chunks := by simp
  have hsent : ∀ digest, Payload.Covers digest
      (.stream { ReplayableStream.used chunks calls with position := 0 })
        ↔ digest = Sha256.hexDigest chunks.flatten := by
    intro digest
    rw [Payload.covers_rewound_iff, hchunks]
  constructor
  · rw [hpayload]
    exact ⟨_, _, Payload.outcome_hexDigest_replayable _, hsent _⟩
  · obtain ⟨config, canonical, hworking, hsignature, hdigest, hrewound⟩ :=
      exists_of_sign_replayable h hpayload hvalue hunsigned
    refine ⟨config, canonical, hworking, hsignature, ?_⟩
    rw [hrewound, hdigest]
    exact hsent _

/-! ### An upload -/

/-- An object is put into a bucket. -/
def uploadRequest : Request where
  method := .put
  uri := ⟨some "https", some "bucket.s3.amazonaws.com", some ⟨"/key", none, by decide⟩⟩
  headers := []

def uploadCredential : Credential := { accessKeyId := "AKIDEXAMPLE", secretAccessKey := "secret" }

def uploadDraft : Draft where
  region := "us-west-2"
  service := "s3"

def uploadChunks : List Bytes := [Utf8.ofString "hello ", Utf8.ofString "world"]

/-- The object is read from a stream to which calls have been made. -/
def uploadDesk (calls : List Call) :
    Desk (CredentialProvider (Nowhere Credential)) ReplayableStream where
  provider := .source (.fixed uploadCredential)
  platform := { now := .ofSecond 1704067200 }
  request := uploadRequest
  payload := .stream (.used uploadChunks calls)

/-- The draft filled in for an upload, before the payload has been read. -/
def uploadConfig : Config where
  region := "us-west-2"
  service := "s3"
  credential := uploadCredential
  date := .ofSecond 1704067200
  payload := .unsigned
  manner := {}

theorem canSign_upload : CanSign uploadConfig uploadRequest where
  algorithm := rfl
  star := by decide
  path := ⟨_, rfl⟩
  fields := ⟨_, _, rfl, rfl, by decide⟩
  scope _ := by decide
  token _ token h := by cases h

theorem exists_sign_upload (calls : List Call) :
    ∃ desk', (sign uploadDraft).outcome (uploadDesk calls) = (.ok (), desk') := by
  have hgiven : credential.outcome (uploadDesk calls) = (.ok uploadCredential, uploadDesk calls) := by
    rw [outcome_credential]
    rfl
  have hread := outcome_payloadValue_replayable (uploadDesk calls) rfl rfl rfl
  have hbuild : ∀ value, (filled uploadDraft (uploadDesk calls) uploadCredential value).build
      (uploadDesk calls).platform.now = .ok { uploadConfig with payload := value } := fun _ => rfl
  have hcan := canSign_upload.withPayload rfl
    (.precomputed (Sha256.hexDigest (ReplayableStream.used uploadChunks calls).unread.flatten))
  obtain ⟨made, bench, hmade⟩ := @exists_sign_ok _ ⟨uploadRequest, none⟩ hcan
  exact ⟨_, sign_eq_ok_iff.mpr
    ⟨_, _, _, _, _, made, bench, _, hgiven, hread, hbuild _, hmade, rfl, rfl⟩⟩

/-- The first chunk is looked at, and the stream is rewound before the upload. -/
theorem covers_iff_of_sign_upload :
    (uploadDesk [.next, .rewind]).payload = .stream (.used uploadChunks [.next, .rewind]) ∧
    (uploadDesk [.next, .rewind]).context.payload = none ∧
    (uploadDesk [.next, .rewind]).context.unsignedPayload = false ∧
    ∃ desk' config canonical,
      (sign uploadDraft).outcome (uploadDesk [.next, .rewind]) = (.ok (), desk') ∧
      desk'.working = some (working config canonical) ∧
      Payload.Covers canonical.payload desk'.payload := by
  obtain ⟨desk', h⟩ := exists_sign_upload [.next, .rewind]
  obtain ⟨-, config, canonical, hworking, -, hcovers⟩ :=
    @covers_iff_of_sign _ _ _ _ _ uploadChunks [.next, .rewind] rfl rfl rfl h
  exact ⟨rfl, rfl, rfl, desk', config, canonical, h, hworking, hcovers.mpr rfl⟩

/-- The first chunk is looked at and the stream is not rewound: the digest that is signed is that
of the second chunk, and both are sent. -/
theorem not_covers_uploadStarted :
    ∃ desk' config canonical, (sign uploadDraft).outcome (uploadDesk [.next]) = (.ok (), desk') ∧
      desk'.working = some (working config canonical) ∧
      ¬Payload.Covers canonical.payload desk'.payload := by
  obtain ⟨desk', h⟩ := exists_sign_upload [.next]
  obtain ⟨config, canonical, hworking, -, hdigest, hrewound⟩ :=
    exists_of_sign_replayable (s := .used uploadChunks [.next]) h rfl rfl rfl
  refine ⟨desk', config, canonical, h, hworking, ?_⟩
  rw [hrewound, Payload.covers_rewound_iff, hdigest]
  decide +kernel

end Middleware

end Signing

end AwsSigning
