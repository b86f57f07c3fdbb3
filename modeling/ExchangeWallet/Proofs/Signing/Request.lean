import ExchangeWallet.Proofs.Numerals
import ExchangeWallet.Proofs.Text.Runs
import ExchangeWallet.Signing.Signer
/-!
# What a signature is over

The signature of a composed request is over the bytes of its path, its nonce and its
body, which stand one behind the other with nothing between them. Still the bytes can
be taken apart in one way only. A body is an object and opens with the first brace;
in front of it the nonce is a run of digits, and the path does not end with a digit.

A signature is the text of a digest, and the digest is told by it. So two signatures under
one secret are equal only if the signed bytes are, or if their digests collide.
-/
namespace ExchangeWallet

namespace Digest

/-- Two messages that are different and have one digest under a key. -/
def Collide (key first second : List UInt8) : Prop :=
  first ≠ second ∧ hmacSha384 key first = hmacSha384 key second

/-- A byte is told by its two digits. -/
theorem hexByte_injective {first second : UInt8} (same : hexByte first = hexByte second) :
    first = second := by
  have digits : ∀ value < 16, ∀ other < 16, Nat.digitChar value = Nat.digitChar other →
      value = other := by decide
  simp only [hexByte, List.cons.injEq, and_true] at same
  have high := digits _ (Nat.div_lt_of_lt_mul first.toNat_lt) _
    (Nat.div_lt_of_lt_mul second.toNat_lt) same.1
  have low := digits _ (Nat.mod_lt _ (by decide)) _ (Nat.mod_lt _ (by decide)) same.2
  exact UInt8.toNat_inj.mp (by omega)

/-- Bytes are told by their text in hexadecimal. -/
theorem hex_injective {first second : List UInt8} (same : hex first = hex second) :
    first = second := by
  rw [hex, hex, String.ofList_inj] at same
  induction first generalizing second with
  | nil => cases second with
    | nil => rfl
    | cons other others => simp [hexByte] at same
  | cons byte rest inductionHypothesis =>
    cases second with
    | nil => simp [hexByte] at same
    | cons other others =>
      rw [List.flatMap_cons, List.flatMap_cons] at same
      obtain ⟨bytes, rests⟩ := List.append_inj same rfl
      rw [hexByte_injective bytes, inductionHypothesis rests]

end Digest

namespace Signing

/-- The bytes that the signature of a request is over, by the request's own fields. -/
def Request.signedBytes (request : Request) : List UInt8 :=
  Text.bytes (signedText request.path ((request.header? "bfx-nonce").getD "") request.body)

/-- The nonce of a request, read from its header. -/
def Request.nonce? (request : Request) : Option Nat :=
  (request.header? "bfx-nonce").bind fun text => Numeral.natural? text.toList

/-- The path of an endpoint, as it is signed. -/
def signedPath (permission : Permission) (endpoint : String) : String :=
  "v2/" ++ ("auth/" ++ permission.letter ++ "/" ++ endpoint)

/-- A request asks for an endpoint with a body and a nonce. It names a key, and its signature is
the digest of its own path, nonce and body under a secret. -/
structure Request.IsSigned (baseUrl key secret : String) (permission : Permission)
    (endpoint : String) (body : Json.Value) (nonce : Nat) (request : Request) : Prop where
  url : request.url = baseUrl ++ ("auth/" ++ permission.letter ++ "/" ++ endpoint)
  path : request.path = signedPath permission endpoint
  body : request.body = body.compact
  nonce : request.header? "bfx-nonce" = some (String.ofList (Numeral.naturalText nonce))
  key : request.header? "bfx-apikey" = some key
  signature : request.header? "bfx-signature" =
    some (Digest.hex (Digest.hmacSha384 (Text.bytes secret) request.signedBytes))

section Composed

variable (baseUrl key secret endpoint : String) (permission : Permission) (body : Json.Value)
  (nonce : UInt64)

/-- The nonce stands in its header as a numeral. -/
theorem compose_nonce :
    (Signer.compose baseUrl key secret permission endpoint body nonce).header? "bfx-nonce" =
      some (String.ofList (Numeral.naturalText nonce.toNat)) := by
  simp [Signer.compose, Request.header?, List.find?, Request.lowered]

/-- A composed request carries the nonce that it was composed with. -/
theorem nonce?_compose :
    (Signer.compose baseUrl key secret permission endpoint body nonce).nonce? =
      some nonce.toNat := by
  simp [Request.nonce?, compose_nonce]

/-- The signature stands in its header and is the keyed digest of the signed bytes. -/
theorem compose_signature :
    let request := Signer.compose baseUrl key secret permission endpoint body nonce
    request.header? "bfx-signature" =
      some (Digest.hex (Digest.hmacSha384 (Text.bytes secret) request.signedBytes)) := by
  intro request
  rw [Request.signedBytes, compose_nonce]
  simp [Signer.compose, Request.header?, List.find?, Request.lowered, signature, request]

/-- The key stands in its header. -/
theorem compose_key :
    (Signer.compose baseUrl key secret permission endpoint body nonce).header? "bfx-apikey" =
      some key := by
  simp [Signer.compose, Request.header?, List.find?, Request.lowered]

/-- A composed request is signed by the credentials that it was composed with. -/
theorem compose_isSigned :
    (Signer.compose baseUrl key secret permission endpoint body nonce).IsSigned baseUrl key secret
      permission endpoint body nonce.toNat where
  url := rfl
  path := rfl
  body := rfl
  nonce := compose_nonce ..
  key := compose_key ..
  signature := compose_signature ..

/-- The signed bytes of a composed request are those of its parts. -/
theorem compose_signedBytes :
    (Signer.compose baseUrl key secret permission endpoint body nonce).signedBytes =
      Text.bytes (signedText (signedPath permission endpoint)
        (String.ofList (Numeral.naturalText nonce.toNat)) body.compact) := by
  rw [Request.signedBytes, compose_nonce]
  rfl

end Composed

/-- Requests with one signature are over the same bytes, or over bytes that collide. -/
theorem signedBytes_eq_or_collide {key : List UInt8} {request other : Request}
    (signed : request.header? "bfx-signature" =
      some (Digest.hex (Digest.hmacSha384 key request.signedBytes)))
    (otherSigned : other.header? "bfx-signature" =
      some (Digest.hex (Digest.hmacSha384 key other.signedBytes)))
    (same : request.header? "bfx-signature" = other.header? "bfx-signature") :
    request.signedBytes = other.signedBytes ∨
      Digest.Collide key request.signedBytes other.signedBytes := by
  rw [signed, otherSigned] at same
  by_cases bytes : request.signedBytes = other.signedBytes
  · exact .inl bytes
  · exact .inr ⟨bytes, Digest.hex_injective (Option.some.inj same)⟩

/-- Different texts have different bytes. -/
theorem bytes_injective {first second : String} (same : Text.bytes first = Text.bytes second) :
    first = second := by
  simp only [Text.bytes, String.toUTF8_eq_toByteArray, Array.toList_inj] at same
  exact String.toByteArray_inj.mp (ByteArray.ext same)

/-- A path without braces that does not end with a digit, a run of digits, and a text
that opens with a brace can be told apart. The brace ends the first two, and the last
character of the path that is no digit ends the path, read from behind. -/
theorem parts_unique {path otherPath digits otherDigits body otherBody : List Char}
    (plain : ∀ character ∈ path, character ≠ '{')
    (plainOther : ∀ character ∈ otherPath, character ≠ '{')
    (last : ∀ character ∈ path.getLast?, character.isDigit = false)
    (lastOther : ∀ character ∈ otherPath.getLast?, character.isDigit = false)
    (areDigits : ∀ character ∈ digits, character.isDigit)
    (areDigitsOther : ∀ character ∈ otherDigits, character.isDigit)
    (same : path ++ digits ++ '{' :: body = otherPath ++ otherDigits ++ '{' :: otherBody) :
    path = otherPath ∧ digits = otherDigits ∧ body = otherBody := by
  have noBrace {path digits : List Char} (plain : ∀ character ∈ path, character ≠ '{')
      (areDigits : ∀ character ∈ digits, character.isDigit) :
      ∀ character ∈ path ++ digits, (character != '{') = true := by
    intro character member
    rw [bne_iff_ne]
    rcases List.mem_append.mp member with inPath | inDigits
    · exact plain character inPath
    · exact Numeral.ne_of_isDigit (areDigits character inDigits) rfl
  obtain ⟨front, bodies⟩ := Text.run_unique (noBrace plain areDigits) (by simp)
    (noBrace plainOther areDigitsOther) (by simp) same
  have backwards : digits.reverse ++ path.reverse = otherDigits.reverse ++ otherPath.reverse := by
    simpa using congrArg List.reverse front
  have fromBehind {digits : List Char} (areDigits : ∀ character ∈ digits, character.isDigit) :
      ∀ character ∈ digits.reverse, character.isDigit := by simpa using areDigits
  obtain ⟨numbers, paths⟩ := Text.run_unique (fromBehind areDigits) (by simpa using last)
    (fromBehind areDigitsOther) (by simpa using lastOther) backwards
  exact ⟨List.reverse_inj.mp paths, List.reverse_inj.mp numbers, (List.cons.inj bodies).2⟩

/-- The path of an endpoint determines the permission and the endpoint. -/
theorem signedPath_injective {permission otherPermission : Permission}
    {endpoint otherEndpoint : String}
    (same : signedPath permission endpoint = signedPath otherPermission otherEndpoint) :
    permission = otherPermission ∧ endpoint = otherEndpoint := by
  have texts := congrArg String.toList same
  cases permission <;> cases otherPermission <;>
    simp [signedPath, Permission.letter, String.toList_inj] at texts
  · exact ⟨rfl, texts⟩
  · exact ⟨rfl, texts⟩

end Signing

end ExchangeWallet
