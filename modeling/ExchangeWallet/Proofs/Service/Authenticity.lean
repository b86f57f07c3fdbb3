import ExchangeWallet.Proofs.Operation.Body
import ExchangeWallet.Proofs.Signing.Headers
/-!
# Authenticity of requests

The exchange recomputes the signature of a request from what it receives: the path, the
nonce and the body. So the path that is signed has to be the one that the URL ends with,
and the nonce the one in the header. Both are made from one place below the version, which
the method of an operation settles; its arguments only go into the body.

The path starts with the version and the URL with whatever base was given. They agree
exactly where the base ends with the version, too.
-/
namespace ExchangeWallet

open Signing (NonceSource Recased Request Signer signedPath)

/-- The operations, without their arguments. -/
inductive Method where
  | wallets
  | transfer
  | depositAddress
  | createDepositAddress
  | withdraw
  | movements
deriving DecidableEq

/-- The path that is signed for a method. -/
def Method.path : Method → String
  | wallets => "v2/auth/r/wallets"
  | movements => "v2/auth/r/movements/hist"
  | transfer => "v2/auth/w/transfer"
  | depositAddress | createDepositAddress => "v2/auth/w/deposit/address"
  | withdraw => "v2/auth/w/withdraw"

/-- The method of an operation. -/
def Operation.method : Operation → Method
  | wallets => .wallets
  | transfer _ => .transfer
  | depositAddress _ _ => .depositAddress
  | createDepositAddress _ _ => .createDepositAddress
  | withdraw _ => .withdraw
  | movements _ _ _ => .movements

/-- The path of an operation's draft is that of its method. -/
theorem Operation.signedPath_eq (operation : Operation) :
    signedPath operation.permission operation.endpoint = operation.method.path := by
  cases operation <;> rfl

/-- What a request of a method has to be so that the exchange accepts it, made for a base
URL with a key, a secret and a nonce. Nothing but the method is known of the operation. -/
structure Verifies (baseUrl key secret : String) (method : Method) (nonce : Nat)
    (request : Request) : Prop where
  path : request.path = method.path
  /-- The URL is the base, with a slash behind it if it has none, and the path below the
  version. It ends with the whole path exactly if the base ends with the version. -/
  url : ∃ base place,
    base = (if baseUrl.toList.getLast? = some '/' then baseUrl else baseUrl ++ "/") ∧
      request.path = "v2/" ++ place ∧ request.url = base ++ place ∧
      (("/" ++ request.path).toList <:+ request.url.toList ↔ "/v2/".toList <:+ base.toList)
  headers : ∃ signature, request.headers =
    [("content-type", "application/json"),
      ("bfx-nonce", String.ofList (Numeral.naturalText nonce)), ("bfx-apikey", key),
      ("bfx-signature", signature)]
  /-- The signature is the keyed digest of the request's own path, nonce and body. -/
  signature : request.header? "bfx-signature" =
    some (Digest.hex (Digest.hmacSha384 (Text.bytes secret) request.signedBytes))
  lowercase : ∀ signature ∈ request.header? "bfx-signature", ∀ digit ∈ signature.toList,
    digit ∈ "0123456789abcdef".toList
  /-- Every header is found under every casing of its name. -/
  lookup : ∀ header ∈ request.headers, ∀ name, Recased header.1 name →
    request.header? name = some header.2

/-- A slash is put behind a URL only if it has none. -/
theorem withSlash_eq (url : String) :
    Settings.withSlash url = if url.toList.getLast? = some '/' then url else url ++ "/" := by
  rw [Settings.withSlash, String.push_eq_append, String.singleton_eq_ofList]

/-- Two texts with one ending end alike exactly if they do so in front of it. -/
theorem append_suffix_append_iff (front whole ending : List Char) :
    front ++ ending <:+ whole ++ ending ↔ front <:+ whole := by
  rw [List.suffix_append_inj_of_length_eq rfl, and_iff_left rfl]

/-- Bytes in hexadecimal are written with lowercase digits. -/
theorem Digest.hex_lowercase (bytes : List UInt8) :
    ∀ digit ∈ (hex bytes).toList, digit ∈ "0123456789abcdef".toList := by
  have lowercase : ∀ value : Fin 16, Nat.digitChar value ∈ "0123456789abcdef".toList := by decide
  intro digit member
  rw [hex, String.toList_ofList] at member
  obtain ⟨byte, _, inByte⟩ := List.mem_flatMap.mp member
  have high : byte.toNat / 16 < 16 := Nat.div_lt_of_lt_mul byte.toNat_lt
  have low : byte.toNat % 16 < 16 := Nat.mod_lt _ (by decide)
  rcases List.mem_pair.mp inByte with rfl | rfl
  · exact lowercase ⟨_, high⟩
  · exact lowercase ⟨_, low⟩

/-- The request that is composed for an operation verifies. -/
theorem compose_verifies (baseUrl key secret : String) (operation : Operation) (body : Json.Value)
    (nonce : UInt64) :
    Verifies baseUrl key secret operation.method nonce.toNat
      (Signer.compose (Settings.withSlash baseUrl) key secret operation.permission
        operation.endpoint body nonce) where
  path := operation.signedPath_eq
  url := by
    refine ⟨_, _, withSlash_eq baseUrl, rfl, rfl, ?_⟩
    simp only [Signer.compose, String.toList_append]
    rw [← List.append_assoc]
    exact append_suffix_append_iff _ _ _
  headers := ⟨_, rfl⟩
  signature := Signing.compose_signature ..
  lowercase := by
    intro signature found
    rw [Signing.compose_signature] at found
    cases found
    exact Digest.hex_lowercase _
  lookup := by
    intro header member name recased
    refine Signing.header?_of_recased ?_ member recased
    -- The names are written out, and no argument stands in them.
    simp only [Signer.compose, List.map_cons, List.map_nil]
    decide

end ExchangeWallet
