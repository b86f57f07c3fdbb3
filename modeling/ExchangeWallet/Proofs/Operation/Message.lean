import ExchangeWallet.Proofs.Decimal.Value
import ExchangeWallet.Proofs.Operation.Body
/-!
# Messages are unambiguous

What is signed tells which operation it was signed for, with which arguments and with
which nonce. The bytes fall apart into path, nonce and body in one way only; a path
tells the endpoint and the permission, and a body, which reads back as the fields that
it was printed from, tells the arguments. Only an amount is not told digit by digit,
for its text is that of its normal form: it is told as a number.

A signature tells as much as the bytes that it is over, as far as their digests do not
collide.
-/
namespace ExchangeWallet

open Json (Fields Value)
open Signing (Permission Request signedPath)

namespace Operation

/-- The same operation with the same arguments, amounts being compared as numbers. -/
def Agrees : Operation → Operation → Prop
  | wallets, wallets => True
  | transfer first, transfer second =>
    first.source = second.source ∧ first.target = second.target ∧
      first.currency = second.currency ∧ first.targetCurrency = second.targetCurrency ∧
      first.amount.value = second.amount.value
  | depositAddress wallet method, depositAddress otherWallet otherMethod =>
    wallet = otherWallet ∧ method = otherMethod
  | createDepositAddress wallet method, createDepositAddress otherWallet otherMethod =>
    wallet = otherWallet ∧ method = otherMethod
  | withdraw first, withdraw second =>
    first.wallet = second.wallet ∧ first.method = second.method ∧
      first.amount.value = second.amount.value ∧ first.address = second.address ∧
      first.paymentId = second.paymentId
  | movements start stop limit, movements otherStart otherStop otherLimit =>
    start = otherStart ∧ stop = otherStop ∧ limit = otherLimit
  | _, _ => False

/-- The path of an operation has no brace. -/
theorem path_plain (operation : Operation) :
    ∀ character ∈ (signedPath operation.permission operation.endpoint).toList, character ≠ '{' := by
  cases operation <;> simp [permission, endpoint, signedPath, Permission.letter]

/-- The path of an operation ends with a letter. -/
theorem path_last (operation : Operation) :
    ∀ character ∈ (signedPath operation.permission operation.endpoint).toList.getLast?,
      character.isDigit = false := by
  cases operation <;> simp [permission, endpoint, signedPath, Permission.letter]

/-- The text of an object opens with a brace. -/
theorem object_text_opening (fields : Fields) :
    ∃ rest, (Value.object fields).text = '{' :: rest := by
  cases fields with
  | nil => exact ⟨['}'], by rw [Value.text]⟩
  | cons field others => exact ⟨_, by rw [Value.text]⟩

/-- A field of one key in front of fields of other keys can be told from them. -/
theorem given_unique {key : String} {value otherValue : Option Value} {rest otherRest : Fields}
    (behind : ∀ field ∈ rest, field.1 ≠ key) (behindOther : ∀ field ∈ otherRest, field.1 ≠ key)
    (same : given key value ++ rest = given key otherValue ++ otherRest) :
    value = otherValue ∧ rest = otherRest := by
  cases value with
  | none =>
    cases otherValue with
    | none => exact ⟨rfl, same⟩
    | some otherContent =>
      have member : (key, otherContent) ∈ rest := by
        rw [show rest = (key, otherContent) :: otherRest from same]
        exact List.mem_cons_self
      exact absurd rfl (behind _ member)
  | some content =>
    cases otherValue with
    | none =>
      have member : (key, content) ∈ otherRest := by
        rw [show otherRest = (key, content) :: rest from same.symm]
        exact List.mem_cons_self
      exact absurd rfl (behindOther _ member)
    | some otherContent => simpa [given] using same

/-- A field that stands alone tells its value. -/
theorem given_injective {key : String} {value otherValue : Option Value}
    (same : given key value = given key otherValue) : value = otherValue := by
  cases value <;> cases otherValue <;> simp_all [given]

/-- A given field has no key but its own. -/
theorem given_other {key otherKey : String} (different : otherKey ≠ key) (value : Option Value) :
    ∀ field ∈ given otherKey value, field.1 ≠ key := by
  cases value with
  | none => simp [given]
  | some content => simpa [given] using different

/-- Words are told by the numbers in which they are sent. -/
theorem ofInt64_value_injective {first second : Int64}
    (same : Value.number (.ofInt64 first) = .number (.ofInt64 second)) : first = second := by
  simp only [Value.number.injEq, Json.Number.ofInt64, Json.Number.whole.injEq] at same
  exact Int64.toInt_inj.mp same

/-- Limits are told by the numbers in which they are sent. -/
theorem limit_value_injective {first second : UInt32}
    (same : Value.number (.ofUInt64 first.toUInt64) = .number (.ofUInt64 second.toUInt64)) :
    first = second := by
  simp only [Value.number.injEq, Json.Number.ofUInt64, Json.Number.whole.injEq] at same
  simpa [← UInt32.toNat_inj] using same

/-- The bounds of a question for movements are told by the fields of its body. -/
theorem movements_agrees {start stop otherStart otherStop : Option Int64}
    {limit otherLimit : Option UInt32}
    (same : (movements start stop limit).bodyFields =
      (movements otherStart otherStop otherLimit).bodyFields) :
    (movements start stop limit).Agrees (movements otherStart otherStop otherLimit) := by
  simp only [bodyFields, List.append_assoc] at same
  have behind (limit start : Option Value) :
      ∀ field ∈ given "limit" limit ++ given "start" start, field.1 ≠ "end" :=
    List.forall_mem_append.mpr ⟨given_other (by decide) limit, given_other (by decide) start⟩
  obtain ⟨stops, same⟩ := given_unique (behind _ _) (behind _ _) same
  obtain ⟨limits, same⟩ :=
    given_unique (given_other (by decide) _) (given_other (by decide) _) same
  have starts := given_injective same
  refine ⟨?_, ?_, ?_⟩
  · exact (Option.map_inj_right fun _ _ => ofInt64_value_injective).mp starts
  · exact (Option.map_inj_right fun _ _ => ofInt64_value_injective).mp stops
  · exact (Option.map_inj_right fun _ _ => limit_value_injective).mp limits

/-- The arguments of a withdrawal are told by the fields of its body. The payment
identifier stands between two other fields, and is missed there if it is not given. -/
theorem withdraw_agrees {first second : Withdrawal}
    (same : (withdraw first).bodyFields = (withdraw second).bodyFields) :
    (withdraw first).Agrees (withdraw second) := by
  simp only [bodyFields, List.cons_append, List.nil_append, List.cons.injEq, Prod.mk.injEq,
    true_and, Value.string.injEq] at same
  obtain ⟨address, amount, method, behind⟩ := same
  obtain ⟨payment, wallet⟩ := given_unique (by simp) (by simp) behind
  refine ⟨?_, method, Decimal.value_eq_of_text_normalize_eq amount, address, ?_⟩
  · simpa using wallet
  · exact (Option.map_inj_right fun _ _ => Value.string.inj).mp payment

/-- Operations of one endpoint and permission with the same fields are one operation,
with the same arguments. -/
theorem agrees_of_bodyFields {first second : Operation}
    (permissions : first.permission = second.permission)
    (endpoints : first.endpoint = second.endpoint)
    (fields : first.bodyFields = second.bodyFields) : first.Agrees second := by
  cases first <;> cases second <;> try simp [permission] at permissions
  all_goals try simp [endpoint] at endpoints
  case wallets.wallets => trivial
  case movements.movements => exact movements_agrees fields
  case withdraw.withdraw => exact withdraw_agrees fields
  case transfer.transfer first second =>
    simp only [bodyFields, List.cons.injEq, Prod.mk.injEq, true_and, and_true,
      Value.string.injEq] at fields
    obtain ⟨amount, currency, targetCurrency, source, target⟩ := fields
    exact ⟨source, target, currency, targetCurrency,
      Decimal.value_eq_of_text_normalize_eq amount⟩
  all_goals
    simp [bodyFields] at fields
  all_goals exact ⟨fields.2, fields.1⟩

/-- Equal messages are made of equal parts. -/
theorem message_unique {first second : Operation} {nonce otherNonce : UInt64}
    (same : Signing.signedText (signedPath first.permission first.endpoint)
        (String.ofList (Numeral.naturalText nonce.toNat)) (Value.object first.bodyFields).compact =
      Signing.signedText (signedPath second.permission second.endpoint)
        (String.ofList (Numeral.naturalText otherNonce.toNat))
        (Value.object second.bodyFields).compact) :
    first.permission = second.permission ∧ first.endpoint = second.endpoint ∧
      nonce = otherNonce ∧
      (Value.object first.bodyFields).compact = (Value.object second.bodyFields).compact := by
  obtain ⟨rest, opening⟩ := object_text_opening first.bodyFields
  obtain ⟨otherRest, otherOpening⟩ := object_text_opening second.bodyFields
  have characters := congrArg String.toList same
  simp only [Signing.signedText, Value.compact, String.toList_append, String.toList_ofList,
    opening, otherOpening, List.append_assoc, List.append_cancel_left_eq] at characters
  rw [← List.append_assoc, ← List.append_assoc] at characters
  obtain ⟨paths, digits, bodies⟩ := Signing.parts_unique first.path_plain second.path_plain
    first.path_last second.path_last (Numeral.naturalText_digits _) (Numeral.naturalText_digits _)
    characters
  obtain ⟨permissions, endpoints⟩ := Signing.signedPath_injective (String.toList_inj.mp paths)
  refine ⟨permissions, endpoints, UInt64.toNat_inj.mp (Numeral.naturalText_injective digits), ?_⟩
  rw [Value.compact, Value.compact, opening, otherOpening, bodies]

/-- What two requests have in common that were made by one operation with the same
arguments and at the same nonce, under whatever signers and at whatever addresses. -/
structure Coincide (service otherService : Service) (operation other : Operation)
    (request otherRequest : Request) : Prop where
  permission : operation.permission = other.permission
  endpoint : operation.endpoint = other.endpoint
  path : request.path = otherRequest.path
  header : request.header? "bfx-nonce" = otherRequest.header? "bfx-nonce"
  nonce : service.source.issue.1 = otherService.source.issue.1
  body : request.body = otherRequest.body
  draft : operation.draft = other.draft
  arguments : operation.Agrees other

/-- Composed drafts of two operations with the same signed bytes coincide. The message falls
apart in one way, and the body reads back as the fields of the operation. -/
theorem coincide_of_signedBytes {service otherService : Service} {operation other : Operation}
    {key secret otherKey otherSecret : String} {draft otherDraft : Draft}
    (drafted : operation.draft = .ok draft) (otherDrafted : other.draft = .ok otherDraft)
    (same : (service.composed key secret draft).signedBytes =
      (otherService.composed otherKey otherSecret otherDraft).signedBytes) :
    Coincide service otherService operation other (service.composed key secret draft)
      (otherService.composed otherKey otherSecret otherDraft) := by
  obtain ⟨declared, declares, rfl⟩ := draft_ok drafted
  obtain ⟨otherDeclared, otherDeclares, rfl⟩ := draft_ok otherDrafted
  simp only [Service.composed, Signing.compose_signedBytes] at same
  obtain ⟨permissions, endpoints, nonces, bodies⟩ :=
    message_unique (Signing.bytes_injective same)
  have fields : operation.bodyFields = other.bodyFields := by
    have read := (body_exact declares).read_compact
    rw [bodies, (body_exact otherDeclares).read_compact] at read
    exact (Value.object.inj (Except.ok.inj read)).symm
  refine ⟨permissions, endpoints, ?_, ?_, nonces, bodies, ?_,
    agrees_of_bodyFields permissions endpoints fields⟩
  · exact congrArg₂ signedPath permissions endpoints
  · simp only [Service.composed, Signing.compose_nonce, nonces]
  · rw [drafted, otherDrafted, permissions, endpoints, fields]

/-- Requests of two operations whose signed bytes are equal, under whatever signers and
at whatever addresses they were made, have one permission and endpoint, one nonce and one
body, and were made by one operation with the same arguments. So were requests with one
signature under one secret, unless their signed bytes are a collision of the digest. -/
theorem signed_bytes_unambiguous (service otherService : Service) (operation other : Operation)
    (executor otherExecutor : Executor) {request otherRequest : Request}
    (sent : request ∈ (service.call operation executor).1.sent)
    (otherSent : otherRequest ∈ (otherService.call other otherExecutor).1.sent) :
    (request.signedBytes = otherRequest.signedBytes →
      Coincide service otherService operation other request otherRequest) ∧
    ∀ secret, service.signer.secret = some secret → otherService.signer.secret = some secret →
      request.header? "bfx-signature" = otherRequest.header? "bfx-signature" →
      Coincide service otherService operation other request otherRequest ∨
        Digest.Collide (Text.bytes secret) request.signedBytes otherRequest.signedBytes := by
  obtain ⟨key, secret, draft, _, hasSecret, drafted, rfl⟩ :=
    service.exists_of_mem_sent executor sent
  obtain ⟨otherKey, otherSecret, otherDraft, _, hasOther, otherDrafted, rfl⟩ :=
    otherService.exists_of_mem_sent otherExecutor otherSent
  refine ⟨coincide_of_signedBytes drafted otherDrafted, ?_⟩
  intro shared isSecret isOther signatures
  obtain rfl : secret = shared := Option.some.inj (hasSecret.symm.trans isSecret)
  obtain rfl : otherSecret = secret := Option.some.inj (hasOther.symm.trans isOther)
  exact (Signing.signedBytes_eq_or_collide (Signing.compose_signature ..)
    (Signing.compose_signature ..) signatures).imp_left
      (coincide_of_signedBytes drafted otherDrafted)

/-- A transfer of 1.50 and one of 1.5, made for two accounts with different base URLs
at one nonce, have one message. They are the same transfer. -/
theorem respelled_amount_agrees :
    ∃ request otherRequest,
      ((Service.start ⟨"https://api.bitfinex.com/v2/", some "key", some "secret"⟩
        ⟨.epoch, 41⟩).call
        (.transfer ⟨"exchange", "margin", "USD", "USD", ⟨false, 150, 2, by decide, by decide⟩⟩)
        fun _ => .error .transport).1.sent = [request] ∧
      ((Service.start ⟨"http://localhost/", some "other key", some "other secret"⟩
        ⟨.epoch, 41⟩).call
        (.transfer ⟨"exchange", "margin", "USD", "USD", ⟨false, 15, 1, by decide, by decide⟩⟩)
        fun _ => .error .transport).1.sent = [otherRequest] ∧
      request.signedBytes = otherRequest.signedBytes ∧
      (transfer ⟨"exchange", "margin", "USD", "USD", ⟨false, 150, 2, by decide, by decide⟩⟩).Agrees
        (transfer ⟨"exchange", "margin", "USD", "USD",
          ⟨false, 15, 1, by decide, by decide⟩⟩) := by
  have same (baseUrl key secret otherBaseUrl otherKey otherSecret : String) :
      (Signing.Signer.compose baseUrl key secret .write "transfer" (Instruction.object
        (Transfer.declaration ⟨"exchange", "margin", "USD", "USD",
          ⟨false, 150, 2, by decide, by decide⟩⟩)) 42).signedBytes =
      (Signing.Signer.compose otherBaseUrl otherKey otherSecret .write "transfer"
        (Instruction.object (Transfer.declaration ⟨"exchange", "margin", "USD", "USD",
          ⟨false, 15, 1, by decide, by decide⟩⟩)) 42).signedBytes := by
    rw [Signing.compose_signedBytes, Signing.compose_signedBytes]
    rfl
  refine ⟨_, _, rfl, rfl, same .., ?_⟩
  exact ((signed_bytes_unambiguous
    (Service.start ⟨"https://api.bitfinex.com/v2/", some "key", some "secret"⟩ ⟨.epoch, 41⟩)
    (Service.start ⟨"http://localhost/", some "other key", some "other secret"⟩ ⟨.epoch, 41⟩)
    (.transfer ⟨"exchange", "margin", "USD", "USD", ⟨false, 150, 2, by decide, by decide⟩⟩)
    (.transfer ⟨"exchange", "margin", "USD", "USD", ⟨false, 15, 1, by decide, by decide⟩⟩)
    (fun _ => .error .transport) (fun _ => .error .transport) (List.mem_singleton_self _)
    (List.mem_singleton_self _)).1 (same ..)).arguments

end Operation

end ExchangeWallet
