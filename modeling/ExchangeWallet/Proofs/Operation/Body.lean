import ExchangeWallet.Proofs.Json.RoundTrip
import ExchangeWallet.Proofs.Service.Call
/-!
# Bodies on the wire

What an operation sends is settled by a table: which keys its body has, in which
order, and what stands under each. The text that is signed and sent denotes an object
with just these fields, whatever the arguments are, and so does the text of the
fields in the order of their declaration. An argument reaches the value under its own
key and nothing else; a quote or a brace in it stays inside its string.

Keys are ordered by their bytes. The order of texts by their code points agrees with
it on the keys in use, which is checked on the table.
-/
namespace ExchangeWallet

open Json (Exact Fields Value)
open Signing (Permission Request)

namespace Operation

/-- A limit of movements, if one is given, is not above the most that may be asked for. -/
def IsWithinLimit : Operation → Prop
  | movements _ _ (some count) => count.toNat ≤ maxMovements
  | _ => True

/-- The permission that an operation needs. -/
def permission : Operation → Permission
  | wallets | movements _ _ _ => .read
  | _ => .write

/-- The endpoint that an operation is sent to. -/
def endpoint : Operation → String
  | wallets => "wallets"
  | transfer _ => "transfer"
  | depositAddress _ _ | createDepositAddress _ _ => "deposit/address"
  | withdraw _ => "withdraw"
  | movements _ _ _ => "movements/hist"

/-- The fields of an operation in the order of their declaration. -/
def declaration : Operation → Except WalletError Instruction.Declaration
  | wallets => .ok []
  | transfer instruction => .ok instruction.declaration
  | depositAddress wallet method => .ok (DepositAddress.declaration ⟨wallet, method, 0⟩)
  | createDepositAddress wallet method => .ok (DepositAddress.declaration ⟨wallet, method, 1⟩)
  | withdraw instruction => .ok instruction.declaration
  | movements start stop limit =>
    (MovementQuery.ofBounds start stop limit).map MovementQuery.declaration

/-- The keys that the body of an operation can have, in ascending order. -/
def keys : Operation → List String
  | wallets => []
  | transfer _ => ["amount", "currency", "currency_to", "from", "to"]
  | depositAddress _ _ | createDepositAddress _ _ => ["method", "op_renew", "wallet"]
  | withdraw _ => ["address", "amount", "method", "payment_id", "wallet"]
  | movements _ _ _ => ["end", "limit", "start"]

/-- The field of a value that is given, and no field otherwise. -/
def given (key : String) (value : Option Value) : Fields :=
  (value.map fun value => (key, value)).toList

/-- The fields that the body of an operation has to have, in the order of their keys. -/
def bodyFields : Operation → Fields
  | wallets => []
  | transfer instruction =>
    [("amount", .string (toString instruction.amount.normalize)),
      ("currency", .string instruction.currency),
      ("currency_to", .string instruction.targetCurrency),
      ("from", .string instruction.source), ("to", .string instruction.target)]
  | depositAddress wallet method =>
    [("method", .string method), ("op_renew", .number (.whole 0 (by decide))),
      ("wallet", .string wallet)]
  | createDepositAddress wallet method =>
    [("method", .string method), ("op_renew", .number (.whole 1 (by decide))),
      ("wallet", .string wallet)]
  | withdraw instruction =>
    [("address", .string instruction.address),
      ("amount", .string (toString instruction.amount.normalize)),
      ("method", .string instruction.method)] ++
    given "payment_id" (instruction.paymentId.map .string) ++
    [("wallet", .string instruction.wallet)]
  | movements start stop limit =>
    given "end" (stop.map fun time => .number (.ofInt64 time)) ++
    given "limit" (limit.map fun count => .number (.ofUInt64 count.toUInt64)) ++
    given "start" (start.map fun time => .number (.ofInt64 time))

/-- The keys of the table ascend, by their bytes and by their code points. -/
theorem keys_ascending (operation : Operation) :
    operation.keys.Pairwise (fun first second => Text.bytes first < Text.bytes second) ∧
      operation.keys.Pairwise (· < ·) := by
  cases operation <;> simp only [keys] <;> decide

/-- An optional field has its own key or none. -/
theorem given_keys (key : String) (value : Option Value) :
    ((given key value).map Prod.fst).Sublist [key] := by
  cases value <;> simp [given]

/-- The fields of a body have keys of the table, in its order. -/
theorem bodyFields_keys (operation : Operation) :
    (operation.bodyFields.map Prod.fst).Sublist operation.keys := by
  cases operation with
  | withdraw instruction =>
    simp only [bodyFields, List.map_append]
    exact ((List.Sublist.refl _).append (given_keys _ _)).append (List.Sublist.refl _)
  | movements start stop limit =>
    simp only [bodyFields, List.map_append]
    exact ((given_keys _ _).append (given_keys _ _)).append (given_keys _ _)
  | _ => exact List.Sublist.refl _

/-- The fields of a body ascend by the bytes of their keys. -/
theorem bodyFields_ascending (operation : Operation) :
    operation.bodyFields.Pairwise fun first second =>
      Text.bytes first.1 < Text.bytes second.1 := by
  have ascending := operation.keys_ascending.1.sublist operation.bodyFields_keys
  rw [List.pairwise_map] at ascending
  exact ascending

/-- A question for movements keeps its bounds as they are given, or is refused for a
limit that is too high. There is no third way, and no limit is lowered. -/
theorem ofBounds_cases (start stop : Option Int64) (limit : Option UInt32) :
    (∃ query, MovementQuery.ofBounds start stop limit = .ok query ∧ query.start = start ∧
        query.stop = stop ∧ query.limit = limit) ∨
      (∃ count, limit = some count ∧ maxMovements < count.toNat ∧
        MovementQuery.ofBounds start stop limit = .error (.limitTooHigh count.toNat)) := by
  cases limit with
  | none => exact .inl ⟨_, rfl, rfl, rfl, rfl⟩
  | some count =>
    by_cases le : count.toNat ≤ maxMovements
    · exact .inl ⟨⟨start, stop, some count, by simpa using le⟩, dif_pos le, rfl, rfl, rfl⟩
    · exact .inr ⟨count, rfl, Nat.lt_of_not_le le, dif_neg le⟩

/-- Within the limit every operation declares fields. -/
theorem declaration_of_isWithinLimit {operation : Operation} (within : operation.IsWithinLimit) :
    ∃ declared, operation.declaration = .ok declared := by
  cases operation with
  | movements start stop limit =>
    rcases ofBounds_cases start stop limit with ⟨query, made, _⟩ | ⟨count, rfl, above, _⟩
    · exact ⟨query.declaration, by rw [declaration, made]; rfl⟩
    · exact absurd within (Nat.not_le_of_lt above)
  | _ => exact ⟨_, rfl⟩

/-- The draft of an operation is the object of its declared fields, sent to its
endpoint with its permission. -/
theorem draft_eq (operation : Operation) :
    operation.draft = operation.declaration.map fun declared =>
      ⟨operation.permission, operation.endpoint, Instruction.object declared⟩ := by
  cases operation with
  | movements start stop limit =>
    rw [draft, declaration]
    cases MovementQuery.ofBounds start stop limit <;> rfl
  | _ => rfl

/-- An optional field is exact if what it can hold is. -/
theorem optionalField_exact {α : Type} {depth : Nat} (key : String) (value : Option α)
    {toValue : α → Value} (exact : ∀ content, Exact depth (toValue content)) :
    ∀ field ∈ Instruction.optionalField key value toValue, Exact depth field.2 := by
  cases value with
  | none => simp [Instruction.optionalField]
  | some content => simpa [Instruction.optionalField] using exact content

/-- The declared values are strings and whole numbers. -/
theorem declaration_exact {operation : Operation} {declared : Instruction.Declaration}
    (declares : operation.declaration = .ok declared) (depth : Nat) :
    ∀ field ∈ declared, Exact depth field.2 := by
  have string (text : String) : Exact depth (.string text) := .string depth text
  have whole (time : Int64) : Exact depth (.number (.ofInt64 time)) := .whole depth _ _
  have word (count : UInt64) : Exact depth (.number (.ofUInt64 count)) := .whole depth _ _
  cases operation with
  | wallets =>
    cases declares
    simp
  | transfer instruction =>
    cases declares
    simp [Transfer.declaration, Instruction.amountValue, string]
  | depositAddress wallet method =>
    cases declares
    simp [DepositAddress.declaration, string, word]
  | createDepositAddress wallet method =>
    cases declares
    simp [DepositAddress.declaration, string, word]
  | withdraw instruction =>
    cases declares
    refine List.forall_mem_append.mpr ⟨?_, optionalField_exact _ _ string⟩
    simp [Instruction.amountValue, string]
  | movements start stop limit =>
    rcases ofBounds_cases start stop limit with ⟨query, made, _⟩ | ⟨_, _, _, refused⟩
    · rw [declaration, made] at declares
      cases declares
      refine List.forall_mem_append.mpr ⟨List.forall_mem_append.mpr ⟨?_, ?_⟩, ?_⟩
      · exact optionalField_exact _ _ whole
      · exact optionalField_exact _ _ whole
      · exact optionalField_exact _ _ fun count => word count.toUInt64
    · rw [declaration, refused] at declares
      cases declares

/-- Put in order, the declared fields are those of the table. -/
theorem ofList_declaration {operation : Operation} {declared : Instruction.Declaration}
    (declares : operation.declaration = .ok declared) :
    Fields.ofList declared = operation.bodyFields := by
  have single (key : String) (value : Value) : Fields.insert key value [] = [(key, value)] := rfl
  cases operation with
  | wallets =>
    cases declares
    rfl
  | transfer instruction =>
    cases declares
    simp (disch := decide) only [Transfer.declaration, Instruction.amountValue, Fields.ofList,
      List.foldl_cons, List.foldl_nil, single, Json.insert_before, Json.insert_behind, bodyFields]
  | depositAddress wallet method =>
    cases declares
    simp (disch := decide) only [DepositAddress.declaration, Fields.ofList, List.foldl_cons,
      List.foldl_nil, single, Json.insert_before, Json.insert_behind, bodyFields]
    rfl
  | createDepositAddress wallet method =>
    cases declares
    simp (disch := decide) only [DepositAddress.declaration, Fields.ofList, List.foldl_cons,
      List.foldl_nil, single, Json.insert_before, Json.insert_behind, bodyFields]
    rfl
  | withdraw instruction =>
    cases declares
    obtain ⟨wallet, method, amount, address, paymentId⟩ := instruction
    cases paymentId <;>
      simp (disch := decide) only [Withdrawal.declaration, Instruction.amountValue,
        Instruction.optionalField, Fields.ofList, List.cons_append, List.nil_append,
        List.foldl_cons, List.foldl_nil, single, Json.insert_before, Json.insert_behind,
        bodyFields, given, Option.map_none, Option.map_some, Option.toList_none,
        Option.toList_some]
  | movements start stop limit =>
    rcases ofBounds_cases start stop limit with ⟨query, made, rfl, rfl, rfl⟩ | ⟨_, _, _, refused⟩
    · rw [declaration, made] at declares
      cases declares
      cases hasStart : query.start <;> cases hasStop : query.stop <;>
        cases hasLimit : query.limit <;>
        simp (disch := decide) only [MovementQuery.declaration, Instruction.optionalField,
          hasStart, hasStop, hasLimit, Fields.ofList, List.cons_append, List.nil_append,
          List.append_nil, List.foldl_cons, List.foldl_nil, single, Json.insert_before,
          Json.insert_behind, bodyFields, given, Option.map_none, Option.map_some,
          Option.toList_none, Option.toList_some]
    · rw [declaration, refused] at declares
      cases declares

/-- A draft has the permission, the endpoint and the fields of the tables. -/
theorem draft_of_declaration {operation : Operation} {declared : Instruction.Declaration}
    (declares : operation.declaration = .ok declared) :
    operation.draft =
      .ok ⟨operation.permission, operation.endpoint, .object operation.bodyFields⟩ := by
  rw [draft_eq, declares]
  simp only [Except.map, Instruction.object, ofList_declaration declares]

/-- Within the limit every operation has the draft of the tables. -/
theorem draft_of_isWithinLimit {operation : Operation} (within : operation.IsWithinLimit) :
    operation.draft =
      .ok ⟨operation.permission, operation.endpoint, .object operation.bodyFields⟩ := by
  obtain ⟨declared, declares⟩ := declaration_of_isWithinLimit within
  exact draft_of_declaration declares

/-- A limit above the most that may be asked for has no draft. -/
theorem draft_of_limitTooHigh (start stop : Option Int64) {count : UInt32}
    (above : maxMovements < count.toNat) :
    (movements start stop (some count)).draft = .error (.limitTooHigh count.toNat) := by
  have refused : MovementQuery.ofBounds start stop (some count) =
      .error (.limitTooHigh count.toNat) := dif_neg (Nat.not_le_of_lt above)
  rw [draft, refused]
  rfl

/-- Beyond the limit an operation is refused. -/
theorem draft_of_not_isWithinLimit {operation : Operation} (beyond : ¬ operation.IsWithinLimit) :
    ∃ error, operation.draft = .error error := by
  cases operation with
  | movements start stop limit =>
    cases limit with
    | none => exact absurd trivial beyond
    | some count => exact ⟨_, draft_of_limitTooHigh start stop (Nat.lt_of_not_le beyond)⟩
  | _ => exact absurd trivial beyond

/-- An operation that has a draft declares its fields, and the draft has the permission,
the endpoint and the fields of the tables. -/
theorem draft_ok {operation : Operation} {draft : Draft} (drafted : operation.draft = .ok draft) :
    ∃ declared, operation.declaration = .ok declared ∧
      draft = ⟨operation.permission, operation.endpoint, .object operation.bodyFields⟩ := by
  cases declares : operation.declaration with
  | error error =>
    rw [draft_eq, declares] at drafted
    cases drafted
  | ok declared =>
    rw [draft_of_declaration declares] at drafted
    exact ⟨declared, rfl, (Except.ok.inj drafted).symm⟩

/-- The body of an operation is exact. -/
theorem body_exact {operation : Operation} {declared : Instruction.Declaration}
    (declares : operation.declaration = .ok declared) :
    Exact Json.maxDepth (.object operation.bodyFields) := by
  have ascending : Fields.Ascending operation.bodyFields := by
    have sorted := operation.keys_ascending.2.sublist operation.bodyFields_keys
    rw [List.pairwise_map] at sorted
    exact sorted
  refine .object (Json.maxDepth - 1) _ ascending ?_
  intro field member
  rw [← ofList_declaration declares] at member
  exact declaration_exact declares _ field (Json.mem_of_mem_ofList member)

/-- The body of a call that gets as far as being signed denotes its arguments. Its text
is what the signature is over, reads as one object with the fields of the table, and
has just these fields written in it, in the order of their keys. The declared fields
denote the same object without having been put in order. -/
theorem sent_body_denotes_arguments (service : Service) (operation : Operation)
    (executor : Executor) {key secret : String} (hasKey : service.signer.key = some key)
    (hasSecret : service.signer.secret = some secret) (within : operation.IsWithinLimit) :
    ∃ request declared,
      (service.call operation executor).1.sent = [request] ∧
      request.header? "bfx-signature" =
        some (Digest.hex (Digest.hmacSha384 (Text.bytes secret) request.signedBytes)) ∧
      Json.read request.body = .ok (.object operation.bodyFields) ∧
      Json.writtenFields? request.body = some operation.bodyFields ∧
      (operation.bodyFields.Pairwise fun first second =>
        Text.bytes first.1 < Text.bytes second.1) ∧
      operation.declaration = .ok declared ∧
      Json.read (Value.object declared).compact = .ok (.object operation.bodyFields) := by
  obtain ⟨declared, declares⟩ := declaration_of_isWithinLimit within
  have drafted := draft_of_declaration declares
  have sent := (service.sent_eq_singleton_iff executor operation _).mpr
    ⟨key, secret, _, hasKey, hasSecret, drafted, rfl⟩
  have body := body_exact declares
  have values : ∀ field ∈ operation.bodyFields, Exact (Json.maxDepth - 1) field.2 := by
    cases body with
    | object _ _ _ exact => exact exact
  have declaredObject := Json.read_compact_object declared (declaration_exact declares _)
  rw [ofList_declaration declares] at declaredObject
  exact ⟨_, declared, sent, Signing.compose_signature .., body.read_compact,
    Json.writtenFields_compact _ values, operation.bodyFields_ascending, declares, declaredObject⟩

/-- Quotes, backslashes, line ends and braces in the arguments of a withdrawal stay in
their strings, and the amount is sent without its last zero. -/
theorem quoted_arguments_stay_inside :
    ∃ request,
      ((Service.start (.ofParts "https://api.bitfinex.com/v2" (some "key") (some "secret"))
        ⟨.epoch, 0⟩).call (.withdraw ⟨"exchange\"\x7d", "bit\\coin",
          ⟨false, 150, 2, by decide, by decide⟩, "bc1\n", some "\x7b\"amount\":\"9\"\x7d"⟩)
        fun _ => .error .transport).1.sent = [request] ∧
      Json.read request.body = .ok (.object
        [("address", .string "bc1\n"), ("amount", .string "1.5"),
          ("method", .string "bit\\coin"), ("payment_id", .string "\x7b\"amount\":\"9\"\x7d"),
          ("wallet", .string "exchange\"\x7d")]) := by
  obtain ⟨request, _, sent, _, read, _⟩ := sent_body_denotes_arguments
    (Service.start (.ofParts "https://api.bitfinex.com/v2" (some "key") (some "secret"))
      ⟨.epoch, 0⟩)
    (.withdraw ⟨"exchange\"\x7d", "bit\\coin", ⟨false, 150, 2, by decide, by decide⟩, "bc1\n",
      some "\x7b\"amount\":\"9\"\x7d"⟩) (fun _ => .error .transport) rfl rfl trivial
  exact ⟨request, sent, read⟩

end Operation

end ExchangeWallet
