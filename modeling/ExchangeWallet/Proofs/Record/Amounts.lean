import ExchangeWallet.Proofs.Json.NumberText
import ExchangeWallet.Proofs.Json.RoundTrip
import ExchangeWallet.Proofs.Operation.Body
import ExchangeWallet.Proofs.Record.Payloads
import ExchangeWallet.Proofs.Service.Classification
/-!
# Amounts as they are written

An amount in a slot is decoded from the shortest text of the number that was read, so that
what was written is kept where the number tells it apart: up to fifteen digits near the
point, and whole numbers of 64 bits. Of nineteen digits behind a point the last two are lost.
-/
namespace ExchangeWallet

open Json (Literal Number Spelling)

-- The powers are large, and nothing below asks for more than their signs.
attribute [local irreducible] Binary64.unitsPerOne Binary64.placesBelowOne

/-- A number is decoded as what it is printed as, if some decimal has that. -/
theorem Record.decimal_of_size (number : Number) (size : Decimal.IsSize |number.printed|) :
    (decimal (.number number)).value = number.printed := by
  obtain ⟨literal, text, value, normalized⟩ := number.exists_literal
  change (Decimal.ofText number.text).value = number.printed
  rw [← value] at size ⊢
  rw [← text]
  exact normalized.value_ofText size

section Written

variable {literal : Literal}

/-- What is written can be held in a decimal. -/
def Json.Literal.IsRepresentable (literal : Literal) : Prop :=
  ∃ decimal : Decimal, decimal.value = literal.value

/-- What is written can be held in a decimal exactly if some decimal has its size. -/
theorem Json.Literal.isRepresentable_iff (literal : Literal) :
    literal.IsRepresentable ↔ Decimal.IsSize |literal.value| := by
  constructor
  · rintro ⟨decimal, same⟩
    exact ⟨decimal, congrArg _ same⟩
  · rintro ⟨decimal, same⟩
    refine ⟨{ decimal with negative := literal.negative }, ?_⟩
    rw [literal.value_eq_abs, ← same, Decimal.abs_value]
    rfl

/-- Without fraction and exponent, few enough digits can be held. -/
theorem Json.Literal.IsPlain.isRepresentable (plain : literal.IsPlain)
    (fits : literal.coefficient < 2 ^ 96) : literal.IsRepresentable := by
  refine ⟨⟨literal.negative, literal.coefficient, 0, fits, by decide⟩, ?_⟩
  rw [plain.value_eq, Decimal.value, pow_zero, div_one]

/-- A floating number that covers what is written, with few digits near the point, is printed as
just that: it has it for its shortest decimal. -/
theorem Json.Literal.IsShort.printed_eq (short : literal.IsShort) {real : Binary64}
    (sign : real.negative = literal.negative)
    (covers : real.Covers (literal.coefficient * 10 ^ literal.power)) :
    (Number.real real).printed = literal.value := by
  by_cases zero : literal.coefficient = 0
  · rw [zero, Nat.cast_zero, zero_mul] at covers
    rw [Number.printed, if_pos (Binary64.units_of_covers_zero covers), Literal.value, zero]
    simp
  · have digits : (1 : ℚ) ≤ literal.coefficient := by
      exact_mod_cast Nat.one_le_iff_ne_zero.mpr zero
    have place : (1 : ℚ) ≤ 10 ^ 30 * 10 ^ literal.power := by
      have near := short.near
      rw [← zpow_natCast 10 30, ← zpow_add₀ (by norm_num)]
      exact one_le_zpow₀ (by norm_num) (by omega)
    have large : 1 ≤ 10 ^ 30 * ((literal.coefficient : ℚ) * 10 ^ literal.power) := by
      rw [mul_left_comm]
      exact one_le_mul_of_one_le_of_one_le digits place
    have normal := Binary64.normal_of_covers covers large
    have nonzero : real.units ≠ 0 := by
      rw [Binary64.units]
      exact Nat.mul_ne_zero (by omega) (Nat.two_pow_pos _).ne'
    rw [Number.printed, if_neg nonzero, Binary64.value_shortest normal short.digits covers, sign,
      Literal.value]

/-- What is written is kept: a word, or few digits near the point that a decimal can hold. -/
def Json.Literal.IsKept (literal : Literal) : Prop :=
  literal.IsWord ∨ literal.IsShort ∧ literal.IsRepresentable

/-- A number that stands for what is written is printed as that. -/
theorem Json.Literal.IsMet.printed_eq {number : Number} (met : literal.IsMet number) :
    number.printed = literal.value := by
  cases number with
  | whole value inRange => exact met
  | real real =>
    obtain ⟨short, sign, covers⟩ := met
    exact short.printed_eq sign covers

/-- A number that stands for what is written is decoded to it. -/
theorem Record.decimal_of_met {number : Number} (met : literal.IsMet number)
    (representable : literal.IsRepresentable) :
    (decimal (.number number)).value = literal.value := by
  rw [literal.isRepresentable_iff, ← met.printed_eq] at representable
  rw [decimal_of_size number representable, met.printed_eq]

/-- A written number that is kept is read, and decoded as it is written. -/
theorem Record.decimal_of_kept (kept : literal.IsKept) :
    ∃ number, literal.number? = some number ∧ (decimal (.number number)).value = literal.value := by
  have word (isWord : literal.IsWord) : ∃ number, literal.number? = some number ∧
      (decimal (.number number)).value = literal.value := by
    obtain ⟨number, made, met⟩ := isWord.met
    exact ⟨number, made,
      decimal_of_met met (isWord.plain.isRepresentable (isWord.coefficient_lt.trans (by decide)))⟩
  rcases kept with isWord | ⟨short, representable⟩
  · exact word isWord
  · by_cases plain : literal.IsPlain
    · exact word (short.isWord plain)
    · obtain ⟨number, made, met⟩ := short.met plain
      exact ⟨number, made, decimal_of_met met representable⟩

variable {depth : Nat}

/-- A slot in which a number is written that is kept is decoded as it is written. -/
theorem Record.decimal_of_spelling {spelling : Spelling depth}
    (written : spelling.text = literal.text) (kept : literal.IsKept) :
    (decimal spelling.value).value = literal.value := by
  obtain ⟨number, made, value⟩ := decimal_of_kept kept
  have spells := spelling.spells
  rw [written] at spells
  rw [spells.unique (literal.spells depth made), value]

end Written

section Rows

variable {depth : Nat}

/-- An amount is the one that is written in a slot of a row, if that is a number which is
kept. -/
def KeepsAmount (row : List (Spelling depth)) (position : Nat) (amount : Decimal) : Prop :=
  ∀ spelling literal, row[position]? = some spelling → spelling.text = Literal.text literal →
    literal.IsKept → amount.value = literal.value

/-- Decoding a slot keeps its amount. -/
theorem keepsAmount_decimal (row : List (Spelling depth)) (position : Nat) :
    KeepsAmount row position (Record.decimal (Record.slot (row.map Spelling.value) position)) := by
  intro spelling literal present written kept
  have slot : Record.slot (row.map Spelling.value) position = spelling.value := by
    rw [Record.slot, List.getElem?_map, present]
    rfl
  rw [slot, Record.decimal_of_spelling written kept]

/-- The text of a list of rows whose slots are spelled in some way. -/
def Json.Spelling.rows (rows : List (List (Spelling depth))) : Spelling (depth + 1 + 1) :=
  Spelling.array (rows.map Spelling.array)

/-- The values of the slots, row by row. -/
theorem Json.Spelling.rows_value (rows : List (List (Spelling depth))) :
    (Spelling.rows rows).value =
      .array (rows.map fun row => .array (row.map Spelling.value)) := by
  change Json.Value.array ((rows.map Spelling.array).map Spelling.value) = _
  rw [List.map_map]
  rfl

/-- The amounts of a wallet are those written in its row. -/
structure WalletKeeps (row : List (Spelling depth)) (wallet : Record.Wallet) : Prop where
  balance : KeepsAmount row 2 wallet.balance
  unsettledInterest : KeepsAmount row 3 wallet.unsettledInterest
  balanceAvailable : KeepsAmount row 4 wallet.balanceAvailable

/-- The amounts of a movement are those written in its row. -/
structure MovementKeeps (row : List (Spelling depth)) (movement : Record.Movement) : Prop where
  amount : KeepsAmount row 12 movement.amount
  fees : KeepsAmount row 13 movement.fees

variable {status : Nat} {rows : List (List (Spelling 125))}

/-- Rows that are long enough make a snapshot, one wallet each. -/
theorem wallets_of_rows (success : 200 ≤ status ∧ status ≤ 299)
    (enough : ∀ row ∈ rows, 5 ≤ row.length) :
    let reply : Reply := ⟨status, String.ofList (Spelling.rows rows).text⟩
    reply.payload >>= Operation.wallets.decode =
      .ok (.snapshot ⟨rows.map fun row => .ofSlots (row.map Spelling.value)⟩) := by
  intro reply
  have read : Json.read reply.text = .ok (Spelling.rows rows).value :=
    (Spelling.rows rows).read_text
  have made : Record.Snapshot.ofValue (Spelling.rows rows).value =
      .ok ⟨rows.map fun row => .ofSlots (row.map Spelling.value)⟩ := by
    rw [Record.snapshot_eq_ok_iff, Spelling.rows_value]
    refine ⟨_, rfl, ?_⟩
    rw [List.forall₂_map_left_iff, List.forall₂_map_right_iff, List.forall₂_same]
    intro row member
    apply Record.Wallet.ofRow_of_length
    rw [List.length_map]
    exact enough row member
  rw [result_of_success _ (not_statesError_of_rows read (.inl ⟨_, made⟩)) success, read]
  change ((Record.Snapshot.ofValue (Spelling.rows rows).value).map _).mapError _ = _
  rw [made]
  rfl

/-- Rows of the right length make a history, one movement each. -/
theorem movements_of_rows (success : 200 ≤ status ∧ status ≤ 299)
    (exactly : ∀ row ∈ rows, row.length = 22) (start stop : Option Int64)
    (limit : Option UInt32) :
    let reply : Reply := ⟨status, String.ofList (Spelling.rows rows).text⟩
    reply.payload >>= (Operation.movements start stop limit).decode =
      .ok (.history (rows.map fun row => .ofSlots (row.map Spelling.value))) := by
  intro reply
  have read : Json.read reply.text = .ok (Spelling.rows rows).value :=
    (Spelling.rows rows).read_text
  have made : Record.Movement.historyOfValue (Spelling.rows rows).value =
      .ok (rows.map fun row => .ofSlots (row.map Spelling.value)) := by
    rw [Record.history_eq_ok_iff, Spelling.rows_value]
    refine ⟨_, rfl, ?_⟩
    rw [List.forall₂_map_left_iff, List.forall₂_map_right_iff, List.forall₂_same]
    intro row member
    apply Record.Movement.ofRow_of_length
    rw [List.length_map]
    exact exactly row member
  rw [result_of_success _ (not_statesError_of_rows read (.inr ⟨_, made⟩)) success, read]
  change ((Record.Movement.historyOfValue (Spelling.rows rows).value).map _).mapError _ = _
  rw [made]
  rfl

end Rows

section Notifications

/-- A row notifies of something by its type and by the slots of its info. -/
structure Notifies (row : List (Spelling 126)) (type : String) (info : List (Spelling 125)) :
    Prop where
  enough : 8 ≤ row.length
  /-- It states no error of the exchange. -/
  noError : ∀ spelling ∈ row.head?, spelling.value ≠ .string "error"
  type : ∃ spelling, row[1]? = some spelling ∧ spelling.value = .string type
  info : row[4]? = some (Spelling.array info)

variable {status : Nat} {row : List (Spelling 126)} {type : String}
  {info : List (Spelling 125)}

/-- A row that notifies of something makes a notification with the info of its type. -/
theorem Notifies.notification (notifies : Notifies row type info)
    (success : 200 ≤ status ∧ status ≤ 299) {operation : Operation}
    (writes : operation.permission = .write) :
    let reply : Reply := ⟨status, String.ofList (Spelling.array row).text⟩
    ∃ notification : Record.Notification,
      reply.payload >>= operation.decode = .ok (.notification notification) ∧
      notification.info = Record.Info.ofValue type (.array (info.map Spelling.value)) := by
  intro reply
  let slots := row.map Spelling.value
  have read : Json.read reply.text = .ok (.array slots) := (Spelling.array row).read_text
  have other (stated : List Json.Value) : ¬ reply.StatesError stated := by
    rintro ⟨readStated, opens⟩
    obtain rfl := Json.Value.array.inj (Except.ok.inj (read.symm.trans readStated))
    rw [List.head?_map, Option.map_eq_some_iff] at opens
    obtain ⟨spelling, first, isError⟩ := opens
    exact notifies.noError spelling first isError
  have made : Record.Notification.ofValue (.array slots) = .ok (.ofSlots slots) := by
    apply Record.Notification.ofValue_of_length
    rw [List.length_map]
    exact notifies.enough
  have record : operation.record (.array slots) = .ok (.notification (.ofSlots slots)) := by
    cases operation with
    | wallets | movements => cases writes
    | _ => exact congrArg (Except.map Answer.notification) made
  refine ⟨.ofSlots slots, ?_, ?_⟩
  · rw [result_of_success _ other success, read]
    change (operation.record (.array slots)).mapError WalletError.decode = _
    rw [record]
    rfl
  · obtain ⟨spelling, second, isType⟩ := notifies.type
    have kind : Record.slot slots 1 = .string type := by
      rw [Record.slot, List.getElem?_map, second]
      exact isType
    have holds : Record.slot slots 4 = .array (info.map Spelling.value) := by
      rw [Record.slot, List.getElem?_map, notifies.info]
      rfl
    change Record.Info.ofValue (Record.text (Record.slot slots 1)) (Record.slot slots 4) = _
    rw [kind, holds]
    rfl

end Notifications

/-- The amounts of a reply arrive as they are written, for each slot in which a number is
written that is kept: up to fifteen digits near the point, or a word of 64 bits. The rows may
be spelled in any way, and what stands in their other slots does not matter. So it is for
wallets and movements, and for the transfers and withdrawals that a reply notifies of. -/
theorem written_amounts_arrive {status : Nat} (success : 200 ≤ status ∧ status ≤ 299) :
    (∀ rows : List (List (Spelling 125)),
      let reply : Reply := ⟨status, String.ofList (Spelling.rows rows).text⟩
      ((∀ row ∈ rows, 5 ≤ row.length) →
        ∃ snapshot, reply.payload >>= Operation.wallets.decode = .ok (.snapshot snapshot) ∧
          List.Forall₂ WalletKeeps rows snapshot.wallets) ∧
      ((∀ row ∈ rows, row.length = 22) → ∀ start stop limit,
        ∃ movements, reply.payload >>= (Operation.movements start stop limit).decode =
            .ok (.history movements) ∧
          List.Forall₂ MovementKeeps rows movements)) ∧
    ∀ (row : List (Spelling 126)) (info : List (Spelling 125)) (operation : Operation),
      operation.permission = .write →
      let reply : Reply := ⟨status, String.ofList (Spelling.array row).text⟩
      (Notifies row "acc_tf" info → 8 ≤ info.length →
        ∃ notification transfer,
          reply.payload >>= operation.decode = .ok (.notification notification) ∧
          notification.info = .transfer transfer ∧ KeepsAmount info 7 transfer.amount) ∧
      (Notifies row "acc_wd-req" info → 6 ≤ info.length →
        ∃ notification withdrawal,
          reply.payload >>= operation.decode = .ok (.notification notification) ∧
          notification.info = .withdrawal withdrawal ∧ KeepsAmount info 5 withdrawal.amount ∧
          KeepsAmount info 8 withdrawal.fee) := by
  constructor
  · intro rows reply
    constructor
    · intro enough
      refine ⟨_, wallets_of_rows success enough, ?_⟩
      rw [List.forall₂_map_right_iff, List.forall₂_same]
      intro row _
      exact ⟨keepsAmount_decimal row 2, keepsAmount_decimal row 3, keepsAmount_decimal row 4⟩
    · intro exactly start stop limit
      refine ⟨_, movements_of_rows success exactly start stop limit, ?_⟩
      rw [List.forall₂_map_right_iff, List.forall₂_same]
      intro row _
      exact ⟨keepsAmount_decimal row 12, keepsAmount_decimal row 13⟩
  · intro row info operation writes reply
    constructor
    · intro notifies enough
      obtain ⟨notification, decoded, holds⟩ := notifies.notification success writes
      obtain ⟨transfer, read, field⟩ :=
        Record.TransferInfo.isPayload.long (info.map Spelling.value) (by rwa [List.length_map])
      have amount : transfer.amount = Record.decimal (Record.slot (info.map Spelling.value) 7) :=
        field ⟨7, .decimal, Record.TransferInfo.amount⟩ (by simp [Record.TransferInfo.columns])
      refine ⟨notification, transfer, decoded, ?_, amount ▸ keepsAmount_decimal info 7⟩
      rw [holds, Record.Info.ofValue, Record.Info.ofRow?, if_pos rfl, read]
      rfl
    · intro notifies enough
      obtain ⟨notification, decoded, holds⟩ := notifies.notification success writes
      obtain ⟨withdrawal, read, field⟩ :=
        Record.WithdrawalInfo.isPayload.long (info.map Spelling.value) (by rwa [List.length_map])
      have amount : withdrawal.amount = Record.decimal (Record.slot (info.map Spelling.value) 5) :=
        field ⟨5, .decimal, Record.WithdrawalInfo.amount⟩ (by simp [Record.WithdrawalInfo.columns])
      have fee : withdrawal.fee = Record.decimal (Record.slot (info.map Spelling.value) 8) :=
        field ⟨8, .decimal, Record.WithdrawalInfo.fee⟩ (by simp [Record.WithdrawalInfo.columns])
      refine ⟨notification, withdrawal, decoded, ?_, amount ▸ keepsAmount_decimal info 5,
        fee ▸ keepsAmount_decimal info 8⟩
      rw [holds, Record.Info.ofValue, Record.Info.ofRow?, if_neg (by decide), if_neg (by decide),
        if_pos rfl, read]
      rfl

/-- The row of a wallet with a balance, and with one spelling for its other amounts. -/
def etherRow (balance other : Spelling 125) : List (Spelling 125) :=
  [⟨_, _, Json.string_readsBack 125 "exchange"⟩, ⟨_, _, Json.string_readsBack 125 "ETH"⟩,
    balance, other, other]

/-- A tenth, which no floating number is, arrives as a tenth. -/
theorem tenth_arrives :
    let reply : Reply := ⟨200, "[[\"exchange\",\"ETH\",0.1,0,0]]"⟩
    ∃ snapshot, reply.payload >>= Operation.wallets.decode = .ok (.snapshot snapshot) ∧
      ∃ wallet ∈ snapshot.wallets, wallet.balance.value = 1 / 10 := by
  intro reply
  let tenth : Literal := ⟨false, ['0'], ['1'], none, by decide, by simp, by decide⟩
  have value : tenth.value = 1 / 10 := by
    have digits : tenth.coefficient = 1 := by decide
    have power : tenth.power = -1 := by decide
    rw [Literal.value, digits, power]
    norm_num [tenth]
  have kept : tenth.IsKept := by
    refine .inr ⟨⟨by decide, by decide, by simp [tenth]⟩, ⟨false, 1, 1, by decide, by decide⟩, ?_⟩
    rw [value, Decimal.value]
    norm_num
  obtain ⟨number, made, _⟩ := Record.decimal_of_kept kept
  let zero : Spelling 125 := ⟨_, _, Json.whole_readsBack 125 0 (by decide)⟩
  obtain ⟨snapshot, decoded, keeps⟩ :=
    ((written_amounts_arrive (show 200 ≤ 200 ∧ 200 ≤ 299 by decide)).1
      [etherRow ⟨tenth.text, _, tenth.spells 125 made⟩ zero]).1 (by simp [etherRow])
  refine ⟨snapshot, decoded, ?_⟩
  obtain ⟨wallet, others, keepsWallet, _, same⟩ := List.forall₂_cons_left_iff.mp keeps
  refine ⟨wallet, by rw [same]; exact List.mem_cons_self, ?_⟩
  rw [keepsWallet.balance _ tenth rfl rfl kept, value]

/-- Not every amount arrives as it is written. The nineteen digits of this balance fit a
decimal, and the last two of them are lost. -/
theorem not_every_amount_kept :
    let reply : Reply := ⟨200, "[[\"exchange\",\"ETH\",1.234567890123456789,0,0]]"⟩
    (∃ decimal : Decimal, decimal.value = 1234567890123456789 / 10 ^ 18) ∧
      ∃ wallet : Record.Wallet,
        reply.payload >>= Operation.wallets.decode = .ok (.snapshot ⟨[wallet]⟩) ∧
        wallet.balance.value = 12345678901234567 / 10 ^ 16 ∧
        wallet.balance.value ≠ 1234567890123456789 / 10 ^ 18 := by
  intro reply
  let written : Literal :=
    ⟨false, ['1'], "234567890123456789".toList, none, by decide, by simp, by decide⟩
  have digits : written.coefficient = 1234567890123456789 := by decide
  have power : written.power = -18 := by decide
  have read : written.number? = (Binary64.scaled? false 1234567890123456789 (-18)).map .real := by
    rw [Literal.number?_of_point (by rw [digits]; decide) (by simp [Literal.IsPlain, written])
      (by simp [written]), digits, power]
  have shown : (Binary64.scaled? false 1234567890123456789 (-18)).map
      (fun real => Record.decimal (.number (.real real))) =
        some ⟨false, 12345678901234567, 16, by decide, by decide⟩ := by
    decide +kernel
  obtain ⟨real, scaled, decoded⟩ := Option.map_eq_some_iff.mp shown
  rw [scaled] at read
  let zero : Spelling 125 := ⟨_, _, Json.whole_readsBack 125 0 (by decide)⟩
  let row := etherRow ⟨written.text, _, written.spells 125 read⟩ zero
  have text : reply.text = String.ofList (Spelling.rows [row]).text := rfl
  have same : reply = ⟨200, String.ofList (Spelling.rows [row]).text⟩ :=
    congrArg (Reply.mk 200) text
  have enough : ∀ slots ∈ [row], 5 ≤ slots.length := by simp [row, etherRow]
  have arrives := wallets_of_rows (show 200 ≤ 200 ∧ 200 ≤ 299 by decide) enough
  have balance : (Record.Wallet.ofSlots (row.map Spelling.value)).balance.value =
      12345678901234567 / 10 ^ 16 := by
    change (Record.decimal (.number (.real real))).value = _
    rw [decoded, Decimal.value]
    norm_num
  refine ⟨⟨⟨false, 1234567890123456789, 18, by decide, by decide⟩, ?_⟩, _, same ▸ arrives,
    balance, ?_⟩
  · rw [Decimal.value]
    norm_num
  · rw [balance]
    norm_num

end ExchangeWallet
