import ExchangeWallet.Proofs.Record.Layout
/-!
# Payloads of notifications

What stands in the info slot of a notification is read in one of five ways. Null is empty. An
array that is long enough for the type of the notification is read by columns, of which those
behind its end are blank. Everything else is kept as it was sent, so that nothing is lost, and
nothing that stands in the slot can refuse the notification.
-/
namespace ExchangeWallet.Record

open Json (Value)

/-- The columns of the info of a transfer. -/
def TransferInfo.columns : List (Column TransferInfo) :=
  [⟨0, .integer, updated⟩, ⟨1, .text, walletFrom⟩, ⟨2, .text, walletTo⟩, ⟨4, .text, currency⟩,
    ⟨5, .text, currencyTo⟩, ⟨7, .decimal, amount⟩]

/-- The columns of the info of a deposit address. -/
def DepositAddressInfo.columns : List (Column DepositAddressInfo) :=
  [⟨1, .text, method⟩, ⟨2, .text, currencyCode⟩, ⟨4, .text, address⟩, ⟨5, .text, poolAddress⟩]

/-- The columns of the info of a withdrawal. -/
def WithdrawalInfo.columns : List (Column WithdrawalInfo) :=
  [⟨0, .integer, id⟩, ⟨2, .text, method⟩, ⟨3, .text, paymentId⟩, ⟨4, .text, wallet⟩,
    ⟨5, .decimal, amount⟩, ⟨8, .decimal, fee⟩]

section Payload

variable {Item : Type}

/-- An info is read by its columns from every row of enough slots, and from no other row. -/
structure IsPayload (ofRow? : List Value → Option Item) (count : Nat)
    (columns : List (Column Item)) : Prop where
  short : ∀ row, row.length < count → ofRow? row = none
  long : ∀ row, count ≤ row.length → ∃ item, ofRow? row = some item ∧
    ∀ column ∈ columns, column.field item = column.reading.read (slot row column.position)
  complete : ∀ item other : Item,
    (∀ column ∈ columns, column.field item = column.field other) → item = other

/-- The laws of an info of one type, in a notification that is read from a row. -/
structure SelectsPayload (row : List Value) (notification : Notification) (type : String)
    (count : Nat) (wrap : Item → Info) (columns : List (Column Item)) : Prop where
  /-- It is taken exactly for its type, where the payload is an array of enough slots. -/
  selected_iff : (∃ item, notification.info = wrap item) ↔
    text (slot row 1) = type ∧ IsRow (count ≤ ·) (slot row 4)
  /-- The field of a column is what its slot of the payload is read to. -/
  field : ∀ item payload, notification.info = wrap item → slot row 4 = .array payload →
    ∀ column ∈ columns, column.field item = column.reading.read (slot payload column.position)
  /-- A field whose slot is behind the end of the payload is blank. -/
  missing : ∀ item payload, notification.info = wrap item → slot row 4 = .array payload →
    ∀ column ∈ columns, payload.length ≤ column.position →
      column.field item = column.reading.blank
  /-- What stands in other slots of the payload, and how many there are, does not matter. -/
  unread : ∀ item payload other, notification.info = wrap item → slot row 4 = .array payload →
    count ≤ other.length →
    (∀ column ∈ columns, slot other column.position = slot payload column.position) →
      Notification.ofValue (.array (row.set 4 (.array other))) = .ok notification

/-- A slot that a value is put into holds the value. -/
theorem slot_set_self {row : List Value} {position : Nat} (value : Value)
    (within : position < row.length) : slot (row.set position value) position = value := by
  rw [slot, List.getElem?_set_self within, Option.getD_some]

/-- Behind the end of a row every slot is null. -/
theorem slot_of_length_le {row : List Value} {position : Nat} (behind : row.length ≤ position) :
    slot row position = .null := by
  rw [slot, List.getElem?_eq_none behind, Option.getD_none]

variable {ofRow? : List Value → Option Item} {count : Nat} {columns : List (Column Item)}
  {type : String} {wrap : Item → Info}

/-- An info is read exactly if there are enough slots. -/
theorem IsPayload.exists_iff (payload : IsPayload ofRow? count columns) (row : List Value) :
    (∃ item, ofRow? row = some item) ↔ count ≤ row.length := by
  constructor
  · rintro ⟨item, read⟩
    by_contra fewer
    cases read.symm.trans (payload.short row (Nat.lt_of_not_le fewer))
  · intro enough
    obtain ⟨item, read, -⟩ := payload.long row enough
    exact ⟨item, read⟩

/-- The field of a column is what its slot is read to. -/
theorem IsPayload.field (payload : IsPayload ofRow? count columns) {row : List Value} {item : Item}
    (read : ofRow? row = some item) : ∀ column ∈ columns,
      column.field item = column.reading.read (slot row column.position) := by
  obtain ⟨same, readSame, field⟩ := payload.long row ((payload.exists_iff row).mp ⟨item, read⟩)
  obtain rfl := Option.some.inj (readSame.symm.trans read)
  exact field

/-- Rows of enough slots that agree in the columns are read alike. -/
theorem IsPayload.congr (payload : IsPayload ofRow? count columns) {row other : List Value}
    {item : Item} (read : ofRow? row = some item) (enough : count ≤ other.length)
    (agree : ∀ column ∈ columns, slot other column.position = slot row column.position) :
    ofRow? other = some item := by
  obtain ⟨same, readOther⟩ := (payload.exists_iff other).mpr enough
  rw [readOther]
  refine congrArg some (payload.complete same item ?_)
  intro column member
  rw [payload.field readOther column member, payload.field read column member, agree column member]

/-- An info that is taken for its type and read by columns obeys the laws. -/
theorem IsPayload.selects (payload : IsPayload ofRow? count columns)
    (taken : ∀ kind value item, Info.ofValue kind value = wrap item ↔
      kind = type ∧ ∃ items, value = .array items ∧ ofRow? items = some item)
    {row : List Value} (enough : 8 ≤ row.length) :
    SelectsPayload row (Notification.ofSlots row) type count wrap columns := by
  have info : (Notification.ofSlots row).info =
      Info.ofValue (text (slot row 1)) (slot row 4) := rfl
  have read {item : Item} {items : List Value} (made : (Notification.ofSlots row).info = wrap item)
      (holds : slot row 4 = .array items) : text (slot row 1) = type ∧ ofRow? items = some item := by
    obtain ⟨kind, others, same, found⟩ := (taken _ _ item).mp (info.symm.trans made)
    obtain rfl := Value.array.inj (holds.symm.trans same)
    exact ⟨kind, found⟩
  constructor
  · simp only [info, taken, IsRow, ← payload.exists_iff]
    constructor
    · rintro ⟨item, kind, items, holds, found⟩
      exact ⟨kind, items, holds, item, found⟩
    · rintro ⟨kind, items, holds, item, found⟩
      exact ⟨item, kind, items, holds, found⟩
  · intro item items made holds
    exact payload.field (read made holds).2
  · intro item items made holds column member behind
    rw [payload.field (read made holds).2 column member, slot_of_length_le behind]
    exact Reading.read_of_not_accepts column.reading.not_accepts_null
  · intro item items other made holds long agree
    obtain ⟨kind, found⟩ := read made holds
    have within : 4 < row.length := by omega
    have slots : 8 ≤ (row.set 4 (.array other)).length := by rwa [List.length_set]
    rw [Notification.ofValue_of_length slots]
    refine congrArg Except.ok (Notification.isLayout.complete _ _ ?_ ?_)
    · intro column member
      have elsewhere : ∀ column ∈ Notification.columns, column.position ≠ 4 := by decide
      rw [Notification.isLayout.field _ column member, Notification.isLayout.field _ column member,
        slot_set_ne _ (elsewhere column member)]
    · rw [made]
      refine (taken _ _ item).mpr
        ⟨?_, other, slot_set_self _ within, payload.congr found long agree⟩
      rwa [slot_set_ne _ (by decide)]

end Payload

/-- The info of a transfer is read from eight slots or more. -/
theorem TransferInfo.isPayload : IsPayload ofRow? 8 columns where
  short row fewer := if_pos fewer
  long row enough := by
    refine ⟨_, if_neg (Nat.not_lt_of_le enough), ?_⟩
    simp only [columns, List.forall_mem_cons]
    exact ⟨rfl, rfl, rfl, rfl, rfl, rfl, List.forall_mem_nil _⟩
  complete item other same := by
    cases item
    cases other
    simpa [columns] using same

/-- The info of a deposit address is read from five slots or more. -/
theorem DepositAddressInfo.isPayload : IsPayload ofRow? 5 columns where
  short row fewer := if_pos fewer
  long row enough := by
    refine ⟨_, if_neg (Nat.not_lt_of_le enough), ?_⟩
    simp only [columns, List.forall_mem_cons]
    exact ⟨rfl, rfl, rfl, rfl, List.forall_mem_nil _⟩
  complete item other same := by
    cases item
    cases other
    simpa [columns] using same

/-- The info of a withdrawal is read from six slots or more. -/
theorem WithdrawalInfo.isPayload : IsPayload ofRow? 6 columns where
  short row fewer := if_pos fewer
  long row enough := by
    refine ⟨_, if_neg (Nat.not_lt_of_le enough), ?_⟩
    simp only [columns, List.forall_mem_cons]
    exact ⟨rfl, rfl, rfl, rfl, rfl, rfl, List.forall_mem_nil _⟩
  complete item other same := by
    cases item
    cases other
    simpa [columns] using same

namespace Info

variable {kind : String} {row : List Value} {value : Value}

/-- A row is read to an info of its type, and of no other. -/
theorem ofRow?_eq_some_iff {info : Info} :
    ofRow? kind row = some info ↔
      (kind = "acc_tf" ∧ ∃ item, TransferInfo.ofRow? row = some item ∧ transfer item = info) ∨
      (kind = "acc_dep" ∧
        ∃ item, DepositAddressInfo.ofRow? row = some item ∧ depositAddress item = info) ∨
      (kind = "acc_wd-req" ∧
        ∃ item, WithdrawalInfo.ofRow? row = some item ∧ withdrawal item = info) := by
  rw [ofRow?]
  split
  · next isTransfer => simp [isTransfer]
  · split
    · next isDepositAddress => simp [isDepositAddress]
    · split
      · next isWithdrawal => simp [isWithdrawal]
      · simp_all

/-- A row is kept as it is exactly if it is not long enough for the type. -/
theorem ofRow?_eq_none_iff :
    ofRow? kind row = none ↔
      ¬(kind = "acc_tf" ∧ 8 ≤ row.length) ∧ ¬(kind = "acc_dep" ∧ 5 ≤ row.length) ∧
        ¬(kind = "acc_wd-req" ∧ 6 ≤ row.length) := by
  simp only [← TransferInfo.isPayload.exists_iff, ← DepositAddressInfo.isPayload.exists_iff,
    ← WithdrawalInfo.isPayload.exists_iff, Option.eq_none_iff_forall_ne_some, ne_eq,
    ofRow?_eq_some_iff]
  grind

/-- An info other than an empty one and one that is kept as it was sent is read from a row. -/
theorem ofValue_eq_iff {info : Info} (nonempty : info ≠ empty) (cooked : ∀ kept, info ≠ raw kept) :
    ofValue kind value = info ↔
      ∃ items, value = .array items ∧ ofRow? kind items = some info := by
  cases value with
  | null => simp [ofValue, nonempty.symm]
  | array items =>
    cases found : ofRow? kind items with
    | none => simp [ofValue, found, (cooked _).symm]
    | some other => simp [ofValue, found]
  | _ => simp [ofValue, (cooked _).symm]

/-- A value is kept as it was sent exactly if it is not null and no row that is read. -/
theorem ofValue_eq_raw_iff {kept : Value} :
    ofValue kind value = raw kept ↔
      kept = value ∧ value ≠ .null ∧ ∀ items, value = .array items → ofRow? kind items = none := by
  cases value with
  | array items =>
    cases found : ofRow? kind items with
    | none => simp [ofValue, found, eq_comm]
    | some info =>
      have cooked : info ≠ raw kept := by
        rintro rfl
        simp [ofRow?_eq_some_iff] at found
      simp [ofValue, found, cooked]
  | _ => simp [ofValue, eq_comm]

/-- Nothing but null is read as empty. -/
theorem ofValue_eq_empty_iff : ofValue kind value = empty ↔ value = .null := by
  cases value with
  | array items =>
    cases found : ofRow? kind items with
    | none => simp [ofValue, found]
    | some info =>
      have nonempty : info ≠ empty := by
        rintro rfl
        simp [ofRow?_eq_some_iff] at found
      simp [ofValue, found, nonempty]
  | _ => simp [ofValue]

end Info

/-- What an info slot holds is read in one way, whatever it holds. Null is empty; an array of
enough slots is read by the columns of its type; and any other value is kept. No payload can
refuse the notification. -/
theorem payload_selected {row : List Value} (enough : 8 ≤ row.length) :
    ∃ notification, Notification.ofValue (.array row) = .ok notification ∧
      (notification.info = .empty ↔ slot row 4 = .null) ∧
      SelectsPayload row notification "acc_tf" 8 .transfer TransferInfo.columns ∧
      SelectsPayload row notification "acc_dep" 5 .depositAddress DepositAddressInfo.columns ∧
      SelectsPayload row notification "acc_wd-req" 6 .withdrawal WithdrawalInfo.columns ∧
      (∀ kept, notification.info = .raw kept ↔
        kept = slot row 4 ∧ slot row 4 ≠ .null ∧
          ¬(text (slot row 1) = "acc_tf" ∧ IsRow (8 ≤ ·) (slot row 4)) ∧
          ¬(text (slot row 1) = "acc_dep" ∧ IsRow (5 ≤ ·) (slot row 4)) ∧
          ¬(text (slot row 1) = "acc_wd-req" ∧ IsRow (6 ≤ ·) (slot row 4))) ∧
      ∀ payload, ∃ other, Notification.ofValue (.array (row.set 4 payload)) = .ok other := by
  refine ⟨_, Notification.ofValue_of_length enough, Info.ofValue_eq_empty_iff, ?_, ?_, ?_, ?_, ?_⟩
  · apply TransferInfo.isPayload.selects _ enough
    intro kind value item
    simp [Info.ofValue_eq_iff, Info.ofRow?_eq_some_iff, and_left_comm]
  · apply DepositAddressInfo.isPayload.selects _ enough
    intro kind value item
    simp [Info.ofValue_eq_iff, Info.ofRow?_eq_some_iff, and_left_comm]
  · apply WithdrawalInfo.isPayload.selects _ enough
    intro kind value item
    simp [Info.ofValue_eq_iff, Info.ofRow?_eq_some_iff, and_left_comm]
  · intro kept
    change Info.ofValue _ _ = _ ↔ _
    simp only [Info.ofValue_eq_raw_iff, Info.ofRow?_eq_none_iff, IsRow]
    grind
  · intro payload
    exact ⟨_, Notification.ofValue_of_length (by rwa [List.length_set])⟩

/-- The info of a deposit address that ends with the address has no pool address. -/
theorem deposit_address_without_pool :
    let payload : List Value := [.null, .string "bitcoin", .string "BTC", .null, .string "bc1"]
    let row : List Value := [.null, .string "acc_dep", .null, .null, .array payload, .null,
      .string "SUCCESS", .string "done"]
    8 ≤ row.length ∧
      ∃ notification info, Notification.ofValue (.array row) = .ok notification ∧
        notification.info = .depositAddress info ∧ info.address = "bc1" ∧
        info.poolAddress = "" := by
  intro payload row
  have enough : 8 ≤ row.length := by decide
  obtain ⟨notification, read, -, -, deposit, -⟩ := payload_selected enough
  obtain ⟨info, selected⟩ := deposit.selected_iff.mpr ⟨rfl, payload, rfl, by decide⟩
  refine ⟨enough, notification, info, read, selected, ?_, ?_⟩
  · exact deposit.field info payload selected rfl ⟨4, .text, DepositAddressInfo.address⟩
      (by simp [DepositAddressInfo.columns])
  · exact deposit.missing info payload selected rfl ⟨5, .text, DepositAddressInfo.poolAddress⟩
      (by simp [DepositAddressInfo.columns]) (by decide)

end ExchangeWallet.Record
