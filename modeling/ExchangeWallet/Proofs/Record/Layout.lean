import ExchangeWallet.Proofs.Record.Rows
/-!
# Layouts of rows

A record is described by its columns: where a field stands in the row, and how its slot is read.
A column has no way to see another slot, so that a value put into one slot changes the field
that stands there and no other. What is read of several slots is the rest of a record.

Only the number of slots can refuse a row. A slot with a value that its column has no use for
leaves the field blank.
-/
namespace ExchangeWallet.Record

open Json (Value)

/-- The ways to read a slot by itself. -/
inductive Reading where
  | integer
  | decimal
  | text
  | fields
deriving DecidableEq

namespace Reading

/-- What a slot is read to. -/
@[reducible]
def Result : Reading → Type
  | integer => Int
  | decimal => Decimal
  | text => String
  | fields => Json.Fields

/-- Reads a slot. -/
def read : (reading : Reading) → Value → reading.Result
  | integer => Record.integer
  | decimal => Record.decimal
  | text => Record.text
  | fields => Record.fields

/-- What a slot is read to that has nothing for the reading. -/
def blank : (reading : Reading) → reading.Result
  | integer => 0
  | decimal => Decimal.zero
  | text => ""
  | fields => []

/-- A text denotes a decimal, with an exponent or without one. -/
def DenotesDecimal (text : List Char) : Prop :=
  Decimal.read? text ≠ none ∨ Decimal.readScientific? text ≠ none

/-- The values that a reading has a use for: numbers and numerals for an integer, what denotes
a decimal for a decimal, strings for a text, and objects for fields. -/
def Accepts : Reading → Value → Prop
  | integer, .number _ => True
  | integer, .string numeral => Numeral.int64? numeral.toList ≠ none
  | decimal, .number number => DenotesDecimal number.text
  | decimal, .string numeral => DenotesDecimal numeral.toList
  | text, .string _ => True
  | fields, .object _ => True
  | _, _ => False

/-- No reading has a use for null. -/
theorem not_accepts_null (reading : Reading) : ¬reading.Accepts .null := by
  cases reading <;> exact not_false

/-- What denotes no decimal is taken for zero. -/
theorem ofText_of_not_denotes {text : List Char} (other : ¬DenotesDecimal text) :
    Decimal.ofText text = Decimal.zero := by
  rw [DenotesDecimal, not_or, not_not, not_not] at other
  rw [Decimal.ofText, other.1, other.2]
  rfl

/-- A value that a reading has no use for is read as blank. -/
theorem read_of_not_accepts {reading : Reading} {value : Value}
    (other : ¬reading.Accepts value) : reading.read value = reading.blank := by
  cases reading with
  | integer =>
    cases value with
    | number => exact absurd trivial other
    | string text =>
      change (Numeral.int64? text.toList).getD 0 = 0
      rw [not_not.mp other]
      rfl
    | _ => rfl
  | decimal =>
    cases value with
    | number number => exact ofText_of_not_denotes other
    | string text => exact ofText_of_not_denotes other
    | _ => rfl
  | text =>
    cases value with
    | string => exact absurd trivial other
    | _ => rfl
  | fields =>
    cases value with
    | object => exact absurd trivial other
    | _ => rfl

end Reading

section Slot

variable {row more : List Value} {position : Nat}

/-- A value that is put into another slot is not seen. -/
theorem slot_set_ne {other : Nat} (value : Value) (different : position ≠ other) :
    slot (row.set other value) position = slot row position := by
  rw [slot, slot, List.getElem?_set_ne different.symm]

/-- What is appended to a row is not seen in its slots. -/
theorem slot_append (within : position < row.length) :
    slot (row ++ more) position = slot row position := by
  rw [slot, slot, List.getElem?_append_left within]

/-- Behind the end of a row, null is as good as nothing. -/
theorem slot_append_null (row : List Value) (count position : Nat) :
    slot (row ++ List.replicate count .null) position = slot row position := by
  rcases Nat.lt_or_ge position row.length with within | behind
  · exact slot_append within
  · rw [slot, slot, List.getElem?_append_right behind, List.getElem?_eq_none behind,
      List.getElem?_replicate]
    split <;> rfl

end Slot

/-- A field of a record with the slot that it is read from. -/
structure Column (Item : Type) where
  position : Nat
  reading : Reading
  field : Item → reading.Result

section Layout

variable {Item Rest : Type}

/-- A record has columns, and a rest which is read from the slots at some positions. -/
structure IsLayout (ofSlots : List Value → Item) (columns : List (Column Item))
    (rest : Item → Rest) (positions : List Nat) : Prop where
  /-- No two columns stand at one position. -/
  distinct : (columns.map Column.position).Nodup
  /-- Columns and rest are all that there is to a record. -/
  complete : ∀ item other : Item, (∀ column ∈ columns, column.field item = column.field other) →
    rest item = rest other → item = other
  /-- The field of a column is what its slot is read to. -/
  field : ∀ row, ∀ column ∈ columns,
    column.field (ofSlots row) = column.reading.read (slot row column.position)
  /-- The rest is read from its slots alone. -/
  rest : ∀ row other, (∀ position ∈ positions, slot row position = slot other position) →
    rest (ofSlots row) = rest (ofSlots other)

/-- The laws of a record that is read slot by slot. Its shape is strict: the number of slots
decides whether there is a record. Its slots are lenient: each of them is read by itself, and
to something whatever it holds. -/
structure ReadsSlotBySlot (read : List Value → Except Fault Item) (columns : List (Column Item))
    (rest : Item → Rest) (positions : List Nat) : Prop where
  /-- Of two rows with as many slots, both are read or none is. -/
  shape : ∀ row other : List Value, row.length = other.length →
    ((∃ item, read row = .ok item) ↔ ∃ item, read other = .ok item)
  /-- No two columns stand at one position. -/
  distinct : (columns.map Column.position).Nodup
  /-- Columns and rest are all that there is to a record. -/
  complete : ∀ item other : Item, (∀ column ∈ columns, column.field item = column.field other) →
    rest item = rest other → item = other
  /-- The field of a column is what its slot is read to. -/
  field : ∀ row item, read row = .ok item → ∀ column ∈ columns,
    column.field item = column.reading.read (slot row column.position)
  /-- A slot that holds null, or what its column has no use for, leaves the field blank. -/
  blank : ∀ row item, read row = .ok item → ∀ column ∈ columns,
    slot row column.position = .null ∨ ¬column.reading.Accepts (slot row column.position) →
      column.field item = column.reading.blank
  /-- A value put into a slot changes no field that stands elsewhere. -/
  replaced : ∀ row item position value, read row = .ok item →
    ∃ other, read (row.set position value) = .ok other ∧
      (∀ column ∈ columns, column.position ≠ position → column.field other = column.field item) ∧
      (position ∉ positions → rest other = rest item)
  /-- A value put into a slot that is not read changes nothing. -/
  unread : ∀ row item position value, read row = .ok item →
    position ∉ columns.map Column.position → position ∉ positions →
      read (row.set position value) = .ok item

variable {ofSlots : List Value → Item} {columns : List (Column Item)} {rest : Item → Rest}
  {positions : List Nat}

/-- Rows that agree in the slots which are read describe the same record. -/
theorem IsLayout.congr (layout : IsLayout ofSlots columns rest positions)
    {row other : List Value}
    (agree : ∀ position ∈ columns.map Column.position ++ positions,
      slot row position = slot other position) :
    ofSlots row = ofSlots other := by
  apply layout.complete
  · intro column member
    rw [layout.field row column member, layout.field other column member,
      agree column.position (List.mem_append_left _ (List.mem_map_of_mem member))]
  · apply layout.rest
    intro position member
    exact agree position (List.mem_append_right _ member)

/-- What is appended behind the slots that are read is not seen. -/
theorem IsLayout.append (layout : IsLayout ofSlots columns rest positions) {row : List Value}
    (more : List Value)
    (within : ∀ position ∈ columns.map Column.position ++ positions, position < row.length) :
    ofSlots (row ++ more) = ofSlots row :=
  layout.congr fun position member => slot_append (within position member)

/-- A record with a layout whose rows are judged by their number of slots is read slot by
slot. -/
theorem IsLayout.readsSlotBySlot (layout : IsLayout ofSlots columns rest positions)
    (kind : RowKind) :
    ReadsSlotBySlot (fun row => (expectSlots kind row).map ofSlots) columns rest positions where
  shape row other same := by
    rw [exists_map_expectSlots_iff, exists_map_expectSlots_iff, same]
  distinct := layout.distinct
  complete := layout.complete
  field row item made := by
    obtain ⟨-, rfl⟩ := map_expectSlots_eq_ok_iff.mp made
    exact layout.field row
  blank row item made column member unusable := by
    obtain ⟨-, rfl⟩ := map_expectSlots_eq_ok_iff.mp made
    rw [layout.field row column member]
    apply Reading.read_of_not_accepts
    rcases unusable with null | other
    · rw [null]
      exact column.reading.not_accepts_null
    · exact other
  replaced row item position value made := by
    obtain ⟨admitted, rfl⟩ := map_expectSlots_eq_ok_iff.mp made
    rw [← List.length_set] at admitted
    refine ⟨_, map_expectSlots_eq_ok_iff.mpr ⟨admitted, rfl⟩, ?_, ?_⟩
    · intro column member different
      rw [layout.field _ column member, layout.field _ column member,
        slot_set_ne value different]
    · intro unread
      apply layout.rest
      intro other member
      exact slot_set_ne value fun same => unread (same ▸ member)
  unread row item position value made noColumn noRest := by
    obtain ⟨admitted, rfl⟩ := map_expectSlots_eq_ok_iff.mp made
    rw [← List.length_set] at admitted
    refine map_expectSlots_eq_ok_iff.mpr ⟨admitted, ?_⟩
    apply layout.congr
    intro other member
    apply slot_set_ne value
    rintro rfl
    exact (List.mem_append.mp member).elim noColumn noRest

end Layout

/-- The columns of a wallet. -/
def Wallet.columns : List (Column Wallet) :=
  [⟨0, .text, walletType⟩, ⟨1, .text, currency⟩, ⟨2, .decimal, balance⟩,
    ⟨3, .decimal, unsettledInterest⟩, ⟨4, .decimal, balanceAvailable⟩, ⟨5, .text, description⟩,
    ⟨6, .fields, metadata⟩]

/-- The columns of a movement. -/
def Movement.columns : List (Column Movement) :=
  [⟨0, .integer, id⟩, ⟨1, .text, currency⟩, ⟨2, .text, currencyName⟩, ⟨5, .integer, started⟩,
    ⟨6, .integer, updated⟩, ⟨9, .text, status⟩, ⟨12, .decimal, amount⟩, ⟨13, .decimal, fees⟩,
    ⟨16, .text, destinationAddress⟩, ⟨20, .text, transactionId⟩, ⟨21, .text, note⟩]

/-- The columns of a notification, whose info is read from two slots. -/
def Notification.columns : List (Column Notification) :=
  [⟨0, .integer, sent⟩, ⟨1, .text, notificationType⟩, ⟨2, .integer, messageId⟩,
    ⟨5, .integer, code⟩, ⟨6, .text, status⟩, ⟨7, .text, Notification.text⟩]

/-- A wallet has its columns and nothing else. -/
theorem Wallet.isLayout : IsLayout ofSlots columns (fun _ => ()) [] where
  distinct := by decide
  complete item other same _ := by
    cases item
    cases other
    simpa [columns] using same
  field row := by
    simp only [columns, List.forall_mem_cons]
    exact ⟨rfl, rfl, rfl, rfl, rfl, rfl, rfl, List.forall_mem_nil _⟩
  rest _ _ _ := rfl

/-- A movement has its columns and nothing else. -/
theorem Movement.isLayout : IsLayout ofSlots columns (fun _ => ()) [] where
  distinct := by decide
  complete item other same _ := by
    cases item
    cases other
    simpa [columns] using same
  field row := by
    simp only [columns, List.forall_mem_cons]
    exact ⟨rfl, rfl, rfl, rfl, rfl, rfl, rfl, rfl, rfl, rfl, rfl, List.forall_mem_nil _⟩
  rest _ _ _ := rfl

/-- A notification has its columns, and an info that is read from the type and from a slot of
its own. -/
theorem Notification.isLayout : IsLayout ofSlots columns info [1, 4] where
  distinct := by decide
  complete item other same sameInfo := by
    cases item
    cases other
    simp [columns] at same
    simp_all
  field row := by
    simp only [columns, List.forall_mem_cons]
    exact ⟨rfl, rfl, rfl, rfl, rfl, rfl, List.forall_mem_nil _⟩
  rest row other agree := by
    change Info.ofValue (Record.text (slot row 1)) (slot row 4) =
      Info.ofValue (Record.text (slot other 1)) (slot other 4)
    rw [agree 1 (by decide), agree 4 (by decide)]

/-- A notification in an array is read if the array has enough slots. -/
theorem Notification.ofValue_array (row : List Value) :
    ofValue (.array row) = (expectSlots .notification row).map ofSlots := by
  change (expectSlots .notification row >>= fun slots => pure (ofSlots slots)) = _
  cases expectSlots .notification row <;> rfl

section Appended

variable {row more : List Value}

/-- A notification of eight slots or more is read. -/
theorem Notification.ofValue_of_length (enough : 8 ≤ row.length) :
    ofValue (.array row) = .ok (ofSlots row) := by
  rw [ofValue_array]
  exact map_expectSlots_eq_ok_iff.mpr ⟨decide_eq_true enough, rfl⟩

/-- A wallet row of seven slots has no room for another field. -/
theorem Wallet.ofRow_append (more : List Value) (full : 7 ≤ row.length) :
    ofRow (row ++ more) = ofRow row := by
  have positions : ∀ position ∈ columns.map Column.position ++ [], position < 7 := by decide
  rw [ofRow_of_length (by rw [List.length_append]; omega), ofRow_of_length (by omega),
    isLayout.append more fun position member =>
      Nat.lt_of_lt_of_le (positions position member) full]

/-- What is missing in a wallet row is null. -/
theorem Wallet.ofRow_append_null (count : Nat) (enough : 5 ≤ row.length) :
    ofRow (row ++ List.replicate count .null) = ofRow row := by
  rw [ofRow_of_length (by rw [List.length_append]; omega), ofRow_of_length enough]
  exact congrArg _ (isLayout.congr fun position _ => slot_append_null row count position)

/-- A notification of eight slots has no room for another field. -/
theorem Notification.ofValue_append (more : List Value) (full : 8 ≤ row.length) :
    ofValue (.array (row ++ more)) = ofValue (.array row) := by
  have positions : ∀ position ∈ columns.map Column.position ++ [1, 4], position < 8 := by decide
  rw [ofValue_of_length (by rw [List.length_append]; omega), ofValue_of_length full,
    isLayout.append more fun position member =>
      Nat.lt_of_lt_of_le (positions position member) full]

/-- A movement row has no slot behind its 22 slots. -/
theorem Movement.ofRow_append (exactly : row.length = 22) (nonempty : more ≠ []) :
    ofRow (row ++ more) = .error (.slotCount .movement (row ++ more)) := by
  have longer := List.length_pos_iff.mpr nonempty
  have unfit : ¬RowKind.movement.admits (row ++ more).length = true := by
    intro admitted
    have count : (row ++ more).length = 22 := beq_iff_eq.mp admitted
    rw [List.length_append] at count
    omega
  rw [ofRow, expectSlots, if_neg unfit]
  rfl

end Appended

/-- The records of a reply have strict shapes and lenient slots. Each of them is read slot by
slot, and only the info of a notification, which is empty where its slot is null, is read from
two of them. What stands behind the last slot of a wallet or of a notification does not matter,
and what is missing in a wallet is null; a movement is refused with any slot more. -/
theorem records_read_slot_by_slot :
    ReadsSlotBySlot Wallet.ofRow Wallet.columns (fun _ => ()) [] ∧
    ReadsSlotBySlot Movement.ofRow Movement.columns (fun _ => ()) [] ∧
    ReadsSlotBySlot (fun row => Notification.ofValue (.array row)) Notification.columns
      Notification.info [1, 4] ∧
    (∀ row notification, Notification.ofValue (.array row) = .ok notification →
      slot row 4 = .null → notification.info = .empty) ∧
    (∀ row more : List Value, 7 ≤ row.length →
      ∃ wallet, Wallet.ofRow row = .ok wallet ∧ Wallet.ofRow (row ++ more) = .ok wallet) ∧
    (∀ (row : List Value) count, 5 ≤ row.length →
      ∃ wallet, Wallet.ofRow row = .ok wallet ∧
        Wallet.ofRow (row ++ List.replicate count .null) = .ok wallet) ∧
    (∀ row more : List Value, 8 ≤ row.length →
      ∃ notification, Notification.ofValue (.array row) = .ok notification ∧
        Notification.ofValue (.array (row ++ more)) = .ok notification) ∧
    ∀ row more : List Value, row.length = 22 → more ≠ [] →
      (∃ movement, Movement.ofRow row = .ok movement) ∧
        ∃ fault, Movement.ofRow (row ++ more) = .error fault := by
  refine ⟨Wallet.isLayout.readsSlotBySlot .wallet, Movement.isLayout.readsSlotBySlot .movement,
    ?_, ?_, ?_, ?_, ?_, ?_⟩
  · rw [funext Notification.ofValue_array]
    exact Notification.isLayout.readsSlotBySlot .notification
  · intro row notification made null
    rw [Notification.ofValue_array] at made
    obtain ⟨-, rfl⟩ := map_expectSlots_eq_ok_iff.mp made
    change Info.ofValue _ (slot row 4) = .empty
    rw [null]
    rfl
  · intro row more full
    have read := Wallet.ofRow_of_length (Nat.le_of_add_right_le (k := 2) full)
    exact ⟨_, read, (Wallet.ofRow_append more full).trans read⟩
  · intro row count enough
    have read := Wallet.ofRow_of_length enough
    exact ⟨_, read, (Wallet.ofRow_append_null count enough).trans read⟩
  · intro row more full
    have read := Notification.ofValue_of_length full
    exact ⟨_, read, (Notification.ofValue_append more full).trans read⟩
  · intro row more exactly nonempty
    exact ⟨⟨_, Movement.ofRow_of_length exactly⟩, _, Movement.ofRow_append exactly nonempty⟩

/-- A placeholder of a movement can hold anything, but there is no slot behind the last one. -/
theorem placeholder_is_not_read :
    let row := List.replicate 22 Value.null
    row.length = 22 ∧
      ∃ movement fault, Movement.ofRow row = .ok movement ∧
        Movement.ofRow (row.set 3 (.string "?")) = .ok movement ∧
        Movement.ofRow (row ++ [.null]) = .error fault := by
  intro row
  have exactly : row.length = 22 := by decide
  obtain ⟨-, movements, -, -, -, -, -, appended⟩ := records_read_slot_by_slot
  obtain ⟨⟨movement, read⟩, fault, refused⟩ := appended row [.null] exactly (by simp)
  have same := movements.unread row movement 3 (.string "?") read (by decide) (by decide)
  exact ⟨exactly, movement, fault, read, same, refused⟩

end ExchangeWallet.Record
