import ExchangeWallet.Proofs.Record.Rows
import ExchangeWallet.WalletError
/-!
# Batches

A snapshot and a history are read from their rows, one record a row. A row that is no array, or
has a wrong number of slots, refuses all of the reply, and of several such rows the first one is
named. So two batches behind each other are read as each by itself: nothing of the first can
change what is said about the second, and a refused first one hides the second.
-/
namespace ExchangeWallet

open Json (Value)

namespace Record

/-- How a reply of many rows is read: what the reply and its rows are expected to be, and the
record that a row of enough slots describes. -/
structure Batch (Item : Type) where
  shape : Shape
  rowShape : Shape
  kind : RowKind
  ofSlots : List Value → Item

/-- What is wrong with a value that has to be a row: the number of its slots, or that it is no
array. The slots, or the text of the value, show which one is meant. -/
def complaint (rule name : String) : Value → String
  | .array row => s!"decode error: {rule}, got {row.length}: {Json.inspectRow row}"
  | value => s!"decode error: expected {name} array, got: {value.compact}"

/-- The laws of reading a batch. All records come of a batch or none, in the order of the rows
and each of its row alone, and the first row of a wrong shape decides the fault. -/
structure ReadsRowByRow {Item : Type} (read : Value → Except Fault (List Item))
    (readRow : Value → Except Fault Item) (Fits : Nat → Prop) (name rowName rule : String) :
    Prop where
  /-- Two batches behind each other are read exactly if both are, to the records of both. -/
  append_ok : ∀ front rest items, read (.array (front ++ rest)) = .ok items ↔
    ∃ first second, read (.array front) = .ok first ∧ read (.array rest) = .ok second ∧
      items = first ++ second
  /-- A refused batch is refused for the same reason whatever follows. -/
  append_error : ∀ front rest fault, read (.array front) = .error fault →
    read (.array (front ++ rest)) = .error fault
  /-- Behind a batch that is read, a refused one is refused for the same reason. -/
  ok_append_error : ∀ front rest items fault, read (.array front) = .ok items →
    read (.array rest) = .error fault → read (.array (front ++ rest)) = .error fault
  /-- Nothing but the shape of the rows decides. -/
  ok_iff : ∀ rows, (∃ items, read (.array rows) = .ok items) ↔ ∀ row ∈ rows, IsRow Fits row
  /-- There is one record for each row, which is the record of the row alone. -/
  items : ∀ (rows : List Value) (items : List Item), read (.array rows) = .ok items →
    items.length = rows.length ∧
      ∀ (index : Nat) row, rows[index]? = some row →
        ∃ item, items[index]? = some item ∧ readRow row = .ok item
  /-- Otherwise the first row of a wrong shape is the fault, and is shown in it. -/
  error_iff : ∀ rows fault, read (.array rows) = .error fault ↔
    ∃ front row rest, rows = front ++ row :: rest ∧ (∀ earlier ∈ front, IsRow Fits earlier) ∧
      ¬IsRow Fits row ∧ readRow row = .error fault
  /-- The fault of a row says what is wrong with it. -/
  row_error : ∀ row fault, readRow row = .error fault →
    ¬IsRow Fits row ∧ (WalletError.decode fault).message = complaint rule rowName row
  /-- What is no array is no batch. -/
  no_array : ∀ value, (∀ rows, value ≠ .array rows) → ∃ fault, read value = .error fault ∧
    (WalletError.decode fault).message =
      s!"decode error: expected {name} array, got: {value.compact}"

namespace Batch

variable {Item : Type} (batch : Batch Item)

/-- The record of a row. -/
def row (value : Value) : Except Fault Item :=
  expectArray batch.rowShape value >>= fun row =>
    (expectSlots batch.kind row).map batch.ofSlots

/-- The records of the rows of a reply. -/
def read (value : Value) : Except Fault (List Item) :=
  expectArray batch.shape value >>= fun rows => rows.mapM batch.row

/-- A batch in an array is read by traversing the rows. -/
theorem read_array (rows : List Value) : batch.read (.array rows) = rows.mapM batch.row :=
  rfl

variable {Fits : Nat → Prop} (admits : ∀ count, batch.kind.admits count = true ↔ Fits count)

include admits

/-- A row with a number of slots that fits has a record. -/
theorem row_array {row : List Value} (fits : Fits row.length) :
    batch.row (.array row) = .ok (batch.ofSlots row) :=
  map_expectSlots_eq_ok_iff.mpr ⟨(admits row.length).mpr fits, rfl⟩

/-- Every other value is refused, and the fault says what is wrong with it. -/
theorem row_of_not_isRow {value : Value} (other : ¬IsRow Fits value) :
    ∃ fault, batch.row value = .error fault ∧
      (WalletError.decode fault).message =
        complaint batch.kind.rule batch.rowShape.name value := by
  cases value with
  | array row =>
    have unfit : ¬batch.kind.admits row.length = true := by
      rw [admits]
      intro fits
      exact other ⟨row, rfl, fits⟩
    refine ⟨.slotCount batch.kind row, ?_, rfl⟩
    change (expectSlots batch.kind row).map batch.ofSlots = _
    rw [expectSlots, if_neg unfit]
    rfl
  | _ => exact ⟨.notArray batch.rowShape _, rfl, rfl⟩

/-- A value has a record exactly if it is a row. -/
theorem exists_row_iff {value : Value} :
    (∃ item, batch.row value = .ok item) ↔ IsRow Fits value := by
  constructor
  · rintro ⟨item, made⟩
    by_contra other
    obtain ⟨fault, refused, -⟩ := batch.row_of_not_isRow admits other
    cases made.symm.trans refused
  · rintro ⟨row, rfl, fits⟩
    exact ⟨_, batch.row_array admits fits⟩

/-- What is refused is no row. -/
theorem not_isRow_of_error {value : Value} {fault : Fault}
    (refused : batch.row value = .error fault) : ¬IsRow Fits value := by
  rw [← batch.exists_row_iff admits]
  rintro ⟨item, made⟩
  cases made.symm.trans refused

/-- A batch is read row by row. -/
theorem readsRowByRow :
    ReadsRowByRow batch.read batch.row Fits batch.shape.name batch.rowShape.name
      batch.kind.rule where
  append_ok front rest items := by
    simp only [read_array, List.mapM_append, bind_eq_ok_iff]
    constructor
    · rintro ⟨first, madeFirst, second, madeSecond, same⟩
      exact ⟨first, second, madeFirst, madeSecond, (Except.ok.inj same).symm⟩
    · rintro ⟨first, second, madeFirst, madeSecond, same⟩
      exact ⟨first, madeFirst, second, madeSecond, congrArg Except.ok same.symm⟩
  append_error front rest fault refused := by
    rw [read_array] at refused ⊢
    rw [List.mapM_append, refused]
    rfl
  ok_append_error front rest items fault made refused := by
    rw [read_array] at made refused ⊢
    rw [List.mapM_append, made, refused]
    rfl
  ok_iff rows := by
    simp only [read_array, exists_mapM_ok_iff, batch.exists_row_iff admits]
  items rows items made := by
    rw [read_array, mapM_eq_ok_iff] at made
    refine ⟨made.length_eq.symm, ?_⟩
    intro index row present
    obtain ⟨within, rfl⟩ := List.getElem?_eq_some_iff.mp present
    have within' := made.length_eq ▸ within
    exact ⟨items[index], List.getElem?_eq_getElem within', made.get within within'⟩
  error_iff rows fault := by
    have refusedAlone (row : Value) :
        batch.row row = .error fault ↔ ¬IsRow Fits row ∧ batch.row row = .error fault :=
      ⟨fun refused => ⟨batch.not_isRow_of_error admits refused, refused⟩, And.right⟩
    simp only [read_array, mapM_eq_error_iff, batch.exists_row_iff admits]
    simp only [← refusedAlone]
  row_error row fault refused := by
    have other := batch.not_isRow_of_error admits refused
    obtain ⟨reason, found, wording⟩ := batch.row_of_not_isRow admits other
    obtain rfl := Except.error.inj (found.symm.trans refused)
    exact ⟨other, wording⟩
  no_array value other := by
    cases value with
    | array rows => exact absurd rfl (other rows)
    | _ => exact ⟨.notArray batch.shape _, rfl, rfl⟩

end Batch

/-- The batch of a snapshot. -/
def Wallet.batch : Batch Wallet :=
  ⟨.walletSnapshot, .wallet, .wallet, Wallet.ofSlots⟩

/-- The batch of a history. -/
def Movement.batch : Batch Movement :=
  ⟨.movements, .movement, .movement, Movement.ofSlots⟩

/-- The wallets of a snapshot are read as a batch. -/
theorem wallets_ofValue (value : Value) :
    (Snapshot.ofValue value).map Snapshot.wallets = Wallet.batch.read value := by
  cases value with
  | array rows =>
    change (rows.mapM Wallet.ofValue >>= fun wallets => pure (Snapshot.mk wallets)).map
      Snapshot.wallets = rows.mapM Wallet.ofValue
    cases rows.mapM Wallet.ofValue <;> rfl
  | _ => rfl

end Record

/-- A snapshot and a history are all or nothing. Batches behind each other are read as each by
itself, the records come in the order of the rows, and the first row of a wrong shape is the
fault, which tells the number of its slots or its text. -/
theorem batches_read_row_by_row :
    Record.ReadsRowByRow (fun value => (Record.Snapshot.ofValue value).map Record.Snapshot.wallets)
      Record.Wallet.ofValue (5 ≤ ·) "wallet snapshot" "wallet"
      "wallet row needs at least 5 fields" ∧
    Record.ReadsRowByRow Record.Movement.historyOfValue Record.Movement.ofValue (· = 22)
      "movements" "movement" "movement row must have 22 fields" := by
  constructor
  · rw [funext Record.wallets_ofValue]
    exact Record.Wallet.batch.readsRowByRow fun count => decide_eq_true_iff
  · exact Record.Movement.batch.readsRowByRow fun count => beq_iff_eq

/-- Where a wallet was expected, a text is shown as it was sent. -/
theorem text_among_wallets_is_shown :
    let wallet := Value.array (List.replicate 5 .null)
    ∃ fault, Record.Snapshot.ofValue (.array [wallet, .string "none", .null]) = .error fault ∧
      (WalletError.decode fault).message =
        "decode error: expected wallet array, got: \"none\"" := by
  intro wallet
  obtain ⟨snapshots, -⟩ := batches_read_row_by_row
  let fault : Record.Fault := .notArray .wallet (.string "none")
  have refused : Record.Wallet.ofValue (.string "none") = .error fault := rfl
  obtain ⟨other, wording⟩ := snapshots.row_error _ _ refused
  have isRow : Record.IsRow (5 ≤ ·) wallet := ⟨_, rfl, by decide⟩
  have stopped := (snapshots.error_iff [wallet, .string "none", .null] fault).mpr
    ⟨[wallet], _, [.null], rfl, by simpa using isRow, other, refused⟩
  refine ⟨fault, ?_, wording.trans (by decide)⟩
  cases read : Record.Snapshot.ofValue (.array [wallet, .string "none", .null]) with
  | ok snapshot =>
    rw [read] at stopped
    cases stopped
  | error reason =>
    rw [read] at stopped
    exact congrArg _ (Except.error.inj stopped)

end ExchangeWallet
