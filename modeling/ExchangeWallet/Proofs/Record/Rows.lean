import ExchangeWallet.Operation
import ExchangeWallet.Proofs.Results
/-!
# Rows of a reply

A snapshot and a history are had of a payload exactly if it is an array each of whose rows
can be read, and then they are what was read, in the order of the rows. A row can be read
exactly if its number of slots is right.
-/
namespace ExchangeWallet

open Json (Value)

namespace Record

/-- A value is an array with a number of slots that fits. -/
def IsRow (Fits : Nat → Prop) (value : Value) : Prop :=
  ∃ row, value = .array row ∧ Fits row.length

/-- An array has the items that it is expected to have, and no other value has any. -/
theorem expectArray_eq_ok_iff {shape : Shape} {value : Value} {items : List Value} :
    expectArray shape value = .ok items ↔ value = .array items := by
  cases value <;> simp [expectArray]

section Slots

variable {row : List Value}

section Kind

variable {Item : Type} {ofSlots : List Value → Item} {kind : RowKind}

/-- A row is read exactly if its number of slots is right, and then as its slots. -/
theorem map_expectSlots_eq_ok_iff {item : Item} :
    (expectSlots kind row).map ofSlots = .ok item ↔
      kind.admits row.length = true ∧ ofSlots row = item := by
  rw [expectSlots]
  split <;> simp_all [Except.map]

/-- A row is read whenever its number of slots is right. -/
theorem exists_map_expectSlots_iff :
    (∃ item, (expectSlots kind row).map ofSlots = .ok item) ↔
      kind.admits row.length = true := by
  simp only [map_expectSlots_eq_ok_iff, exists_and_left, exists_eq', and_true]

end Kind

/-- A wallet row of five slots or more is read. -/
theorem Wallet.ofRow_of_length (enough : 5 ≤ row.length) : ofRow row = .ok (ofSlots row) :=
  map_expectSlots_eq_ok_iff.mpr ⟨decide_eq_true enough, rfl⟩

/-- A movement row of 22 slots is read. -/
theorem Movement.ofRow_of_length (exactly : row.length = 22) : ofRow row = .ok (ofSlots row) :=
  map_expectSlots_eq_ok_iff.mpr ⟨beq_iff_eq.mpr exactly, rfl⟩

end Slots

/-- A snapshot is read row by row. -/
theorem snapshot_eq_ok_iff {value : Value} {snapshot : Snapshot} :
    Snapshot.ofValue value = .ok snapshot ↔
      ∃ rows, value = .array rows ∧
        List.Forall₂ (fun row wallet => Wallet.ofValue row = .ok wallet) rows snapshot.wallets := by
  simp only [Snapshot.ofValue, bind_eq_ok_iff, expectArray_eq_ok_iff, mapM_eq_ok_iff]
  refine exists_congr fun rows => and_congr_right fun _ => ?_
  constructor
  · rintro ⟨wallets, read, same⟩
    cases same
    exact read
  · intro read
    exact ⟨snapshot.wallets, read, rfl⟩

/-- A history is read row by row. -/
theorem history_eq_ok_iff {value : Value} {movements : List Movement} :
    Movement.historyOfValue value = .ok movements ↔
      ∃ rows, value = .array rows ∧
        List.Forall₂ (fun row movement => Movement.ofValue row = .ok movement) rows movements := by
  simp only [Movement.historyOfValue, bind_eq_ok_iff, expectArray_eq_ok_iff, mapM_eq_ok_iff]

end Record

end ExchangeWallet
