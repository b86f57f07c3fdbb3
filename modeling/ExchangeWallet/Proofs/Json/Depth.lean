import ExchangeWallet.Proofs.Json.RoundTrip
/-!
# What a value contains

How deep arrays and objects nest in a value, whether it has a floating-point number somewhere, and
whether the fields of all its objects are in order are three questions about the same tree. A value
for which the answers are right is exact at its depth, so that its text is read back to it.
-/
namespace ExchangeWallet.Json

mutual

/-- How deep arrays and objects nest in a value. -/
def Value.depth : Value → Nat
  | .array items => itemsDepth items + 1
  | .object fields => fieldsDepth fields + 1
  | _ => 0

/-- How deep the items of an array nest at most. -/
def itemsDepth : List Value → Nat
  | [] => 0
  | item :: rest => max item.depth (itemsDepth rest)

/-- How deep the values of fields nest at most. -/
def fieldsDepth : List (String × Value) → Nat
  | [] => 0
  | (_, value) :: rest => max value.depth (fieldsDepth rest)

end

/-- A value stands somewhere in another one, or is that. -/
inductive Value.Within : Value → Value → Prop where
  | itself (value : Value) : Within value value
  | item {inner item : Value} {items : List Value} (member : item ∈ items)
      (within : Within inner item) : Within inner (.array items)
  | field {inner : Value} {field : String × Value} {fields : Fields} (member : field ∈ fields)
      (within : Within inner field.2) : Within inner (.object fields)

/-- There is no floating-point number in a value. -/
def Value.IsWhole (value : Value) : Prop :=
  ∀ real, ¬Value.Within (.number (.real real)) value

/-- Every object in a value lists its fields in order, and no key twice. -/
def Value.IsOrdered (value : Value) : Prop :=
  ∀ fields : Fields, Value.Within (.object fields) value → fields.Ascending

/-- A value that can be told from its text: it nests no deeper than a text may, has no floating-point
number, and is ordered. -/
structure Value.IsRecoverable (value : Value) : Prop where
  shallow : value.depth ≤ 127
  whole : value.IsWhole
  ordered : value.IsOrdered

section Parts

variable {items : List Value} {fields : Fields}

/-- No item nests deeper than all of them. -/
theorem depth_le_itemsDepth : ∀ item ∈ items, item.depth ≤ itemsDepth items := by
  induction items with
  | nil => simp
  | cons first rest inductionHypothesis =>
    intro item member
    rw [itemsDepth]
    rcases List.mem_cons.mp member with rfl | later
    · exact Nat.le_max_left _ _
    · exact (inductionHypothesis item later).trans (Nat.le_max_right _ _)

/-- No field nests deeper than all of them. -/
theorem depth_le_fieldsDepth : ∀ field ∈ fields, field.2.depth ≤ fieldsDepth fields := by
  induction fields with
  | nil => simp
  | cons first rest inductionHypothesis =>
    intro field member
    rw [fieldsDepth]
    rcases List.mem_cons.mp member with rfl | later
    · exact Nat.le_max_left _ _
    · exact (inductionHypothesis field later).trans (Nat.le_max_right _ _)

/-- There is no floating-point number in an array exactly if there is none in its items. -/
@[simp]
theorem isWhole_array_iff : (Value.array items).IsWhole ↔ ∀ item ∈ items, item.IsWhole := by
  constructor
  · intro whole item member real within
    exact whole real (.item member within)
  · intro whole real within
    cases within with
    | item member inside => exact whole _ member real inside

/-- There is no floating-point number in an object exactly if there is none in its fields. -/
@[simp]
theorem isWhole_object_iff : (Value.object fields).IsWhole ↔ ∀ field ∈ fields, field.2.IsWhole := by
  constructor
  · intro whole field member real within
    exact whole real (.field member within)
  · intro whole real within
    cases within with
    | field member inside => exact whole _ member real inside

/-- A whole number is not a floating-point number. -/
@[simp]
theorem isWhole_whole (value : Int) (inRange : -(2 ^ 63) ≤ value ∧ value < 2 ^ 64) :
    (Value.number (.whole value inRange)).IsWhole := by
  intro real within
  cases within

/-- An array is ordered exactly if its items are. -/
@[simp]
theorem isOrdered_array_iff : (Value.array items).IsOrdered ↔ ∀ item ∈ items, item.IsOrdered := by
  constructor
  · intro ordered item member fields within
    exact ordered fields (.item member within)
  · intro ordered fields within
    cases within with
    | item member inside => exact ordered _ member fields inside

/-- An object is ordered exactly if its own fields are and their values too. -/
@[simp]
theorem isOrdered_object_iff :
    (Value.object fields).IsOrdered ↔
      fields.Ascending ∧ ∀ field ∈ fields, field.2.IsOrdered := by
  constructor
  · intro ordered
    refine ⟨ordered fields (.itself _), ?_⟩
    intro field member inner within
    exact ordered inner (.field member within)
  · rintro ⟨ascending, ordered⟩ inner within
    cases within with
    | itself => exact ascending
    | field member inside => exact ordered _ member inner inside

/-- A number has no object to be ordered. -/
@[simp]
theorem isOrdered_number (number : Number) : (Value.number number).IsOrdered := by
  intro fields within
  cases within

end Parts

/-- A value that does not nest too deep, has no floating-point number and is ordered is exact. The
induction is on the depth that is left: an array or an object uses up one level. -/
theorem exact_of_depth {depth : Nat} {value : Value} (shallow : value.depth ≤ depth)
    (whole : value.IsWhole) (ordered : value.IsOrdered) : Exact depth value := by
  induction depth using Nat.strong_induction_on generalizing value with
  | _ depth inductionHypothesis =>
    cases value with
    | null => exact .null depth
    | bool value => exact .bool depth value
    | number number =>
      cases number with
      | whole value inRange => exact .whole depth value inRange
      | real value => exact absurd (.itself _) (whole value)
    | string text => exact .string depth text
    | array items =>
      obtain ⟨below, rfl⟩ := Nat.exists_eq_add_of_le' (Nat.le_of_add_left_le shallow)
      apply Exact.array
      intro item member
      have inside := (depth_le_itemsDepth item member).trans (Nat.le_of_succ_le_succ shallow)
      exact inductionHypothesis below (Nat.lt_succ_self _) inside
        (isWhole_array_iff.mp whole item member) (isOrdered_array_iff.mp ordered item member)
    | object fields =>
      obtain ⟨below, rfl⟩ := Nat.exists_eq_add_of_le' (Nat.le_of_add_left_le shallow)
      obtain ⟨ascending, ordered⟩ := isOrdered_object_iff.mp ordered
      apply Exact.object _ _ ascending
      intro field member
      have inside := (depth_le_fieldsDepth field member).trans (Nat.le_of_succ_le_succ shallow)
      exact inductionHypothesis below (Nat.lt_succ_self _) inside
        (isWhole_object_iff.mp whole field member) (ordered field member)

/-- The text of a value that can be told from it denotes that value. -/
theorem Value.IsRecoverable.read_compact {value : Value} (recoverable : value.IsRecoverable) :
    read value.compact = .ok value :=
  (exact_of_depth recoverable.shallow recoverable.whole recoverable.ordered).read_compact

/-- The empty object can be told from its text. -/
theorem emptyObject_isRecoverable : Value.emptyObject.IsRecoverable where
  shallow := by decide
  whole := isWhole_object_iff.mpr (by simp)
  ordered := isOrdered_object_iff.mpr ⟨List.Pairwise.nil, by simp⟩

end ExchangeWallet.Json
