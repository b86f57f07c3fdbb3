import ExchangeWallet.Proofs.Results
import ExchangeWallet.Text.Utf8
import ExchangeWallet.Trust.Base64
/-!
# Which texts are base64

A text is base64 if its bytes, blanks aside, are the digits of bytes: three bytes have four
digits of six bits each, and two bytes or one at the end have three or two digits, which may
be filled up by padding. Decoding accepts these texts and no others, and gives the bytes that
they denote. It looks at blocks of eight symbols; where their borders lie shows in nothing but
the fault that is told.
-/
namespace ExchangeWallet.Trust.Base64

/-- The digits, in the order of their values. -/
def alphabet : List UInt8 :=
  Text.bytes "ABCDEFGHIJKLMNOPQRSTUVWXYZabcdefghijklmnopqrstuvwxyz0123456789+/"

/-- A byte is a symbol: the padding, or the digit of a value. -/
inductive Stands : UInt8 → Option Nat → Prop
  | padding : Stands 0x3D none
  | digit {byte : UInt8} {value : Nat} (place : alphabet[value]? = some byte) :
      Stands byte (some value)

/-- A text has symbols in this order, and blanks anywhere. -/
inductive HasSymbols : List UInt8 → List (Option Nat) → Prop
  | nil : HasSymbols [] []
  | blank {byte : UInt8} {rest : List UInt8} {symbols : List (Option Nat)}
      (empty : isBlank byte = true) (behind : HasSymbols rest symbols) :
      HasSymbols (byte :: rest) symbols
  | symbol {byte : UInt8} {symbol : Option Nat} {rest : List UInt8}
      {symbols : List (Option Nat)} (stands : Stands byte symbol)
      (behind : HasSymbols rest symbols) : HasSymbols (byte :: rest) (symbol :: symbols)

/-- Symbols are the digits of bytes. The bits of the last digit that no byte needs may be
anything. -/
inductive Spells : List (Option Nat) → List UInt8 → Prop
  | nil : Spells [] []
  | group (first second third : UInt8) {rest : List (Option Nat)} {bytes : List UInt8}
      (behind : Spells rest bytes) :
      Spells (some (first.toNat / 4) :: some (first.toNat % 4 * 16 + second.toNat / 16) ::
          some (second.toNat % 16 * 4 + third.toNat / 64) :: some (third.toNat % 64) :: rest)
        (first :: second :: third :: bytes)
  | two (first second : UInt8) {spare : Nat} (within : spare < 4) {padding : List (Option Nat)}
      (fill : padding = [] ∨ padding = [none]) :
      Spells (some (first.toNat / 4) :: some (first.toNat % 4 * 16 + second.toNat / 16) ::
          some (second.toNat % 16 * 4 + spare) :: padding)
        [first, second]
  | one (byte : UInt8) {spare : Nat} (within : spare < 16) {padding : List (Option Nat)}
      (fill : padding = [] ∨ padding = [none, none]) :
      Spells (some (byte.toNat / 4) :: some (byte.toNat % 4 * 16 + spare) :: padding) [byte]

/-- A text is base64 for these bytes. -/
def Denotes (text bytes : List UInt8) : Prop :=
  ∃ symbols, HasSymbols text symbols ∧ Spells symbols bytes

/-- A text is base64. -/
def IsBase64 (text : List UInt8) : Prop :=
  ∃ bytes, Denotes text bytes

section Symbols

/-- What is true of the first 256 numbers as bytes is true of every byte. -/
theorem forall_byte {holds : UInt8 → Prop} (each : ∀ number < 256, holds (.ofNat number))
    (byte : UInt8) : holds byte := by
  have this := each byte.toNat byte.toNat_lt
  rwa [UInt8.ofNat_toNat] at this

/-- The blanks are read as such. -/
theorem ofByte_eq_blank_iff (byte : UInt8) :
    Symbol.ofByte byte = .blank ↔ isBlank byte = true := by
  revert byte
  exact forall_byte (by decide +kernel)

/-- One byte is read as padding. -/
theorem ofByte_eq_padding_iff (byte : UInt8) :
    Symbol.ofByte byte = .padding ↔ Stands byte none := by
  have one (byte : UInt8) : Symbol.ofByte byte = .padding ↔ byte = 0x3D := by
    revert byte
    exact forall_byte (by decide +kernel)
  rw [one]
  constructor
  · rintro rfl
    exact .padding
  · intro stands
    cases stands
    rfl

/-- A byte is read as the digit of a value by its place in the alphabet. -/
theorem ofByte_eq_digit_iff (byte : UInt8) (value : Nat) :
    Symbol.ofByte byte = .digit value ↔ Stands byte (some value) := by
  have read {byte : UInt8} {value : Nat} (place : alphabet[value]? = some byte) :
      Symbol.ofByte byte = .digit value := by
    have each : ∀ value < alphabet.length,
        alphabet[value]?.map Symbol.ofByte = some (.digit value) := by decide +kernel
    obtain ⟨inside, _⟩ := List.getElem?_eq_some_iff.mp place
    simpa [place] using each value inside
  have listed (byte : UInt8) :
      byte ∈ alphabet ∨ Symbol.ofByte byte ∈ [.blank, .padding, .invalid] := by
    revert byte
    exact forall_byte (by decide +kernel)
  constructor
  · intro digit
    rcases listed byte with member | other
    · obtain ⟨found, place⟩ := List.mem_iff_getElem?.mp member
      obtain rfl : found = value := by simpa [read place] using digit
      exact .digit place
    · simp [digit] at other
  · intro stands
    cases stands with
    | digit place => exact read place

end Symbols

section Groups

/-- Four digits give back the three bytes that they are the digits of. -/
theorem groupBytes_four (first second third : UInt8) :
    groupBytes [first.toNat / 4, first.toNat % 4 * 16 + second.toNat / 16,
      second.toNat % 16 * 4 + third.toNat / 64, third.toNat % 64] = [first, second, third] := by
  let number := first.toNat * 65536 + second.toNat * 256 + third.toNat
  have packed : [first.toNat / 4, first.toNat % 4 * 16 + second.toNat / 16,
      second.toNat % 16 * 4 + third.toNat / 64, third.toNat % 64].foldl
        (fun number digit => number * 64 + digit) 0 = number := by
    simp only [List.foldl_cons, List.foldl_nil]
    omega
  calc
    groupBytes _ = [number / 65536, number / 256, number].map UInt8.ofNat := by
      rw [← packed]
      rfl
    _ = [first, second, third] := by
      have bounds := And.intro first.toNat_lt (And.intro second.toNat_lt third.toNat_lt)
      simp only [List.map_cons, List.map_nil, List.cons.injEq, ← UInt8.toNat_inj,
        UInt8.toNat_ofNat', and_true]
      omega

/-- Three digits give back two bytes, whatever stands in the bits that are left over. -/
theorem groupBytes_three (first second : UInt8) {spare : Nat} (within : spare < 4) :
    groupBytes [first.toNat / 4, first.toNat % 4 * 16 + second.toNat / 16,
      second.toNat % 16 * 4 + spare] = [first, second] := by
  have third : (UInt8.ofNat (spare * 64)).toNat = spare * 64 := by
    simp only [UInt8.toNat_ofNat']
    omega
  have four := groupBytes_four first second (.ofNat (spare * 64))
  rw [third, Nat.mul_div_cancel _ (by decide), Nat.mul_mod_left] at four
  exact congrArg (List.take 2) four

/-- Two digits give back one byte, whatever stands in the bits that are left over. -/
theorem groupBytes_two (byte : UInt8) {spare : Nat} (within : spare < 16) :
    groupBytes [byte.toNat / 4, byte.toNat % 4 * 16 + spare] = [byte] := by
  have second : (UInt8.ofNat (spare * 16)).toNat = spare * 16 := by
    simp only [UInt8.toNat_ofNat']
    omega
  have three := groupBytes_three byte (.ofNat (spare * 16)) (show 0 < 4 by decide)
  rw [second, Nat.mul_div_cancel _ (by decide), Nat.mul_mod_left] at three
  exact congrArg (List.take 1) three

/-- Symbols have values of six bits. -/
def AreSmall (symbols : List (Option Nat)) : Prop :=
  ∀ symbol ∈ symbols, ∀ value ∈ symbol, value < 64

variable {block tail padding : List (Option Nat)} {bytes : List UInt8} {a b c d : Nat}

/-- Any four values of six bits are the digits of three bytes. -/
theorem exists_digits (aSmall : a < 64) (bSmall : b < 64) (cSmall : c < 64) (dSmall : d < 64) :
    ∃ first second third : UInt8, a = first.toNat / 4 ∧
      b = first.toNat % 4 * 16 + second.toNat / 16 ∧
      c = second.toNat % 16 * 4 + third.toNat / 64 ∧ d = third.toNat % 64 := by
  refine ⟨.ofNat (a * 4 + b / 16), .ofNat (b % 16 * 16 + c / 4), .ofNat (c % 4 * 64 + d), ?_⟩
  simp only [UInt8.toNat_ofNat']
  omega

/-- Four digits spell the bytes of their group. -/
theorem spells_group (small : AreSmall [some a, some b, some c, some d])
    (behind : Spells tail bytes) :
    Spells (some a :: some b :: some c :: some d :: tail)
      (groupBytes [a, b, c, d] ++ bytes) := by
  simp only [AreSmall, List.forall_mem_cons, Option.mem_some_iff, forall_eq'] at small
  obtain ⟨aSmall, bSmall, cSmall, dSmall, -⟩ := small
  obtain ⟨first, second, third, rfl, rfl, rfl, rfl⟩ := exists_digits aSmall bSmall cSmall dSmall
  rw [groupBytes_four]
  exact .group first second third behind

/-- Three digits at the end spell the bytes of their group. -/
theorem spells_two (small : AreSmall (some a :: some b :: some c :: padding))
    (fill : padding = [] ∨ padding = [none]) :
    Spells (some a :: some b :: some c :: padding) (groupBytes [a, b, c]) := by
  simp only [AreSmall, List.forall_mem_cons, Option.mem_some_iff, forall_eq'] at small
  obtain ⟨aSmall, bSmall, cSmall, -⟩ := small
  obtain ⟨first, second, third, rfl, rfl, rfl, -⟩ :=
    exists_digits aSmall bSmall cSmall (show 0 < 64 by decide)
  have within : third.toNat / 64 < 4 := Nat.div_lt_of_lt_mul third.toNat_lt
  rw [groupBytes_three first second within]
  exact .two first second within fill

/-- Two digits at the end spell the byte of their group. -/
theorem spells_one (small : AreSmall (some a :: some b :: padding))
    (fill : padding = [] ∨ padding = [none, none]) :
    Spells (some a :: some b :: padding) (groupBytes [a, b]) := by
  simp only [AreSmall, List.forall_mem_cons, Option.mem_some_iff, forall_eq'] at small
  obtain ⟨aSmall, bSmall, -⟩ := small
  obtain ⟨first, second, third, rfl, rfl, -⟩ :=
    exists_digits aSmall bSmall (show 0 < 64 by decide) (show 0 < 64 by decide)
  have within : second.toNat / 16 < 16 := Nat.div_lt_of_lt_mul second.toNat_lt
  rw [groupBytes_two first within]
  exact .one first within fill

/-- The last group is read exactly if it is the digits of bytes. -/
theorem lastGroup_eq_ok_iff (short : block.length ≤ 4) (small : AreSmall block) :
    lastGroup block = .ok bytes ↔ Spells block bytes := by
  constructor
  · intro read
    unfold lastGroup at read
    split at read
    · cases read
      exact .nil
    · cases read
      simpa only [List.append_nil] using spells_group small .nil
    · cases read
      exact spells_two small (.inr rfl)
    · cases read
      exact spells_two small (.inl rfl)
    · cases read
      exact spells_one small (.inr rfl)
    · cases read
      exact spells_one small (.inl rfl)
    · cases read
  · intro spells
    cases spells with
    | nil => rfl
    | group first second third behind =>
      cases behind with
      | nil => exact congrArg Except.ok (groupBytes_four first second third)
      | group | two | one =>
        simp only [List.length_cons] at short
        omega
    | two first second within fill =>
      rcases fill with rfl | rfl
      · exact congrArg Except.ok (groupBytes_three first second within)
      · exact congrArg Except.ok (groupBytes_three first second within)
    | one byte within fill =>
      rcases fill with rfl | rfl
      · exact congrArg Except.ok (groupBytes_two byte within)
      · exact congrArg Except.ok (groupBytes_two byte within)

/-- Four symbols in front of others have to be digits, and then they spell a group. -/
theorem spells_four_iff (four : block.length = 4) (more : tail ≠ []) (small : AreSmall block) :
    Spells (block ++ tail) bytes ↔
      ∃ digits others, digits.map some = block ∧ Spells tail others ∧
        groupBytes digits ++ others = bytes := by
  match block, four with
  | [first, second, third, fourth], _ =>
    constructor
    · intro spells
      cases spells with
      | group x y z behind =>
        exact ⟨[_, _, _, _], _, rfl, behind, congrArg (· ++ _) (groupBytes_four x y z)⟩
      | two x y within fill => simp [more] at fill
      | one x within fill => simp [more] at fill
    · rintro ⟨digits, others, same, behind, rfl⟩
      match digits, same with
      | [a, b, c, d], rfl => exact spells_group small behind

/-- Symbols are taken for values exactly if all of them are digits. -/
theorem mapM_id_eq_some_iff {digits : List Nat} :
    block.mapM id = some digits ↔ digits.map some = block := by
  induction block generalizing digits with
  | nil =>
    rw [List.mapM_nil, List.map_eq_nil_iff]
    exact Option.some_inj.trans eq_comm
  | cons symbol rest inductionHypothesis =>
    simp only [List.mapM_cons, Option.bind_eq_bind, Option.bind_eq_some_iff, id_eq,
      inductionHypothesis, Option.pure_def, Option.some.injEq, List.map_eq_cons_iff]
    constructor
    · rintro ⟨value, rfl, others, same, rfl⟩
      exact ⟨value, others, rfl, rfl, same⟩
    · rintro ⟨value, others, rfl, rfl, same⟩
      exact ⟨value, rfl, others, same, rfl⟩

/-- Whole groups are read exactly if all of their symbols are digits. -/
theorem wholeGroups_eq_ok_iff :
    wholeGroups block = .ok bytes ↔
      ∃ digits : List Nat, digits.map some = block ∧
        groupBytes (digits.take 4) ++ groupBytes (digits.drop 4) = bytes := by
  simp only [wholeGroups, ← mapM_id_eq_some_iff]
  cases block.mapM id <;> simp

/-- A whole group in front of others spells its bytes in front of the others'. -/
theorem spells_whole_iff (size : block.length = 4 ∨ block.length = 8) (more : tail ≠ [])
    (small : AreSmall block) :
    Spells (block ++ tail) bytes ↔
      ∃ front others, wholeGroups block = .ok front ∧ Spells tail others ∧
        front ++ others = bytes := by
  simp only [wholeGroups_eq_ok_iff]
  rcases size with four | eight
  · rw [spells_four_iff four more small]
    have alone {digits : List Nat} (same : digits.map some = block) :
        groupBytes (digits.take 4) ++ groupBytes (digits.drop 4) = groupBytes digits := by
      have length : digits.length = 4 := by rw [← four, ← same, List.length_map]
      rw [← length, List.take_length, List.drop_length]
      exact List.append_nil _
    constructor
    · rintro ⟨digits, others, same, behind, rfl⟩
      exact ⟨_, others, ⟨digits, same, alone same⟩, behind, rfl⟩
    · rintro ⟨front, others, ⟨digits, same, rfl⟩, behind, rfl⟩
      rw [alone same]
      exact ⟨digits, others, same, behind, rfl⟩
  · obtain ⟨first, second, rfl, four, alsoFour⟩ :
        ∃ first second, first ++ second = block ∧ first.length = 4 ∧ second.length = 4 :=
      ⟨block.take 4, block.drop 4, List.take_append_drop 4 block, by simp [eight], by simp [eight]⟩
    obtain ⟨smallFront, smallBehind⟩ := List.forall_mem_append.mp small
    rw [List.append_assoc, spells_four_iff four (by simp [more]) smallFront]
    simp only [spells_four_iff alsoFour more smallBehind]
    constructor
    · rintro ⟨digits, _, rfl, ⟨others, rest, rfl, behind, rfl⟩, rfl⟩
      rw [List.length_map] at four
      refine ⟨_, rest, ⟨digits ++ others, List.map_append, rfl⟩, behind, ?_⟩
      rw [← four, List.take_left, List.drop_left, List.append_assoc]
    · rintro ⟨_, rest, ⟨digits, same, rfl⟩, behind, rfl⟩
      obtain ⟨front, others, rfl, rfl, rfl⟩ := List.map_eq_append_iff.mp same
      rw [List.length_map] at four
      refine ⟨front, _, rfl, ⟨others, rest, rfl, behind, rfl⟩, ?_⟩
      rw [← four, List.take_left, List.drop_left, List.append_assoc]

/-- The last block is read exactly if it is the digits of bytes. -/
theorem lastBlock_eq_ok_iff (short : block.length ≤ blockSize) (small : AreSmall block) :
    lastBlock block = .ok bytes ↔ Spells block bytes := by
  rw [lastBlock]
  split_ifs with long
  · have front : (block.take 4).length = 4 := by rw [List.length_take]; omega
    have behind : block.drop 4 ≠ [] := by
      rw [Ne, List.drop_eq_nil_iff]
      omega
    have same := List.take_append_drop 4 block
    have smallParts := small
    rw [← same] at smallParts
    obtain ⟨smallFront, smallBehind⟩ := List.forall_mem_append.mp smallParts
    have shortBehind : (block.drop 4).length ≤ 4 := by
      rw [List.length_drop]
      exact Nat.sub_le_of_le_add short
    conv_rhs => rw [← same]
    rw [spells_whole_iff (.inl front) behind smallFront]
    simp only [bind_eq_ok_iff, lastGroup_eq_ok_iff shortBehind smallBehind]
    constructor
    · rintro ⟨bytes, whole, others, spells, last⟩
      exact ⟨bytes, others, whole, spells, Except.ok.inj last⟩
    · rintro ⟨bytes, others, whole, spells, rfl⟩
      exact ⟨bytes, whole, others, spells, rfl⟩
  · exact lastGroup_eq_ok_iff (Nat.le_of_not_lt long) small

end Groups

section Decoding

variable {block : List (Option Nat)} {text bytes rest : List UInt8} {byte : UInt8}
  {symbol : Option Nat} {symbols : List (Option Nat)}

/-- How a symbol is read. -/
def symbolOf : Option Nat → Symbol
  | none => .padding
  | some value => .digit value

/-- A byte is read as the symbol that it is. -/
theorem ofByte_eq_symbolOf_iff : Symbol.ofByte byte = symbolOf symbol ↔ Stands byte symbol := by
  cases symbol with
  | none => exact ofByte_eq_padding_iff byte
  | some value => exact ofByte_eq_digit_iff byte value

/-- A byte is a blank, a symbol, or none of both. -/
theorem blank_or_stands_or_invalid (byte : UInt8) :
    isBlank byte = true ∨ (∃ symbol, Stands byte symbol) ∨ Symbol.ofByte byte = .invalid := by
  cases read : Symbol.ofByte byte with
  | blank => exact .inl ((ofByte_eq_blank_iff byte).mp read)
  | padding => exact .inr (.inl ⟨none, (ofByte_eq_padding_iff byte).mp read⟩)
  | digit value => exact .inr (.inl ⟨some value, (ofByte_eq_digit_iff byte value).mp read⟩)
  | invalid => exact .inr (.inr rfl)

/-- A byte is one symbol at most. -/
theorem Stands.unique {other : Option Nat} (stands : Stands byte symbol)
    (also : Stands byte other) : symbol = other := by
  have same := (ofByte_eq_symbolOf_iff.mpr stands).symm.trans (ofByte_eq_symbolOf_iff.mpr also)
  cases symbol <;> cases other <;> simp_all [symbolOf]

/-- A symbol is no blank. -/
theorem Stands.not_blank (stands : Stands byte symbol) : ¬ isBlank byte = true := by
  intro empty
  have same := (ofByte_eq_symbolOf_iff.mpr stands).symm.trans ((ofByte_eq_blank_iff byte).mpr empty)
  cases symbol <;> cases same

/-- A text that begins with a blank has the symbols of its rest. -/
theorem hasSymbols_of_blank (empty : isBlank byte = true) :
    HasSymbols (byte :: rest) symbols ↔ HasSymbols rest symbols := by
  constructor
  · intro has
    cases has with
    | blank _ behind => exact behind
    | symbol stands => exact absurd empty stands.not_blank
  · exact .blank empty

/-- A text that begins with a symbol has it in front of those of its rest. -/
theorem hasSymbols_of_stands (stands : Stands byte symbol) :
    HasSymbols (byte :: rest) symbols ↔
      ∃ others, HasSymbols rest others ∧ symbol :: others = symbols := by
  constructor
  · intro has
    cases has with
    | blank empty => exact absurd empty stands.not_blank
    | symbol also behind => exact ⟨_, behind, by rw [stands.unique also]⟩
  · rintro ⟨others, behind, rfl⟩
    exact .symbol stands behind

/-- A text with a byte that is neither a blank nor a symbol has no symbols. -/
theorem not_hasSymbols_of_invalid (invalid : Symbol.ofByte byte = .invalid) :
    ¬ HasSymbols (byte :: rest) symbols := by
  intro has
  cases has with
  | blank empty => cases invalid.symm.trans ((ofByte_eq_blank_iff byte).mpr empty)
  | @symbol _ symbol _ _ stands =>
    have same := invalid.symm.trans (ofByte_eq_symbolOf_iff.mpr stands)
    cases symbol <;> cases same

/-- The digits have six bits. -/
theorem Stands.areSmall (stands : Stands byte symbol) : AreSmall [symbol] := by
  cases stands with
  | padding => simp [AreSmall]
  | digit place =>
    obtain ⟨inside, -⟩ := List.getElem?_eq_some_iff.mp place
    have count : alphabet.length = 64 := by decide
    simpa [AreSmall, count] using inside

/-- A byte that is a symbol is put to the block. -/
theorem decodeBehind_of_stands (stands : Stands byte symbol) :
    decodeBehind block (byte :: rest) = do
      let (bytes, block) ← push block symbol
      return bytes ++ (← decodeBehind block rest) := by
  have read := ofByte_eq_symbolOf_iff.mpr stands
  rw [decodeBehind]
  cases symbol <;> simp only [symbolOf] at read <;> simp only [read]

/-- A block that has room takes a symbol. -/
theorem decodeBehind_of_room (room : block.length < blockSize) (stands : Stands byte symbol) :
    decodeBehind block (byte :: rest) = decodeBehind (block ++ [symbol]) rest := by
  rw [decodeBehind_of_stands stands, push, if_pos room]
  change decodeBehind (block ++ [symbol]) rest >>= (fun others => .ok others) = _
  cases decodeBehind (block ++ [symbol]) rest <;> rfl

/-- A full block is left behind for a new one, and then it has to be digits. -/
theorem decodeBehind_of_full (full : ¬ block.length < blockSize) (stands : Stands byte symbol) :
    decodeBehind block (byte :: rest) = .ok bytes ↔
      ∃ front others, wholeGroups block = .ok front ∧ decodeBehind [symbol] rest = .ok others ∧
        front ++ others = bytes := by
  rw [decodeBehind_of_stands stands, push, if_neg full, bind_eq_ok_iff]
  simp only [map_eq_ok_iff, bind_eq_ok_iff]
  constructor
  · rintro ⟨_, ⟨front, whole, rfl⟩, others, behind, same⟩
    exact ⟨front, others, whole, behind, Except.ok.inj same⟩
  · rintro ⟨front, others, whole, behind, rfl⟩
    exact ⟨_, ⟨front, whole, rfl⟩, others, behind, rfl⟩

/-- A block and the text behind it spell bytes together. -/
def Completes (block : List (Option Nat)) (text bytes : List UInt8) : Prop :=
  ∃ symbols, HasSymbols text symbols ∧ Spells (block ++ symbols) bytes

/-- Nothing behind a block leaves it as it is. -/
theorem completes_nil_iff : Completes block [] bytes ↔ Spells block bytes := by
  constructor
  · rintro ⟨_, ⟨⟩, spells⟩
    rwa [List.append_nil] at spells
  · intro spells
    exact ⟨[], .nil, by rwa [List.append_nil]⟩

/-- A symbol behind a block may as well be in it. -/
theorem completes_of_stands (stands : Stands byte symbol) :
    Completes block (byte :: rest) bytes ↔ Completes (block ++ [symbol]) rest bytes := by
  simp only [Completes, hasSymbols_of_stands stands]
  constructor
  · rintro ⟨_, ⟨others, has, rfl⟩, spells⟩
    exact ⟨others, has, by rwa [List.append_assoc]⟩
  · rintro ⟨others, has, spells⟩
    exact ⟨_, ⟨others, has, rfl⟩, by rwa [List.append_assoc] at spells⟩

/-- A full block in front of one more symbol has to be digits, and they spell their bytes in front
of the others. -/
theorem completes_of_full (full : block.length = 8) (small : AreSmall block)
    (stands : Stands byte symbol) :
    Completes block (byte :: rest) bytes ↔
      ∃ front others, wholeGroups block = .ok front ∧ Completes [symbol] rest others ∧
        front ++ others = bytes := by
  have whole (others : List (Option Nat)) : Spells (block ++ symbol :: others) bytes ↔ _ :=
    spells_whole_iff (.inr full) (List.cons_ne_nil symbol others) small
  simp only [Completes, hasSymbols_of_stands stands]
  constructor
  · rintro ⟨_, ⟨others, has, rfl⟩, spells⟩
    obtain ⟨front, rear, read, spells, same⟩ := (whole others).mp spells
    exact ⟨front, rear, read, ⟨others, has, spells⟩, same⟩
  · rintro ⟨front, rear, read, ⟨others, has, spells⟩, rfl⟩
    exact ⟨_, ⟨others, has, rfl⟩, (whole others).mpr ⟨front, rear, read, spells, rfl⟩⟩

/-- What is read behind a block is what the block and the text spell together. The blocks are cut
where they are full, so that only the last one can be other than digits. -/
theorem decodeBehind_eq_ok_iff (short : block.length ≤ blockSize) (small : AreSmall block) :
    decodeBehind block text = .ok bytes ↔ Completes block text bytes := by
  induction text generalizing block bytes with
  | nil => rw [decodeBehind, lastBlock_eq_ok_iff short small, completes_nil_iff]
  | cons byte rest inductionHypothesis =>
    rcases blank_or_stands_or_invalid byte with empty | ⟨symbol, stands⟩ | invalid
    · rw [decodeBehind, (ofByte_eq_blank_iff byte).mpr empty]
      simp only [inductionHypothesis short small, Completes, hasSymbols_of_blank empty]
    · by_cases room : block.length < blockSize
      · have grown : (block ++ [symbol]).length ≤ blockSize := by
          rw [List.length_append]
          exact room
        have grownSmall : AreSmall (block ++ [symbol]) :=
          List.forall_mem_append.mpr ⟨small, stands.areSmall⟩
        rw [decodeBehind_of_room room stands, inductionHypothesis grown grownSmall,
          completes_of_stands stands]
      · have full : block.length = 8 := Nat.le_antisymm short (Nat.le_of_not_lt room)
        have one : [symbol].length ≤ blockSize := Nat.le_add_left 1 7
        rw [decodeBehind_of_full room stands, completes_of_full full small stands]
        simp only [inductionHypothesis one stands.areSmall]
    · simp [decodeBehind, invalid, Completes, not_hasSymbols_of_invalid invalid]

end Decoding

/-- A text is decoded exactly if it is base64, and as the bytes that it denotes. -/
theorem decode_eq_ok_iff {text bytes : List UInt8} :
    decode text = .ok bytes ↔ Denotes text bytes :=
  decodeBehind_eq_ok_iff (Nat.zero_le blockSize) (by simp [AreSmall])

/-- Whether a text is base64 shows when it is decoded. -/
instance (text : List UInt8) : Decidable (IsBase64 text) :=
  match decoded : decode text with
  | .ok bytes => isTrue ⟨bytes, decode_eq_ok_iff.mp decoded⟩
  | .error _ => isFalse fun ⟨_, denotes⟩ => by
      cases decoded.symm.trans (decode_eq_ok_iff.mpr denotes)

/-- Padding may be missing, and blanks may stand anywhere. -/
example : IsBase64 (Text.bytes "Q UI") ∧ IsBase64 (Text.bytes "QUI=\n") := by decide

/-- Base64 has blanks and symbols, and no other bytes. -/
theorem IsBase64.ofByte_ne_invalid {text : List UInt8} (isBase64 : IsBase64 text) :
    ∀ byte ∈ text, Symbol.ofByte byte ≠ .invalid := by
  obtain ⟨_, symbols, has, -⟩ := isBase64
  induction has with
  | nil => simp
  | blank empty _ inductionHypothesis =>
    refine List.forall_mem_cons.mpr ⟨?_, inductionHypothesis⟩
    rw [(ofByte_eq_blank_iff _).mpr empty]
    decide
  | @symbol _ symbol _ _ stands _ inductionHypothesis =>
    refine List.forall_mem_cons.mpr ⟨?_, inductionHypothesis⟩
    rw [ofByte_eq_symbolOf_iff.mpr stands]
    cases symbol <;> simp [symbolOf]

end ExchangeWallet.Trust.Base64
