import ExchangeWallet.Proofs.Json.Tokens
/-!
# Spellings of values

A text spells a value if reading the text gives the value, up to a boundary behind it. A value
has many spellings, as numbers can be written in many ways. An array is spelled by spellings
of its items.
-/
namespace ExchangeWallet.Json

/-- A text is read to a value, whatever stands behind. -/
def Spells (depth : Nat) (text : List Char) (value : Value) : Prop :=
  ∀ rest, Boundary rest → Yields (readValue depth (text ++ rest)) value rest

/-- A text spells one value at most. -/
theorem Spells.unique {depth : Nat} {text : List Char} {first second : Value}
    (spellsFirst : Spells depth text first) (spellsSecond : Spells depth text second) :
    first = second := by
  obtain ⟨_, readFirst⟩ := spellsFirst [] boundary_nil
  obtain ⟨_, readSecond⟩ := spellsSecond [] boundary_nil
  exact congrArg Parsed.value (Except.ok.inj (readFirst.symm.trans readSecond))

section Scalars

variable {depth : Nat} {character : Char} {rest tail : List Char}

/-- A value that is neither an array nor an object is read as its first character says. -/
theorem readValue_of_scalar (visible : isBlank character = false) (notArray : character ≠ '[')
    (notObject : character ≠ '{') :
    ∃ le, readValue depth (character :: rest) =
      (readScalar character rest).map fun parsed => parsed.widen le := by
  have start := skipBlanks_cons rest visible
  refine ⟨le_rfl, ?_⟩
  unfold readValue
  split
  · next none => cases start.symm.trans none
  · next first others found =>
    obtain ⟨rfl, rfl⟩ := List.cons.inj (start.symm.trans found)
    rw [if_neg notArray, if_neg notObject]

/-- A value that is neither an array nor an object is what its first character opens. -/
theorem readValue_scalar {value : Value} (visible : isBlank character = false)
    (notArray : character ≠ '[') (notObject : character ≠ '{')
    (scalar : Yields (readScalar character rest) value tail) :
    Yields (readValue depth (character :: rest)) value tail := by
  obtain ⟨_, same⟩ := readValue_of_scalar visible notArray notObject
  rw [same]
  exact scalar.map _ _ (fun _ => rfl) (fun _ => rfl)

/-- A digit opens a number. It is no other token's opening. -/
theorem readValue_of_digit (digit : character.isDigit) :
    ∃ le, readValue depth (character :: rest) =
      (readNumber false (character :: rest)).map fun parsed =>
        (parsed.as (.number parsed.value)).widen le := by
  have differs (other : Char) (notDigit : other.isDigit = false) : character ≠ other :=
    Numeral.ne_of_isDigit digit notDigit
  have visible : isBlank character = false := by
    simp [isBlank, differs ' ' rfl, differs '\t' rfl, differs '\n' rfl, differs '\r' rfl]
  obtain ⟨le, read⟩ := readValue_of_scalar visible (differs '[' rfl) (differs '{' rfl)
  refine ⟨le, ?_⟩
  rw [read, readScalar, if_neg (differs 'n' rfl), if_neg (differs 't' rfl),
    if_neg (differs 'f' rfl), if_neg (differs '"' rfl), if_neg (differs '-' rfl), if_pos digit]
  cases readNumber false (character :: rest) <;> rfl

/-- A minus sign opens a negative number. -/
theorem readValue_of_minus :
    ∃ le, readValue depth ('-' :: rest) =
      (readNumber true rest).map fun parsed => (parsed.as (.number parsed.value)).widen le := by
  have visible : isBlank '-' = false := rfl
  obtain ⟨le, read⟩ := readValue_of_scalar visible (by decide) (by decide)
  refine ⟨(Nat.le_succ _).trans le, ?_⟩
  rw [read]
  unfold readScalar
  simp only [Char.reduceEq, if_false, if_true]
  cases readNumber true rest <;> rfl

variable {number : Number}

/-- A number that opens with a digit is read. -/
theorem readValue_digit (digit : character.isDigit)
    (read : Yields (readNumber false (character :: rest)) number tail) :
    Yields (readValue depth (character :: rest)) (.number number) tail := by
  obtain ⟨_, same⟩ := readValue_of_digit digit
  rw [same]
  exact read.map _ _ (fun _ => rfl) (fun _ => rfl)

/-- A number that opens with a minus sign is read. -/
theorem readValue_minus (read : Yields (readNumber true rest) number tail) :
    Yields (readValue depth ('-' :: rest)) (.number number) tail := by
  obtain ⟨_, same⟩ := readValue_of_minus
  rw [same]
  exact read.map _ _ (fun _ => rfl) (fun _ => rfl)

end Scalars

/-- A value together with a text that spells it. -/
structure Spelling (depth : Nat) where
  text : List Char
  value : Value
  spells : Spells depth text value

/-- The texts of items behind the first one, and the end of their array. -/
def moreTexts : List (List Char) → List Char
  | [] => [']']
  | text :: others => ',' :: (text ++ moreTexts others)

/-- The text of an array whose items have the given texts. -/
def arrayText : List (List Char) → List Char
  | [] => "[]".toList
  | text :: others => '[' :: (text ++ moreTexts others)

/-- What follows an item of an array is a boundary. -/
theorem moreTexts_boundary (texts : List (List Char)) (rest : List Char) :
    Boundary (moreTexts texts ++ rest) := by
  cases texts <;> simp [Boundary, moreTexts]

/-- A text from which a value is read does not open with the end of an array. -/
theorem opens_of_yields {depth : Nat} {text tail : List Char} {value : Value}
    (read : Yields (readValue depth text) value tail) :
    ∃ character rest, skipBlanks text = character :: rest ∧ character ≠ ']' := by
  obtain ⟨shorter, read⟩ := read
  unfold readValue at read
  split at read
  · cases read
  · next character rest found =>
    refine ⟨character, rest, found, ?_⟩
    rintro rfl
    simp [readScalar, Except.map] at read

namespace Spelling

variable {depth : Nat}

/-- The items behind the first one are read, up to the end of their array. -/
theorem readMoreItems_texts (items : List (Spelling depth)) (rest : List Char) :
    Yields (readMoreItems (readValue depth) (moreTexts (items.map text) ++ rest))
      (items.map value) rest := by
  induction items with
  | nil =>
    have closing := skipBlanks_cons rest (show isBlank ']' = false from rfl)
    change Yields (readMoreItems (readValue depth) (']' :: rest)) [] rest
    rw [readMoreItems]
    split
    · next none => cases closing.symm.trans none
    · next first others found =>
      obtain ⟨rfl, rfl⟩ := List.cons.inj (closing.symm.trans found)
      rw [if_pos rfl]
      exact ⟨_, rfl⟩
  | cons item others inductionHypothesis =>
    have first := item.spells (moreTexts (others.map text) ++ rest) (moreTexts_boundary _ rest)
    have written : moreTexts ((item :: others).map text) ++ rest =
        ',' :: (item.text ++ (moreTexts (others.map text) ++ rest)) := by
      simp [moreTexts]
    have comma := skipBlanks_cons (item.text ++ (moreTexts (others.map text) ++ rest))
      (show isBlank ',' = false from rfl)
    obtain ⟨opening, inside, opened, notClosing⟩ := opens_of_yields first
    rw [written, readMoreItems]
    split
    · next none => cases comma.symm.trans none
    · next character tail found =>
      obtain ⟨rfl, rfl⟩ := List.cons.inj (comma.symm.trans found)
      rw [if_neg (by decide), if_pos rfl]
      split
      · next none => cases opened.symm.trans none
      · next closed =>
        obtain ⟨closing, _⟩ := List.cons.inj (opened.symm.trans closed)
        exact absurd closing notClosing
      · refine first.bind _ ?_
        intro shorter
        refine inductionHypothesis.bind _ ?_
        intro below
        exact Yields.returned _ rfl

/-- The items of an array are read behind its opening bracket. -/
theorem readItems_texts (items : List (Spelling depth)) (rest : List Char) :
    ∃ inside, arrayText (items.map text) ++ rest = '[' :: inside ∧
      Yields (readItems (readValue depth) inside) (items.map value) rest := by
  cases items with
  | nil =>
    have closing := skipBlanks_cons rest (show isBlank ']' = false from rfl)
    refine ⟨']' :: rest, rfl, ?_⟩
    unfold readItems
    split
    · next none => cases closing.symm.trans none
    · next others found =>
      obtain ⟨_, rfl⟩ := List.cons.inj (closing.symm.trans found)
      exact ⟨_, rfl⟩
    · next notClosing => exact absurd closing (notClosing _)
  | cons item others =>
    have behind := readMoreItems_texts others rest
    have first := item.spells (moreTexts (others.map text) ++ rest) (moreTexts_boundary _ rest)
    obtain ⟨opening, inside, opened, notClosing⟩ := opens_of_yields first
    refine ⟨item.text ++ (moreTexts (others.map text) ++ rest), by simp [arrayText], ?_⟩
    unfold readItems
    split
    · next none => cases opened.symm.trans none
    · next closed =>
      obtain ⟨closing, _⟩ := List.cons.inj (opened.symm.trans closed)
      exact absurd closing notClosing
    · refine first.bind _ ?_
      intro shorter
      refine behind.bind _ ?_
      intro below
      exact Yields.returned _ rfl

/-- An array is spelled one level above its items. -/
def array (items : List (Spelling depth)) : Spelling (depth + 1) where
  text := arrayText (items.map text)
  value := .array (items.map value)
  spells := by
    intro rest _
    obtain ⟨inside, written, read⟩ := readItems_texts items rest
    have start := skipBlanks_cons inside (show isBlank '[' = false from rfl)
    rw [written]
    unfold readValue
    split
    · next none => cases start.symm.trans none
    · next first others found =>
      obtain ⟨rfl, rfl⟩ := List.cons.inj (start.symm.trans found)
      rw [if_pos rfl]
      exact read.map _ _ (fun _ => rfl) (fun _ => rfl)

end Spelling

/-- What is read from all of a text is what the text denotes. -/
theorem read_of_yields {text : List Char} {value : Value}
    (reads : Yields (readValue maxDepth text) value []) : read (String.ofList text) = .ok value := by
  obtain ⟨shorter, taken⟩ := reads
  have document : readDocument text = .ok value := by
    unfold readDocument
    rw [taken]
    rfl
  rw [read, String.toList_ofList, document]
  rfl

/-- A text that spells a value denotes it. -/
theorem Spelling.read_text (spelling : Spelling maxDepth) :
    read (String.ofList spelling.text) = .ok spelling.value := by
  have reads := spelling.spells [] boundary_nil
  rw [List.append_nil] at reads
  exact read_of_yields reads

end ExchangeWallet.Json
