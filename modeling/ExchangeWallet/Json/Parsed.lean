import ExchangeWallet.Json.Fault
/-!
# Results of reading, blanks and words

A reader takes the text from where its token starts and gives the token's value
with the text behind it, or the place where it stopped. The result carries a bound
on the length of the text behind, so that a reader which repeats a step ends
because the text gets shorter.
-/
namespace ExchangeWallet.Json

/-- A value read from a text, and the rest of the text, which is below a bound. -/
structure Parsed (α : Type) (bound : Nat) where
  value : α
  rest : List Char
  shorter : rest.length < bound

namespace Parsed

/-- The same result under a larger bound. -/
def widen {α : Type} {bound larger : Nat} (parsed : Parsed α bound) (le : bound ≤ larger) :
    Parsed α larger :=
  ⟨parsed.value, parsed.rest, Nat.lt_of_lt_of_le parsed.shorter le⟩

/-- The same rest with another value. -/
def as {α β : Type} {bound : Nat} (parsed : Parsed α bound) (value : β) : Parsed β bound :=
  ⟨value, parsed.rest, parsed.shorter⟩

end Parsed

/-- The blanks between tokens. -/
def isBlank (character : Char) : Bool :=
  character == ' ' || character == '\t' || character == '\n' || character == '\r'

/-- The text behind its leading blanks. -/
def skipBlanks (text : List Char) : List Char :=
  text.dropWhile isBlank

/-- Dropping a leading part does not lengthen a text. -/
theorem length_dropWhile_le (keep : Char → Bool) (text : List Char) :
    (text.dropWhile keep).length ≤ text.length :=
  (List.dropWhile_suffix keep).length_le

/-- Dropping a leading part that is not empty shortens a text. -/
theorem length_dropWhile_lt {keep : Char → Bool} {text : List Char}
    (taken : text.takeWhile keep ≠ []) : (text.dropWhile keep).length < text.length := by
  have parts := congrArg List.length (List.takeWhile_append_dropWhile (p := keep) (l := text))
  have nonempty := List.length_pos_iff.mpr taken
  rw [List.length_append] at parts
  omega

/-- Skipping blanks does not lengthen a text. -/
theorem length_skipBlanks_le (text : List Char) : (skipBlanks text).length ≤ text.length :=
  length_dropWhile_le isBlank text

/-- What stands behind blanks and one more character is shorter than the text. -/
theorem length_lt_of_skipBlanks_eq {text rest : List Char} {character : Char}
    (skipped : skipBlanks text = character :: rest) : rest.length < text.length := by
  have le := length_skipBlanks_le text
  simp [skipped] at le
  omega

/-- A text is below the bound of what stands behind one character more. -/
theorem length_lt_succ (text : List Char) : text.length < text.length + 1 :=
  Nat.lt_succ_self _

/-- The bound of a text is within that of the text with one character more. -/
theorem length_succ_le (text : List Char) : text.length + 1 ≤ text.length + 1 + 1 :=
  Nat.le_succ _

/-- Reads the letters of a word, which stand next. -/
def readWord (word : List Char) (text : List Char) :
    Except Stop (Parsed Unit (text.length + 1)) :=
  match word, text with
  | [], text => .ok ⟨(), text, length_lt_succ text⟩
  | _ :: _, [] => .error (Stop.upon .endInValue [])
  | letter :: letters, character :: rest =>
    if letter = character then
      (readWord letters rest).map fun parsed => parsed.widen (length_succ_le rest)
    else .error (Stop.upon .expectedWord (character :: rest))

end ExchangeWallet.Json
