import ExchangeWallet.Json.Printer
import ExchangeWallet.Json.Reader
import ExchangeWallet.Proofs.Numerals
import ExchangeWallet.Proofs.Text.Runs
/-!
# Strings and numbers read back

Each reader of a token takes the text that the printer writes for it back to the
token, and leaves what stands behind. A string may be followed by anything, since
its closing quote ends it. A number has no end of its own and needs a boundary, a
character that is neither a digit nor a mark of a fraction or exponent.

The results of readers carry bounds on the length of the rest. `Yields` leaves these
aside, so that the laws below speak of the value and the rest alone.
-/
namespace ExchangeWallet.Json

/-- A reader comes to a value and leaves a rest. -/
def Yields {α : Type} {bound : Nat} (result : Except Stop (Parsed α bound)) (value : α)
    (rest : List Char) : Prop :=
  ∃ shorter, result = .ok ⟨value, rest, shorter⟩

/-- A result at hand yields its value and its rest. -/
theorem Yields.returned {α : Type} {bound : Nat} {value : α} (parsed : Parsed α bound)
    (same : parsed.value = value) : Yields (.ok parsed) value parsed.rest :=
  ⟨parsed.shorter, by rw [← same]⟩

/-- A change of the result that keeps the rest is a change of the value. -/
theorem Yields.map {α β : Type} {bound larger : Nat} {result : Except Stop (Parsed α bound)}
    {value : α} {rest : List Char} (read : Yields result value rest)
    (change : Parsed α bound → Parsed β larger) (changed : β)
    (sameRest : ∀ shorter, (change ⟨value, rest, shorter⟩).rest = rest)
    (sameValue : ∀ shorter, (change ⟨value, rest, shorter⟩).value = changed) :
    Yields (result.map change) changed rest := by
  obtain ⟨shorter, rfl⟩ := read
  have yielded := Yields.returned (change ⟨value, rest, shorter⟩) (sameValue shorter)
  rw [sameRest shorter] at yielded
  exact yielded

/-- A reader that goes on behind another one yields what its second part does. -/
theorem Yields.bind {α β : Type} {bound larger : Nat} {result : Except Stop (Parsed α bound)}
    {value : α} {rest tail : List Char} {changed : β} (read : Yields result value rest)
    (next : Parsed α bound → Except Stop (Parsed β larger))
    (follows : ∀ shorter, Yields (next ⟨value, rest, shorter⟩) changed tail) :
    Yields (result >>= next) changed tail := by
  obtain ⟨shorter, rfl⟩ := read
  exact follows shorter

/-- A character that is not blank is not skipped. -/
theorem skipBlanks_cons {character : Char} (rest : List Char)
    (visible : isBlank character = false) :
    skipBlanks (character :: rest) = character :: rest := by
  simp [skipBlanks, visible]

/-- A word is read to its end. -/
theorem readWord_self (word rest : List Char) : Yields (readWord word (word ++ rest)) () rest := by
  induction word with
  | nil => exact ⟨Nat.lt_succ_self _, by simp [readWord]⟩
  | cons letter letters inductionHypothesis =>
    rw [List.cons_append, readWord, if_pos rfl]
    exact inductionHypothesis.map _ _ (fun _ => rfl) (fun _ => rfl)

/-- The closing quote ends a string. -/
theorem readString_closing (rest : List Char) : Yields (readString ('"' :: rest)) [] rest := by
  rw [readString, if_pos rfl]
  exact ⟨by simp, rfl⟩

/-- A backslash puts the character of its escape in front of the others. -/
theorem readString_escaped {text rest tail others : List Char} {character : Char}
    (escaped : Yields (readEscape text) character rest)
    (behind : Yields (readString rest) others tail) :
    Yields (readString ('\\' :: text)) (character :: others) tail := by
  rw [readString, if_neg (by decide), if_pos rfl]
  refine escaped.bind _ ?_
  intro shorter
  refine behind.bind _ ?_
  intro below
  exact ⟨_, rfl⟩

/-- A character that needs no escape stands for itself. -/
theorem readString_plain {character : Char} {rest tail others : List Char}
    (notQuote : character ≠ '"') (notBackslash : character ≠ '\\')
    (notControl : ¬character.toNat < 0x20) (behind : Yields (readString rest) others tail) :
    Yields (readString (character :: rest)) (character :: others) tail := by
  rw [readString, if_neg notQuote, if_neg notBackslash, if_neg notControl]
  refine behind.bind _ ?_
  intro below
  exact ⟨_, rfl⟩

/-- A short escape stands for the character that it names. -/
theorem readEscape_short {name character : Char} (rest : List Char) (notCode : name ≠ 'u')
    (named : shortEscape? name = some character) :
    Yields (readEscape (name :: rest)) character rest := by
  refine ⟨by simp, ?_⟩
  simp [readEscape, notCode, named]

/-- The printed hexadecimal digits have their values. -/
theorem hexDigit_digitChar : ∀ digit < 16, hexDigit? (Nat.digitChar digit) = some digit := by
  decide

/-- The four digits of a control character give its code. -/
theorem hexQuad_control {code : Nat} (rest : List Char) (control : code < 0x20) :
    hexQuad? ('0' :: '0' :: Nat.digitChar (code / 16) :: Nat.digitChar (code % 16) :: rest) =
      some (code, rest) := by
  have zero : hexDigit? '0' = some 0 := by decide
  have high := hexDigit_digitChar (code / 16) (by omega)
  have low := hexDigit_digitChar (code % 16) (by omega)
  have joined : code / 16 * 16 + code % 16 = code := by omega
  simp [hexQuad?, zero, high, low, joined]

/-- Digits that give a unit are read to it. -/
theorem readHexQuad_of_hexQuad {text rest : List Char} {unit : Nat}
    (digits : hexQuad? text = some (unit, rest)) : Yields (readHexQuad text) unit rest := by
  unfold readHexQuad
  split
  · next found =>
    obtain ⟨rfl, rfl⟩ := Prod.mk.inj (Option.some.inj (digits.symm.trans found))
    exact ⟨_, rfl⟩
  · next missing => cases digits.symm.trans missing

/-- The code of a control character is read to the character. It is no half of a
pair, so no second escape is asked for. -/
theorem readEscape_control {code : Nat} (rest : List Char) (control : code < 0x20) :
    Yields (readEscape ('u' :: '0' :: '0' :: Nat.digitChar (code / 16) ::
      Nat.digitChar (code % 16) :: rest)) (Char.ofNat code) rest := by
  have point : Yields (readCodePoint ('0' :: '0' :: Nat.digitChar (code / 16) ::
      Nat.digitChar (code % 16) :: rest)) (Char.ofNat code) rest := by
    refine (readHexQuad_of_hexQuad (hexQuad_control rest control)).bind _ ?_
    intro shorter
    rw [if_neg (by simp; omega), if_neg (by simp; omega)]
    exact ⟨shorter, rfl⟩
  rw [readEscape, if_pos rfl]
  exact point.map _ _ (fun _ => rfl) (fun _ => rfl)

/-- A character is written by a short name, by its code, or as itself. -/
theorem escape_forms (character : Char) :
    (∃ name, escape character = ['\\', name] ∧ name ≠ 'u' ∧
        shortEscape? name = some character) ∨
      (character.toNat < 0x20 ∧ escape character =
        ['\\', 'u', '0', '0', Nat.digitChar (character.toNat / 16),
          Nat.digitChar (character.toNat % 16)]) ∨
      (character ≠ '"' ∧ character ≠ '\\' ∧ ¬character.toNat < 0x20 ∧
        escape character = [character]) := by
  unfold escape
  split
  · next quote => exact .inl ⟨'"', rfl, by decide, by rw [quote]; rfl⟩
  split
  · next backslash => exact .inl ⟨'\\', rfl, by decide, by rw [backslash]; rfl⟩
  split
  · next backspace => exact .inl ⟨'b', rfl, by decide, by rw [backspace]; rfl⟩
  split
  · next tab => exact .inl ⟨'t', rfl, by decide, by rw [tab]; rfl⟩
  split
  · next lineFeed => exact .inl ⟨'n', rfl, by decide, by rw [lineFeed]; rfl⟩
  split
  · next formFeed => exact .inl ⟨'f', rfl, by decide, by rw [formFeed]; rfl⟩
  split
  · next carriage => exact .inl ⟨'r', rfl, by decide, by rw [carriage]; rfl⟩
  split
  · next control => exact .inr (.inl ⟨control, rfl⟩)
  · next quote backslash _ _ _ _ _ control => exact .inr (.inr ⟨quote, backslash, control, rfl⟩)

/-- The text of a character is read to the character, in each of its forms. -/
theorem readString_escape {rest tail others : List Char} (character : Char)
    (behind : Yields (readString rest) others tail) :
    Yields (readString (escape character ++ rest)) (character :: others) tail := by
  rcases escape_forms character with ⟨name, written, notCode, named⟩ | ⟨control, written⟩ |
    ⟨notQuote, notBackslash, notControl, written⟩
  · rw [written]
    exact readString_escaped (readEscape_short rest notCode named) behind
  · have code := readEscape_control rest control
    rw [Char.ofNat_toNat] at code
    rw [written]
    exact readString_escaped code behind
  · rw [written]
    exact readString_plain notQuote notBackslash notControl behind

/-- Any characters at all read back from the text of a string. -/
theorem readString_flatMap_escape (characters rest : List Char) :
    Yields (readString (characters.flatMap escape ++ '"' :: rest)) characters rest := by
  induction characters with
  | nil => exact readString_closing rest
  | cons character others inductionHypothesis =>
    rw [List.flatMap_cons, List.append_assoc]
    exact readString_escape character inductionHypothesis

/-- What may stand behind a value: the end of the text, of an array or of an object,
or a comma. -/
def Boundary (rest : List Char) : Prop :=
  ∀ character ∈ rest.head?, character = ',' ∨ character = ']' ∨ character = '}'

/-- The end of the text is a boundary. -/
theorem boundary_nil : Boundary [] :=
  fun _ leading => nomatch leading

/-- A run of digits ends at a boundary. -/
theorem digits_until_boundary {digits rest : List Char}
    (areDigits : ∀ character ∈ digits, character.isDigit) (boundary : Boundary rest) :
    (digits ++ rest).takeWhile Char.isDigit = digits ∧
      (digits ++ rest).dropWhile Char.isDigit = rest := by
  refine Text.takeWhile_run areDigits ?_
  intro character next
  rcases boundary character next with rfl | rfl | rfl <;> decide

/-- Digits whose number fits 64 bits are all taken up, and raise no power of ten. -/
theorem foldl_pushWhole (digits : List Char) (value : Nat)
    (areDigits : ∀ character ∈ digits, character.isDigit)
    (fits : Nat.ofDigitChars 10 digits value < 2 ^ 64) :
    (digits.filterMap Numeral.digit?).foldl Significand.pushWhole ⟨value, 0, false⟩ =
      ⟨Nat.ofDigitChars 10 digits value, 0, false⟩ := by
  induction digits generalizing value with
  | nil => simp
  | cons character rest inductionHypothesis =>
    have digit := Numeral.digit?_of_isDigit (areDigits character (by simp))
    rw [Nat.ofDigitChars_cons] at fits ⊢
    have room : 10 * value + (character.toNat - '0'.toNat) < 2 ^ 64 :=
      Nat.lt_of_le_of_lt (Numeral.le_ofDigitChars rest _) fits
    have pushed : Significand.pushWhole ⟨value, 0, false⟩ (character.toNat - '0'.toNat) =
        ⟨10 * value + (character.toNat - '0'.toNat), 0, false⟩ := by
      simp only [Significand.pushWhole, Significand.hasRoomFor, Bool.not_false, Bool.true_and,
        room, decide_true, if_true]
    rw [List.filterMap_cons_some digit, List.foldl_cons, pushed]
    exact inductionHypothesis _ (fun other member => areDigits other (by simp [member])) fits

/-- The digits of a number that fits 64 bits make that number. -/
theorem ofWhole_naturalText {number : Nat} (fits : number < 2 ^ 64) :
    Significand.ofWhole (Numeral.naturalText number) = ⟨number, 0, false⟩ := by
  have taken := foldl_pushWhole (Numeral.naturalText number) 0
    (Numeral.naturalText_digits number) (by rwa [Numeral.naturalText_value])
  rwa [Numeral.naturalText_value] at taken

/-- At a boundary a number has neither a fraction nor an exponent. -/
theorem readBehindWhole_boundary (negative : Bool) (significand : Significand)
    {rest : List Char} (boundary : Boundary rest) :
    readBehindWhole negative significand rest =
      numberBefore rest (significand.whole? negative) := by
  unfold readBehindWhole
  split
  · next others => simpa using boundary '.' (by simp)
  · next others => simpa using boundary 'e' (by simp)
  · next others => simpa using boundary 'E' (by simp)
  · rfl

/-- The numeral of a number that fits 64 bits is read to the number that its digits
make behind the given sign. -/
theorem readNumber_naturalText (negative : Bool) (number : Nat) (rest : List Char)
    {value : Number} (boundary : Boundary rest) (fits : number < 2 ^ 64)
    (whole : Significand.whole? ⟨number, 0, false⟩ negative = some value) :
    Yields (readNumber negative (Numeral.naturalText number ++ rest)) value rest := by
  obtain ⟨taken, dropped⟩ := digits_until_boundary (Numeral.naturalText_digits number) boundary
  have behind : Yields (readBehindWhole negative ⟨number, 0, false⟩
      ((Numeral.naturalText number ++ rest).dropWhile Char.isDigit)) value rest := by
    rw [dropped, readBehindWhole_boundary negative _ boundary, whole]
    exact ⟨Nat.lt_succ_self _, rfl⟩
  unfold readNumber
  simp only [taken, ofWhole_naturalText fits, Numeral.naturalText_nonempty,
    Numeral.naturalText_leading_zero, if_false, dif_neg, not_false_iff]
  exact behind.map _ _ (fun _ => rfl) (fun _ => rfl)

/-- Digits without a sign make a whole number in range. -/
theorem whole_of_natural (number : Nat)
    (inRange : -(2 ^ 63) ≤ (number : Int) ∧ (number : Int) < 2 ^ 64) :
    Significand.whole? ⟨number, 0, false⟩ false = some (.whole number inRange) := by
  rw [Significand.whole?, if_neg Bool.false_ne_true, if_neg Bool.false_ne_true, Number.ofInt?,
    dif_pos inRange]

/-- Digits behind a minus sign make the negative number, unless they make zero. -/
theorem whole_of_negative (number : Nat)
    (inRange : -(2 ^ 63) ≤ Int.negSucc number ∧ Int.negSucc number < 2 ^ 64) :
    Significand.whole? ⟨number + 1, 0, false⟩ true = some (.whole (.negSucc number) inRange) := by
  rw [Significand.whole?, if_neg Bool.false_ne_true, if_pos rfl, if_neg (Nat.succ_ne_zero number)]
  change (Number.ofInt? (.negSucc number)).or _ = _
  rw [Number.ofInt?, dif_pos inRange, Option.some_or]

end ExchangeWallet.Json
