import ExchangeWallet.Decimal.Reader
import ExchangeWallet.Proofs.Decimal.Value
/-!
# Positional texts read exactly

Digits are taken up one after the other, in front of the point and behind it. As long as
their number fits 96 bits and those behind the point fit 28 places, none is rounded away.
So a text of digits around a point is read to just the decimal that it writes, and the text
of any decimal is read back to it, but for the sign of zero.
-/
namespace ExchangeWallet.Decimal

namespace Progress

section Digit

variable {progress : Progress} {character : Char} (rest : List Char) (digit : character.isDigit)

include digit

/-- While there are places, a digit is taken up if it fits, and one that does not fit rounds
behind the point only. -/
theorem finish?_step (places : progress.scale ≠ maxScale) :
    progress.finish? (character :: rest) =
      if 10 * progress.coefficient + (character.toNat - '0'.toNat) < 2 ^ 96 then
        (progress.push (character.toNat - '0'.toNat)).finish? rest
      else if progress.pointed then progress.rounded? (character.toNat - '0'.toNat) rest
      else Option.none := by
  rw [finish?, if_neg places, if_neg (Numeral.ne_of_isDigit digit rfl),
    if_neg (Numeral.ne_of_isDigit digit rfl), Numeral.digit?_of_isDigit digit]
  rfl

/-- Once all places are taken, a digit rounds. -/
theorem finish?_settled (all : progress.scale = maxScale) :
    progress.finish? (character :: rest) =
      progress.rounded? (character.toNat - '0'.toNat) rest := by
  rw [finish?, if_pos all, settle?, if_neg (Numeral.ne_of_isDigit digit rfl),
    Numeral.digit?_of_isDigit digit]
  rfl

/-- A digit that fits is taken up. -/
theorem finish?_digit (places : progress.scale < maxScale)
    (fits : 10 * progress.coefficient + (character.toNat - '0'.toNat) < 2 ^ 96) :
    progress.finish? (character :: rest) =
      (progress.push (character.toNat - '0'.toNat)).finish? rest := by
  rw [finish?_step rest digit (Nat.ne_of_lt places), if_pos fits]

end Digit

/-- Digits in front of the point are taken up, up to what follows them. -/
theorem finish?_whole (digits rest : List Char) (coefficient : Nat) (started : Bool)
    (areDigits : ∀ character ∈ digits, character.isDigit)
    (fits : Nat.ofDigitChars 10 digits coefficient < 2 ^ 96) :
    (Progress.mk coefficient 0 false started).finish? (digits ++ rest) =
      (Progress.mk (Nat.ofDigitChars 10 digits coefficient) 0 false
        (started || !digits.isEmpty)).finish? rest := by
  induction digits generalizing coefficient started with
  | nil => simp
  | cons character others inductionHypothesis =>
    rw [Nat.ofDigitChars_cons] at fits ⊢
    have room := Nat.lt_of_le_of_lt (Numeral.le_ofDigitChars others _) fits
    rw [List.cons_append, finish?_digit _ (areDigits character (by simp)) (Nat.zero_lt_succ 27) room]
    have behind := inductionHypothesis _ true
      (fun other member => areDigits other (by simp [member])) fits
    simpa [push] using behind

/-- Digits behind the point are taken up, up to the end of the text. -/
theorem finish?_fraction (digits : List Char) (coefficient scale : Nat)
    (areDigits : ∀ character ∈ digits, character.isDigit)
    (fits : Nat.ofDigitChars 10 digits coefficient < 2 ^ 96)
    (places : scale + digits.length ≤ maxScale) :
    (Progress.mk coefficient scale true true).finish? digits =
      some (Nat.ofDigitChars 10 digits coefficient, scale + digits.length) := by
  induction digits generalizing coefficient scale with
  | nil => simp [finish?]
  | cons character others inductionHypothesis =>
    rw [Nat.ofDigitChars_cons] at fits ⊢
    rw [List.length_cons] at places ⊢
    have room := Nat.lt_of_le_of_lt (Numeral.le_ofDigitChars others _) fits
    rw [finish?_digit _ (areDigits character (by simp)) (show scale < maxScale by omega) room]
    have behind := inductionHypothesis _ (scale + 1)
      (fun other member => areDigits other (by simp [member])) fits (by omega)
    rw [show scale + (others.length + 1) = scale + 1 + others.length by omega]
    simpa [push] using behind

end Progress

/-- The parts of a decimal are within bounds. -/
theorem ofParts?_self (decimal : Decimal) :
    ofParts? decimal.negative decimal.coefficient decimal.scale = some decimal :=
  dif_pos ⟨decimal.coefficient_lt, decimal.scale_le⟩

section Magnitude

variable (negative : Bool) {whole fraction : List Char}

/-- Digits alone are read as their number, if it fits. -/
theorem readMagnitude?_whole (nonempty : whole ≠ [])
    (areDigits : ∀ character ∈ whole, character.isDigit)
    (fits : Nat.ofDigitChars 10 whole 0 < 2 ^ 96) :
    readMagnitude? negative whole =
      ofParts? (negative && Nat.ofDigitChars 10 whole 0 != 0) (Nat.ofDigitChars 10 whole 0) 0 := by
  have taken := Progress.finish?_whole whole [] 0 false areDigits fits
  have ended : Progress.none.finish? whole = some (Nat.ofDigitChars 10 whole 0, 0) := by
    rw [List.append_nil] at taken
    simp [Progress.none, taken, Progress.finish?, nonempty]
  rw [readMagnitude?, ended]
  rfl

/-- Digits around a point are read as their number over as many places as stand behind the
point, if both fit. -/
theorem readMagnitude?_point (nonempty : whole ≠ [])
    (areDigits : ∀ character ∈ whole ++ fraction, character.isDigit)
    (fits : Nat.ofDigitChars 10 (whole ++ fraction) 0 < 2 ^ 96)
    (places : fraction.length ≤ maxScale) :
    readMagnitude? negative (whole ++ '.' :: fraction) =
      ofParts? (negative && Nat.ofDigitChars 10 (whole ++ fraction) 0 != 0)
        (Nat.ofDigitChars 10 (whole ++ fraction) 0) fraction.length := by
  rw [Nat.ofDigitChars_append] at fits ⊢
  have wholeFits := Nat.lt_of_le_of_lt (Numeral.le_ofDigitChars fraction _) fits
  have taken := Progress.finish?_whole whole ('.' :: fraction) 0 false
    (fun character member => areDigits character (List.mem_append_left _ member)) wholeFits
  have behind := Progress.finish?_fraction fraction (Nat.ofDigitChars 10 whole 0) 0
    (fun character member => areDigits character (List.mem_append_right _ member)) fits
    (by omega)
  have ended : Progress.none.finish? (whole ++ '.' :: fraction) =
      some (Nat.ofDigitChars 10 fraction (Nat.ofDigitChars 10 whole 0), fraction.length) := by
    have started : (false || !whole.isEmpty) = true := by simp [nonempty]
    rw [Progress.none, taken, started, Progress.finish?]
    simpa [maxScale] using behind
  rw [readMagnitude?, ended]
  rfl

end Magnitude

/-- A text that begins with a digit has no sign. -/
theorem read?_of_digit {character : Char} (rest : List Char) (digit : character.isDigit) :
    read? (character :: rest) = readMagnitude? false (character :: rest) := by
  unfold read?
  split
  · next same => exact absurd (List.cons.inj same).1 (Numeral.ne_of_isDigit digit rfl)
  · next same => exact absurd (List.cons.inj same).1 (Numeral.ne_of_isDigit digit rfl)
  · rfl

/-- Without its sign, the text of a decimal is read as its coefficient and scale. -/
theorem readMagnitude?_unsignedText (negative : Bool) (decimal : Decimal) :
    readMagnitude? negative decimal.unsignedText =
      ofParts? (negative && decimal.coefficient != 0) decimal.coefficient decimal.scale := by
  have longer := decimal.scale_lt_length_digits
  have value := decimal.digits_value
  have fits := decimal.coefficient_lt
  rw [unsignedText]
  split
  · next whole =>
    have nonempty : decimal.digits ≠ [] := List.ne_nil_of_length_pos (by omega)
    rw [readMagnitude?_whole negative nonempty decimal.digits_areDigits (by rwa [value]), value,
      whole]
  · have nonempty : decimal.digits.take (decimal.digits.length - decimal.scale) ≠ [] := by
      rw [← List.length_pos_iff, List.length_take]
      omega
    have places : (decimal.digits.drop (decimal.digits.length - decimal.scale)).length =
        decimal.scale := by
      rw [List.length_drop]
      omega
    have joined := List.take_append_drop (decimal.digits.length - decimal.scale) decimal.digits
    rw [readMagnitude?_point negative nonempty (by rw [joined]; exact decimal.digits_areDigits)
      (by rwa [joined, value]) (by rw [places]; exact decimal.scale_le), joined, value, places]

/-- The text of a decimal is read back to it, unless it is a zero with a sign. -/
theorem read?_text {decimal : Decimal} (signed : decimal.negative = true → decimal.coefficient ≠ 0) :
    read? decimal.text = some decimal := by
  have written : decimal.text =
      if decimal.negative then '-' :: decimal.unsignedText else decimal.unsignedText := rfl
  rw [written, ← ofParts?_self decimal]
  cases negative : decimal.negative with
  | true =>
    have kept : (true && decimal.coefficient != 0) = true := by simp [signed negative]
    change readMagnitude? true decimal.unsignedText = _
    rw [readMagnitude?_unsignedText, kept]
  | false =>
    obtain ⟨first, rest, opening, digit⟩ := decimal.unsignedText_leading
    change read? decimal.unsignedText = _
    rw [opening, read?_of_digit rest digit, ← opening, readMagnitude?_unsignedText]
    rfl

end ExchangeWallet.Decimal
