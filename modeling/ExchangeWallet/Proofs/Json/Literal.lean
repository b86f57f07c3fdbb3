import ExchangeWallet.Proofs.Binary64.Rounding
import ExchangeWallet.Proofs.Json.Spelling
/-!
# Numbers as they are written

A number is written with a sign, digits, a fraction and an exponent, of which only the digits
in front of the point have to be there. What is written has an exact value. The reader takes
the digits up into a significand and scales it; whether that keeps the value depends on how
many digits there are and how large the power of ten is.
-/
namespace ExchangeWallet.Json

/-- The sign in front of the digits of an exponent. -/
inductive ExponentSign where
  | absent
  | plus
  | minus
deriving DecidableEq

/-- The text of the sign of an exponent. -/
def ExponentSign.text : ExponentSign → List Char
  | .absent => []
  | .plus => ['+']
  | .minus => ['-']

/-- An exponent as it is written. -/
structure Exponent where
  /-- Whether the mark is a capital letter. -/
  capital : Bool
  sign : ExponentSign
  digits : List Char
  nonempty : digits ≠ []
  areDigits : ∀ character ∈ digits, character.isDigit

namespace Exponent

/-- The text of an exponent. -/
def text (exponent : Exponent) : List Char :=
  (if exponent.capital then 'E' else 'e') :: (exponent.sign.text ++ exponent.digits)

/-- The number that the digits of an exponent make. -/
def size (exponent : Exponent) : Nat :=
  Nat.ofDigitChars 10 exponent.digits 0

/-- Whether an exponent lowers the number. -/
def lowers (exponent : Exponent) : Bool :=
  exponent.sign = .minus

/-- The power of ten that an exponent means. -/
def value (exponent : Exponent) : Int :=
  if exponent.lowers then -exponent.size else exponent.size

end Exponent

/-- A number as it is written. -/
structure Literal where
  negative : Bool
  /-- The digits in front of the point. -/
  whole : List Char
  /-- The digits behind the point, of which there are none without a point. -/
  fraction : List Char
  exponent : Option Exponent
  nonempty : whole ≠ []
  areDigits : ∀ character ∈ whole ++ fraction, character.isDigit
  /-- Zero in front stands alone. -/
  leading : ¬(whole.head? = some '0' ∧ whole.length ≠ 1)

namespace Literal

/-- The digits in front of the point are digits. -/
theorem wholeDigits (literal : Literal) : ∀ character ∈ literal.whole, character.isDigit :=
  fun character member => literal.areDigits character (List.mem_append_left _ member)

/-- The digits behind the point are digits. -/
theorem fractionDigits (literal : Literal) : ∀ character ∈ literal.fraction, character.isDigit :=
  fun character member => literal.areDigits character (List.mem_append_right _ member)

/-- The text of the exponent, if there is one. -/
def exponentText (literal : Literal) : List Char :=
  (literal.exponent.map Exponent.text).getD []

/-- The text behind the digits in front of the point. -/
def behindWhole (literal : Literal) : List Char :=
  (if literal.fraction = [] then [] else '.' :: literal.fraction) ++ literal.exponentText

/-- The text of a number. -/
def text (literal : Literal) : List Char :=
  (if literal.negative then ['-'] else []) ++ (literal.whole ++ literal.behindWhole)

/-- All digits of a number, without the point. -/
def coefficient (literal : Literal) : Nat :=
  Nat.ofDigitChars 10 (literal.whole ++ literal.fraction) 0

/-- The power of ten that the exponent means, if there is one. -/
def raise (literal : Literal) : Int :=
  (literal.exponent.map Exponent.value).getD 0

/-- The power of ten behind the last digit. -/
def power (literal : Literal) : Int :=
  literal.raise - literal.fraction.length

/-- The value of a number, just as it is written. -/
def value (literal : Literal) : ℚ :=
  (if literal.negative then -1 else 1) * (literal.coefficient * 10 ^ literal.power)

/-- The value of a number has the size of its digits at their place. -/
theorem abs_value (literal : Literal) :
    |literal.value| = literal.coefficient * 10 ^ literal.power := by
  have positive : (0 : ℚ) ≤ literal.coefficient * 10 ^ literal.power := by positivity
  rw [value, abs_mul, abs_of_nonneg positive]
  cases literal.negative <;> simp

/-- The number in front of the exponent. -/
def base (literal : Literal) : Literal :=
  { literal with exponent := none }

/-- The exponent raises the number in front of it. -/
theorem value_eq_base (literal : Literal) :
    literal.value = literal.base.value * 10 ^ literal.raise := by
  have power : literal.power = -(literal.fraction.length : Int) + literal.raise := by
    rw [Literal.power]
    omega
  have base : literal.base.power = -(literal.fraction.length : Int) := zero_sub _
  rw [value, value, power, base, zpow_add₀ (by norm_num), ← mul_assoc, ← mul_assoc, ← mul_assoc]
  rfl

end Literal

namespace Significand

/-- The number that a significand makes with an exponent. An exponent beyond its bound makes
zero or nothing. -/
def raised? (significand : Significand) (negative : Bool) (exponent : Exponent) : Option Number :=
  if exponent.size < exponentBound then (significand.shifted exponent.value).real? negative
  else if exponent.lowers = true ∨ significand.value = 0 then some (.real (Binary64.zero negative))
  else none

/-- The number that a significand makes with an exponent or without one. -/
def scaled? (significand : Significand) (negative : Bool) (exponent : Option Exponent) :
    Option Number :=
  match exponent with
  | none => significand.real? negative
  | some exponent => significand.raised? negative exponent

end Significand

/-- The number that a reader takes what is written for. -/
def Literal.number? (literal : Literal) : Option Number :=
  if literal.fraction = [] ∧ literal.exponent = none then
    (Significand.ofWhole literal.whole).whole? literal.negative
  else
    ((Significand.ofWhole literal.whole).withFraction literal.fraction).scaled? literal.negative
      literal.exponent

section Reading

variable {negative : Bool} {significand : Significand} {rest : List Char} {number : Number}

/-- A number that there is stands in front of the rest. -/
theorem numberBefore_some {found : Option Number} (some : found = some number) :
    Yields (numberBefore rest found) number rest := by
  rw [some]
  exact ⟨Nat.lt_succ_self _, rfl⟩

/-- The digits of an exponent are read. -/
theorem readExponentDigits_digits (exponent : Exponent) (boundary : Boundary rest)
    (made : significand.raised? negative exponent = some number) :
    Yields (readExponentDigits negative exponent.lowers significand (exponent.digits ++ rest))
      number rest := by
  obtain ⟨taken, dropped⟩ := digits_until_boundary exponent.areDigits boundary
  rw [Significand.raised?, Exponent.value, Exponent.size] at made
  unfold readExponentDigits
  simp only [taken]
  rw [if_neg exponent.nonempty]
  split at made
  · next small =>
    have behind : Yields (numberBefore ((exponent.digits ++ rest).dropWhile Char.isDigit)
        ((significand.shifted (if exponent.lowers then
          -(Nat.ofDigitChars 10 exponent.digits 0 : Int)
            else Nat.ofDigitChars 10 exponent.digits 0)).real? negative)) number rest := by
      rw [dropped]
      exact numberBefore_some made
    rw [if_pos small]
    exact behind.map _ _ (fun _ => rfl) (fun _ => rfl)
  · next large =>
    split at made
    · next vanishes =>
      rw [if_neg large, if_pos vanishes, ← Option.some.inj made]
      refine ⟨by simp, ?_⟩
      simp [dropped]
    · cases made

/-- Digits without a sign are read as an exponent that raises. -/
theorem readExponent_digits {text : List Char}
    (opening : ∀ character ∈ text.head?, character.isDigit) :
    readExponent negative significand text =
      readExponentDigits negative false significand text := by
  unfold readExponent
  split
  · exact absurd (opening '+' rfl) (by decide)
  · exact absurd (opening '-' rfl) (by decide)
  · rfl

/-- An exponent is read behind its mark, with its sign. -/
theorem readExponent_text (exponent : Exponent) (boundary : Boundary rest)
    (made : significand.raised? negative exponent = some number) :
    Yields (readExponent negative significand (exponent.sign.text ++ exponent.digits ++ rest))
      number rest := by
  have read := readExponentDigits_digits exponent boundary made
  rw [Exponent.lowers] at read
  cases sign : exponent.sign with
  | plus =>
    rw [sign] at read
    exact read.map _ _ (fun _ => rfl) (fun _ => rfl)
  | minus =>
    rw [sign] at read
    exact read.map _ _ (fun _ => rfl) (fun _ => rfl)
  | absent =>
    rw [sign] at read
    obtain ⟨first, others, written⟩ := List.exists_cons_of_ne_nil exponent.nonempty
    have opening : ∀ character ∈ (exponent.digits ++ rest).head?, character.isDigit := by
      intro character leading
      rw [written] at leading
      obtain rfl := Option.some.inj leading
      exact exponent.areDigits first (by simp [written])
    change Yields (readExponent negative significand (exponent.digits ++ rest)) number rest
    rw [readExponent_digits opening]
    exact read

/-- Behind a fraction, an exponent is read if there is one. -/
theorem readScale_text {exponent : Option Exponent} (boundary : Boundary rest)
    (made : significand.scaled? negative exponent = some number) :
    Yields (readScale negative significand ((exponent.map Exponent.text).getD [] ++ rest))
      number rest := by
  cases exponent with
  | none =>
    have plain (text : List Char) (boundary : Boundary text) :
        readScale negative significand text =
          numberBefore text (significand.real? negative) := by
      unfold readScale
      split
      · simpa using boundary 'e' (by simp)
      · simpa using boundary 'E' (by simp)
      · rfl
    change Yields (readScale negative significand rest) number rest
    rw [plain rest boundary]
    exact numberBefore_some made
  | some exponent =>
    have read := readExponent_text exponent boundary made
    change Yields (readScale negative significand
      ((if exponent.capital then 'E' else 'e') ::
        (exponent.sign.text ++ exponent.digits ++ rest))) number rest
    cases exponent.capital with
    | true => exact read.map _ _ (fun _ => rfl) (fun _ => rfl)
    | false => exact read.map _ _ (fun _ => rfl) (fun _ => rfl)

/-- Digits end where an exponent begins, or at a boundary. -/
theorem digits_until_exponent {digits : List Char} (exponent : Option Exponent)
    (areDigits : ∀ character ∈ digits, character.isDigit) (boundary : Boundary rest) :
    let tail := (exponent.map Exponent.text).getD [] ++ rest
    (digits ++ tail).takeWhile Char.isDigit = digits ∧
      (digits ++ tail).dropWhile Char.isDigit = tail := by
  intro tail
  cases exponent with
  | none => exact digits_until_boundary areDigits boundary
  | some exponent =>
    apply Text.takeWhile_run areDigits
    intro character next
    obtain rfl := Option.some.inj next
    cases exponent.capital <;> decide

/-- A fraction is read, and the exponent behind it. -/
theorem readFraction_text {fraction : List Char} {exponent : Option Exponent}
    (nonempty : fraction ≠ []) (areDigits : ∀ character ∈ fraction, character.isDigit)
    (boundary : Boundary rest)
    (made : (significand.withFraction fraction).scaled? negative exponent = some number) :
    Yields (readFraction negative significand
      (fraction ++ ((exponent.map Exponent.text).getD [] ++ rest))) number rest := by
  obtain ⟨taken, dropped⟩ := digits_until_exponent exponent areDigits boundary
  have behind : Yields (readScale negative (significand.withFraction fraction)
      ((fraction ++ ((exponent.map Exponent.text).getD [] ++ rest)).dropWhile Char.isDigit))
      number rest := by
    rw [dropped]
    exact readScale_text boundary made
  unfold readFraction
  simp only [taken]
  rw [if_neg nonempty]
  exact behind.map _ _ (fun _ => rfl) (fun _ => rfl)

end Reading

namespace Literal

variable (literal : Literal) {rest : List Char} {number : Number}

/-- What stands behind the digits in front of the point is read. -/
theorem readBehindWhole_text (boundary : Boundary rest) (made : literal.number? = some number) :
    Yields (readBehindWhole literal.negative (Significand.ofWhole literal.whole)
      (literal.behindWhole ++ rest)) number rest := by
  rw [number?] at made
  rw [behindWhole, exponentText]
  by_cases none : literal.fraction = []
  · rw [if_pos none, List.nil_append]
    cases written : literal.exponent with
    | none =>
      rw [if_pos ⟨none, written⟩] at made
      change Yields (readBehindWhole literal.negative _ rest) number rest
      rw [readBehindWhole_boundary literal.negative _ boundary]
      exact numberBefore_some made
    | some exponent =>
      rw [if_neg (fun plain => by simp [written] at plain), none, written] at made
      -- Whether a digit has been left out does not count where there is an exponent.
      have same : ((Significand.ofWhole literal.whole).withFraction []).raised? literal.negative
          exponent = (Significand.ofWhole literal.whole).raised? literal.negative exponent := rfl
      have read := readExponent_text exponent boundary (same.symm.trans made)
      change Yields (readBehindWhole literal.negative _
        ((if exponent.capital then 'E' else 'e') ::
          (exponent.sign.text ++ exponent.digits ++ rest))) number rest
      cases exponent.capital with
      | true => exact read.map _ _ (fun _ => rfl) (fun _ => rfl)
      | false => exact read.map _ _ (fun _ => rfl) (fun _ => rfl)
  · rw [if_neg (fun plain => none plain.1)] at made
    rw [if_neg none, List.cons_append, List.cons_append, List.append_assoc]
    have read := readFraction_text none literal.fractionDigits boundary made
    exact read.map _ _ (fun _ => rfl) (fun _ => rfl)

/-- What stands behind the digits in front of the point does not begin with one. -/
theorem digits_until_behindWhole (boundary : Boundary rest) :
    (literal.whole ++ (literal.behindWhole ++ rest)).takeWhile Char.isDigit = literal.whole ∧
      (literal.whole ++ (literal.behindWhole ++ rest)).dropWhile Char.isDigit =
        literal.behindWhole ++ rest := by
  rw [behindWhole]
  by_cases none : literal.fraction = []
  · rw [if_pos none, List.nil_append]
    exact digits_until_exponent literal.exponent literal.wholeDigits boundary
  · rw [if_neg none]
    apply Text.takeWhile_run literal.wholeDigits
    intro character next
    obtain rfl := Option.some.inj next
    decide

/-- What is written is read to its number, up to a boundary. -/
theorem readNumber_text (boundary : Boundary rest) (made : literal.number? = some number) :
    Yields (readNumber literal.negative (literal.whole ++ (literal.behindWhole ++ rest))) number
      rest := by
  obtain ⟨taken, dropped⟩ := literal.digits_until_behindWhole boundary
  have behind : Yields (readBehindWhole literal.negative (Significand.ofWhole literal.whole)
      ((literal.whole ++ (literal.behindWhole ++ rest)).dropWhile Char.isDigit)) number rest := by
    rw [dropped]
    exact literal.readBehindWhole_text boundary made
  unfold readNumber
  simp only [taken, literal.nonempty, literal.leading, if_false, dif_neg, not_false_iff]
  exact behind.map _ _ (fun _ => rfl) (fun _ => rfl)

/-- What is written spells its number. -/
theorem spells (depth : Nat) (made : literal.number? = some number) :
    Spells depth literal.text (.number number) := by
  intro rest boundary
  have read := literal.readNumber_text boundary made
  have areDigits := literal.areDigits
  rw [text, List.append_assoc, List.append_assoc]
  cases negative : literal.negative with
  | true =>
    rw [negative] at read
    exact readValue_minus read
  | false =>
    rw [negative] at read
    obtain ⟨first, others, written⟩ := List.exists_cons_of_ne_nil literal.nonempty
    rw [written] at read areDigits ⊢
    exact readValue_digit (areDigits first (by simp)) read

end Literal

section Significands

variable {digits : List Char} {value : Nat}

/-- Digits whose number fits 64 bits are all taken up behind the point, each as a place. -/
theorem foldl_pushFraction (digits : List Char) (value : Nat) (exponent : Int)
    (areDigits : ∀ character ∈ digits, character.isDigit)
    (fits : Nat.ofDigitChars 10 digits value < 2 ^ 64) :
    (digits.filterMap Numeral.digit?).foldl Significand.pushFraction ⟨value, exponent, false⟩ =
      ⟨Nat.ofDigitChars 10 digits value, exponent - digits.length, false⟩ := by
  induction digits generalizing value exponent with
  | nil => simp
  | cons character rest inductionHypothesis =>
    have digit := Numeral.digit?_of_isDigit (areDigits character (by simp))
    rw [Nat.ofDigitChars_cons] at fits ⊢
    have room : 10 * value + (character.toNat - '0'.toNat) < 2 ^ 64 :=
      Nat.lt_of_le_of_lt (Numeral.le_ofDigitChars rest _) fits
    have pushed : Significand.pushFraction ⟨value, exponent, false⟩
        (character.toNat - '0'.toNat) =
          ⟨10 * value + (character.toNat - '0'.toNat), exponent - 1, false⟩ := by
      simp only [Significand.pushFraction, Significand.hasRoomFor, Bool.not_false, Bool.true_and,
        room, decide_true, if_true]
    have places : exponent - ((character :: rest).length : Int) =
        exponent - 1 - (rest.length : Int) := by
      rw [List.length_cons]
      omega
    rw [List.filterMap_cons_some digit, List.foldl_cons, pushed, places]
    exact inductionHypothesis _ _ (fun other member => areDigits other (by simp [member])) fits

end Significands

namespace Literal

variable {literal : Literal}

/-- Digits that fit 64 bits are all taken up. -/
theorem significand_eq (fits : literal.coefficient < 2 ^ 64) :
    Significand.ofWhole literal.whole = ⟨Nat.ofDigitChars 10 literal.whole 0, 0, false⟩ ∧
      (Significand.ofWhole literal.whole).withFraction literal.fraction =
        ⟨literal.coefficient, -literal.fraction.length, false⟩ := by
  rw [coefficient, Nat.ofDigitChars_append] at fits ⊢
  have wholeFits := Nat.lt_of_le_of_lt (Numeral.le_ofDigitChars literal.fraction _) fits
  have whole : Significand.ofWhole literal.whole =
      ⟨Nat.ofDigitChars 10 literal.whole 0, 0, false⟩ :=
    foldl_pushWhole literal.whole 0 literal.wholeDigits wholeFits
  have fraction := foldl_pushFraction literal.fraction _ 0 literal.fractionDigits fits
  rw [zero_sub] at fraction
  refine ⟨whole, ?_⟩
  rw [whole]
  exact fraction

/-- Neither a fraction nor an exponent is written. -/
def IsPlain (literal : Literal) : Prop :=
  literal.fraction = [] ∧ literal.exponent = none

/-- A number without fraction and exponent that fits a word of 64 bits. -/
structure IsWord (literal : Literal) : Prop where
  plain : literal.IsPlain
  inRange : literal.coefficient < if literal.negative then 2 ^ 63 + 1 else 2 ^ 64

/-- A number of at most fifteen digits near the point. -/
structure IsShort (literal : Literal) : Prop where
  digits : literal.coefficient < 10 ^ 15
  near : literal.power.natAbs ≤ 22
  exponent : ∀ exponent ∈ literal.exponent, exponent.size < exponentBound

/-- A number stands for what is written: a whole one is its value, and a floating one has its
sign and covers its magnitude, which has few digits. -/
def IsMet (literal : Literal) : Number → Prop
  | .whole whole _ => (whole : ℚ) = literal.value
  | .real real =>
    literal.IsShort ∧ real.negative = literal.negative ∧
      real.Covers (literal.coefficient * 10 ^ literal.power)

/-- Without fraction and exponent, the value is a signed whole number. -/
theorem IsPlain.value_eq (plain : literal.IsPlain) :
    literal.value = (if literal.negative then -1 else 1) * literal.coefficient := by
  rw [value, power, raise, plain.1, plain.2]
  simp

/-- Scaling the significand meets what is written, if there are few digits. -/
theorem IsShort.real_met (short : literal.IsShort) :
    ∃ real, Binary64.scaled? literal.negative literal.coefficient literal.power = some real ∧
      literal.IsMet (.real real) := by
  have bits53 : literal.coefficient < 2 ^ 53 := short.digits.trans (by decide)
  obtain ⟨real, found, sign, covers⟩ := Binary64.scaled?_covers literal.negative bits53 short.near
  exact ⟨real, found, short, sign, covers⟩

/-- Digits that fit 64 bits, with a fraction or an exponent, are scaled at once. -/
theorem number?_of_point (fits : literal.coefficient < 2 ^ 64) (point : ¬literal.IsPlain)
    (bounded : ∀ exponent ∈ literal.exponent, exponent.size < exponentBound) :
    literal.number? =
      (Binary64.scaled? literal.negative literal.coefficient literal.power).map .real := by
  obtain ⟨_, significand⟩ := significand_eq fits
  rw [number?, if_neg (show ¬(_ ∧ _) from point), significand, power, raise]
  cases written : literal.exponent with
  | none =>
    change _ = Option.map Number.real
      (Binary64.scaled? _ _ (0 - (literal.fraction.length : Int)))
    rw [zero_sub]
    rfl
  | some exponent =>
    change _ = Option.map Number.real
      (Binary64.scaled? _ _ (exponent.value - (literal.fraction.length : Int)))
    rw [sub_eq_neg_add, Significand.scaled?, Significand.raised?,
      if_pos (bounded exponent (Option.mem_def.mpr written))]
    rfl

/-- A short number with a fraction or an exponent is read to one that meets it. -/
theorem IsShort.met (short : literal.IsShort) (point : ¬literal.IsPlain) :
    ∃ number, literal.number? = some number ∧ literal.IsMet number := by
  obtain ⟨real, found, met⟩ := short.real_met
  have fits : literal.coefficient < 2 ^ 64 := short.digits.trans (by decide)
  refine ⟨.real real, ?_, met⟩
  rw [number?_of_point fits point short.exponent, found, Option.map_some]

/-- A word fits 64 bits. -/
theorem IsWord.coefficient_lt (word : literal.IsWord) : literal.coefficient < 2 ^ 64 := by
  have inRange := word.inRange
  split at inRange <;> omega

/-- A short number without fraction and exponent is a word. -/
theorem IsShort.isWord (short : literal.IsShort) (plain : literal.IsPlain) : literal.IsWord := by
  have digits := short.digits
  refine ⟨plain, ?_⟩
  split <;> omega

/-- The digits of a word are taken up as they are. -/
theorem IsWord.number?_eq (word : literal.IsWord) :
    literal.number? =
      (Significand.mk literal.coefficient 0 false).whole? literal.negative := by
  obtain ⟨significand, _⟩ := significand_eq word.coefficient_lt
  rw [number?, if_pos (show _ ∧ _ from word.plain), significand, coefficient, word.plain.1,
    List.append_nil]

/-- A word is read to its whole number, unless it is minus zero. -/
theorem IsWord.exists_whole (word : literal.IsWord)
    (signed : literal.negative = true → literal.coefficient ≠ 0) :
    ∃ whole inRange, literal.number? = some (.whole whole inRange) ∧
      (whole : ℚ) = literal.value := by
  have inRange := word.inRange
  rw [word.number?_eq, word.plain.value_eq]
  cases negative : literal.negative with
  | false =>
    have range : -(2 ^ 63) ≤ (literal.coefficient : Int) ∧ (literal.coefficient : Int) < 2 ^ 64 := by
      have fits := word.coefficient_lt
      omega
    exact ⟨literal.coefficient, range, whole_of_natural _ range, by simp⟩
  | true =>
    rw [negative, if_pos rfl] at inRange
    obtain ⟨less, size⟩ := Nat.exists_eq_succ_of_ne_zero (signed negative)
    rw [size] at inRange ⊢
    have range : -(2 ^ 63) ≤ Int.negSucc less ∧ Int.negSucc less < 2 ^ 64 := by
      omega
    exact ⟨.negSucc less, range, whole_of_negative less range, by simp⟩

/-- Minus zero is a floating number, since no other has its sign. -/
theorem IsWord.exists_real (word : literal.IsWord) (negative : literal.negative = true)
    (zero : literal.coefficient = 0) :
    ∃ real, literal.number? = some (.real real) ∧ literal.IsMet (.real real) := by
  have power : literal.power = 0 := by
    rw [Literal.power, raise, word.plain.1, word.plain.2]
    rfl
  have short : literal.IsShort :=
    ⟨by rw [zero]; decide, by rw [power]; decide, by rw [word.plain.2]; simp⟩
  obtain ⟨real, found, met⟩ := short.real_met
  rw [zero, power, negative] at found
  refine ⟨real, ?_, met⟩
  rw [word.number?_eq, zero, negative, Significand.whole?, if_neg Bool.false_ne_true, if_pos rfl,
    if_pos rfl, Significand.real?, found, Option.map_some]

/-- A word is read to a number that meets it. Minus zero alone is a floating one. -/
theorem IsWord.met (word : literal.IsWord) :
    ∃ number, literal.number? = some number ∧ literal.IsMet number := by
  by_cases signed : literal.negative = true → literal.coefficient ≠ 0
  · obtain ⟨whole, inRange, found, same⟩ := word.exists_whole signed
    exact ⟨.whole whole inRange, found, same⟩
  · push Not at signed
    obtain ⟨real, found, met⟩ := word.exists_real signed.1 signed.2
    exact ⟨.real real, found, met⟩

end Literal

end ExchangeWallet.Json
