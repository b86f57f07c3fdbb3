import ExchangeWallet.Proofs.Decimal.Reading
import ExchangeWallet.Proofs.Text.Runs
/-!
# Texts with an exponent

A text is read by two readers in turn. The positional one refuses every character that it
does not know, so that the mark of an exponent leaves the text to the scientific one. That reads
the base in front of the mark, and moves its point as the exponent says.
-/
namespace ExchangeWallet.Decimal

/-- A text behind the sign that a number has. -/
def signed (negative : Bool) (text : List Char) : List Char :=
  if negative then '-' :: text else text

/-- The sign stands in front of all parts. -/
theorem signed_append (negative : Bool) (front rest : List Char) :
    signed negative (front ++ rest) = signed negative front ++ rest := by
  cases negative <;> rfl

/-- A character that no positional text has behind its sign. -/
def IsForeign (character : Char) : Prop :=
  character.isDigit = false ∧ character ≠ '.' ∧ character ≠ '_'

section Foreign

variable {mark : Char} {text : List Char}

/-- Rounding refuses what follows if that is foreign. -/
theorem Progress.rounded?_of_foreign (progress : Progress) (digit : Nat) (foreign : IsForeign mark)
    (member : mark ∈ text) : progress.rounded? digit text = Option.none := by
  have refused : ¬text.all (fun character => character.isDigit || character == '_') = true := by
    intro accepted
    have admitted := List.all_eq_true.mp accepted mark member
    simp [foreign.1, foreign.2.2] at admitted
  rw [rounded?, if_neg refused]

/-- A foreign character has no digit. -/
theorem digit?_of_foreign (foreign : IsForeign mark) : Numeral.digit? mark = none := by
  rw [Numeral.digit?, foreign.1]
  rfl

/-- Once all places are taken, a foreign character is refused wherever it stands. -/
theorem Progress.settle?_of_foreign (progress : Progress) (foreign : IsForeign mark)
    (member : mark ∈ text) : progress.settle? text = Option.none := by
  induction text with
  | nil => cases member
  | cons character rest inductionHypothesis =>
    rw [settle?]
    rcases List.mem_cons.mp member with rfl | behind
    · rw [if_neg foreign.2.2, digit?_of_foreign foreign]
      rfl
    · split
      · split
        · exact progress.rounded?_of_foreign 0 foreign behind
        · exact inductionHypothesis behind
      · cases Numeral.digit? character with
        | none => rfl
        | some digit => exact progress.rounded?_of_foreign digit foreign behind

/-- A foreign character is refused wherever it stands. -/
theorem Progress.finish?_of_foreign (progress : Progress) (foreign : IsForeign mark)
    (member : mark ∈ text) : progress.finish? text = Option.none := by
  induction text generalizing progress with
  | nil => cases member
  | cons character rest inductionHypothesis =>
    rw [finish?]
    split
    · exact progress.settle?_of_foreign foreign member
    · rcases List.mem_cons.mp member with rfl | behind
      · rw [if_neg foreign.2.1, if_neg foreign.2.2, digit?_of_foreign foreign]
        rfl
      · split
        · split
          · rfl
          · exact inductionHypothesis _ behind
        · split
          · split
            · exact inductionHypothesis _ behind
            · rfl
          · cases Numeral.digit? character with
            | none => rfl
            | some digit =>
              change (if _ then _ else _) = Option.none
              split
              · exact inductionHypothesis _ behind
              · split
                · exact progress.rounded?_of_foreign digit foreign behind
                · rfl

/-- A text with a foreign character behind its sign is not positional. -/
theorem readMagnitude?_of_foreign (negative : Bool) (foreign : IsForeign mark)
    (member : mark ∈ text) : readMagnitude? negative text = none := by
  rw [readMagnitude?, Progress.none.finish?_of_foreign foreign member]
  rfl

end Foreign

/-- A text that begins with a digit is read with the sign in front of it. -/
theorem read?_signed (negative : Bool) {character : Char} (rest : List Char)
    (digit : character.isDigit) :
    read? (signed negative (character :: rest)) = readMagnitude? negative (character :: rest) := by
  cases negative with
  | true => rfl
  | false => exact read?_of_digit rest digit

section Exponent

/-- A mark of an exponent is foreign to positional texts. -/
theorem isForeign_of_mark {mark : Char} (marks : isExponentMark mark = true) :
    IsForeign mark ∧ mark ≠ '-' := by
  rw [isExponentMark, Bool.or_eq_true, beq_iff_eq, beq_iff_eq] at marks
  rcases marks with rfl | rfl
  · exact ⟨⟨by decide, by decide, by decide⟩, by decide⟩
  · exact ⟨⟨by decide, by decide, by decide⟩, by decide⟩

/-- Neither a digit nor the point opens an exponent, nor does the sign. -/
theorem isExponentMark_of_plain {character : Char}
    (plain : character.isDigit ∨ character = '.' ∨ character = '-') :
    isExponentMark character = false := by
  rw [← Bool.not_eq_true]
  intro marks
  obtain ⟨⟨notDigit, notPoint, _⟩, notMinus⟩ := isForeign_of_mark marks
  rcases plain with digit | point | minus
  · exact absurd (digit.symm.trans notDigit) (by decide)
  · exact notPoint point
  · exact notMinus minus

/-- The base of a scientific text ends where the mark of the exponent stands. -/
theorem base_until_mark {base : List Char}
    (unmarked : ∀ character ∈ base, isExponentMark character = false) {mark : Char}
    (marks : isExponentMark mark = true) (exponent : List Char) :
    (base ++ mark :: exponent).takeWhile (fun character => !isExponentMark character) = base ∧
      (base ++ mark :: exponent).dropWhile (fun character => !isExponentMark character) =
        mark :: exponent := by
  apply Text.takeWhile_run
  · intro character member
    rw [unmarked character member]
    rfl
  · intro character first
    obtain rfl := Option.some.inj first
    rw [marks]
    rfl

/-- Moves the point of a decimal as the text of an exponent behind its mark says. -/
def movePoint? (decimal : Decimal) : List Char → Option Decimal
  | '-' :: digits => (Numeral.naturalBelow? (2 ^ 32) digits).bind decimal.shiftLeft?
  | digits => (Numeral.naturalBelow? (2 ^ 32) digits).bind decimal.shiftRight?

variable {base : List Char} (unmarked : ∀ character ∈ base, isExponentMark character = false)

include unmarked

/-- An exponent moves the point of the base. -/
theorem readScientific?_of_mark {mark : Char} (marks : isExponentMark mark = true)
    (exponent : List Char) :
    readScientific? (base ++ mark :: exponent) =
      (read? base).bind fun decimal => decimal.movePoint? exponent := by
  obtain ⟨taken, dropped⟩ := base_until_mark unmarked marks exponent
  rw [readScientific?, dropped, taken]
  cases read? base with
  | none => rfl
  | some decimal => rfl

end Exponent

end ExchangeWallet.Decimal
