/-!
# Ranges of code points

A class of characters is given by ranges of code points in ascending order, both
ends belonging to a range.
-/
namespace ExchangeWallet.Text

/-- The first and the last code point of a range. -/
abbrev CodeRange :=
  Nat × Nat

/-- Whether a character lies in a range. -/
def CodeRange.contains (range : CodeRange) (character : Char) : Bool :=
  range.1 ≤ character.toNat && character.toNat ≤ range.2

end ExchangeWallet.Text
