import CodeGrading.Text.Blank

/-!
Natural numbers below a bound, read from text.
-/

namespace CodeGrading

/-- The number that digits denote, perhaps after a plus sign. -/
def numeral? (cs : List Char) : Option Nat :=
  let digits := match cs with
    | '+' :: ds => ds
    | ds => ds
  if digits.isEmpty || !digits.all Char.isDigit then none
  else some (Nat.ofDigitChars 10 digits 0)

/-- The number that a text denotes without the blanks around it; none when it is not below the
bound. -/
def natBelow? (bound : Nat) (text : String) : Option Nat :=
  (numeral? (Text.trimChars text.toList)).filter (· < bound)

end CodeGrading
