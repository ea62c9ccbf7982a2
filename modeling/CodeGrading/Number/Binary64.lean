/-!
Finite doubles as exact numbers.

A double is `significand · 2 ^ exponent` with a sign, so every question about one is a question
about integers. `ofRatio` rounds a quotient to the nearest double, a tie to the even neighbour;
multiplication and division are exact operations followed by that rounding.
-/

namespace CodeGrading

/-- A finite double in canonical form: the significand has 53 bits unless the exponent is the
least one. -/
structure Binary64 where
  negative : Bool
  significand : Nat
  exponent : Int
  deriving DecidableEq, Repr

namespace Binary64

/-- The exponent of the subnormal numbers. -/
def leastExponent : Int := -1074

/-- The exponent of the largest finite doubles. -/
def greatestExponent : Int := 971

/-- The number of bits of a significand. -/
def precision : Nat := 53

def zero (negative : Bool) : Binary64 :=
  ⟨negative, 0, leastExponent⟩

/-- The quotient `num / den` divided by `2 ^ shift`, again as a quotient. -/
def shifted (num den : Nat) : Int → Nat × Nat
  | .ofNat shift => (num, den * Nat.pow 2 shift)
  | .negSucc shift => (num * Nat.pow 2 (shift + 1), den)

/-- The quotient rounded to the nearest integer, a tie to the even one. -/
def halfEven (num den : Nat) : Nat :=
  let whole := num / den
  let rest := num % den
  if 2 * rest < den then whole
  else if den < 2 * rest then whole + 1
  else if whole % 2 = 0 then whole else whole + 1

/-- The exponent `e` with `2 ^ e ≤ num / den < 2 ^ (e + 1)`, for a positive quotient. -/
def binaryExponent (num den : Nat) : Int :=
  let estimate : Int := (Nat.log2 num : Int) - (Nat.log2 den : Int)
  let scaled := shifted num den estimate
  if scaled.2 ≤ scaled.1 then estimate else estimate - 1

/-- The double nearest to `num / den`; none when it would be infinite. -/
def ofRatio (negative : Bool) (num den : Nat) : Option Binary64 :=
  if num = 0 then some (zero negative)
  else
    let exponent := max leastExponent (binaryExponent num den - 52)
    let scaled := shifted num den exponent
    let rounded := halfEven scaled.1 scaled.2
    let carried := rounded = Nat.pow 2 precision
    let significand := if carried then Nat.pow 2 (precision - 1) else rounded
    let exponent := if carried then exponent + 1 else exponent
    if greatestExponent < exponent then none else some ⟨negative, significand, exponent⟩

/-- The magnitude as a quotient. -/
def ratio (x : Binary64) : Nat × Nat :=
  match x.exponent with
  | .ofNat e => (x.significand * Nat.pow 2 e, 1)
  | .negSucc e => (x.significand, Nat.pow 2 (e + 1))

def mul (x y : Binary64) : Option Binary64 :=
  ofRatio (x.negative != y.negative) (x.ratio.1 * y.ratio.1) (x.ratio.2 * y.ratio.2)

/-- Division by a nonzero double. -/
def div (x y : Binary64) : Option Binary64 :=
  ofRatio (x.negative != y.negative) (x.ratio.1 * y.ratio.2) (x.ratio.2 * y.ratio.1)

/-- The double nearest to an integer below `2 ^ 1024` in magnitude. -/
def ofInt? (i : Int) : Option Binary64 :=
  ofRatio (decide (i < 0)) i.natAbs 1

def isZero (x : Binary64) : Bool :=
  x.significand == 0

/-- The number is at least one. -/
def atLeastOne (x : Binary64) : Bool :=
  !x.negative && x.ratio.2 ≤ x.ratio.1

end Binary64

end CodeGrading
