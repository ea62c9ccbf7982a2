import CodeGrading.Number.Binary64

/-!
Reading a decimal literal in double arithmetic.

The leading digits that fit 64 bits are taken as one integer and the rest only counted. That
integer is rounded to a double and scaled by a power of ten, at most `10 ^ 308` at a time, and each
step is rounded. A literal whose value leaves the doubles has no value.
-/

namespace CodeGrading.Decimal

/-- The greatest integer that the digits of a literal are gathered into. -/
def greatestInteger : Nat := UInt64.size - 1

/-- The greatest exponent that is evaluated. -/
def greatestExponent : Nat := 0x7FFFFFFF

/-- The digits gathered onto `start` while the result fits, and those left over. -/
def gather (start : Nat) : List Nat → Nat × List Nat
  | [] => (start, [])
  | d :: ds =>
    if start * 10 + d ≤ greatestInteger then gather (start * 10 + d) ds else (start, d :: ds)

def powerOfTen (e : Nat) : Option Binary64 :=
  Binary64.ofRatio false (Nat.pow 10 e) 1

/-- A double times `10 ^ exponent`; `steps` bounds the number of divisions by `10 ^ 308`. -/
def scale (x : Binary64) (exponent : Int) : Nat → Option Binary64
  | 0 => some x
  | steps + 1 =>
    if exponent.natAbs ≤ 308 then do
      let power ← powerOfTen exponent.natAbs
      if 0 ≤ exponent then x.mul power else x.div power
    else if x.isZero then some x
    else if 0 ≤ exponent then none
    else do
      let x ← x.div (← powerOfTen 308)
      scale x (exponent + 308) steps

/-- The double of a significand and a power of ten. Two divisions by `10 ^ 308` leave nothing of a
64 bit integer, so the fourth step is never taken. -/
def toDouble (significand : Nat) (exponent : Int) : Option Binary64 := do
  scale (← Binary64.ofRatio false significand 1) exponent 4

/-- A literal with its parts: the digits before the point, those after it, and the exponent. -/
structure Literal where
  negative : Bool
  whole : List Nat
  fraction : List Nat
  exponent : Int
  deriving DecidableEq, Repr

/-- The double that a literal denotes; none when it is too large. -/
def Literal.toDouble (l : Literal) : Option Binary64 :=
  let (leading, droppedWhole) := gather 0 l.whole
  let (significand, droppedFraction) := gather leading l.fraction
  let point : Int :=
    (droppedWhole.length : Int) - (l.fraction.length - droppedFraction.length : Nat)
  if greatestExponent < l.exponent.natAbs then
    if significand ≠ 0 ∧ 0 < l.exponent then none else some (Binary64.zero l.negative)
  else
    (Decimal.toDouble significand (point + l.exponent)).map fun x =>
      { x with negative := l.negative }

end CodeGrading.Decimal
