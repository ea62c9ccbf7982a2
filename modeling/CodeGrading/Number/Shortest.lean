import CodeGrading.Number.Binary64

/-!
The shortest decimal text of a double.

Of all decimals that round to the double the one with the fewest digits is written, of those the
nearest. For each count of digits only the two neighbours of the exact value on that decimal grid
can qualify, so `shortest` tries one grid after the other, the coarsest first.
-/

namespace CodeGrading.Binary64

/-- The exponent `e` with `10 ^ e ≤ num / den < 10 ^ (e + 1)`, for a positive quotient. -/
def decimalExponent (num den : Nat) : Int :=
  let estimate := Int.fdiv (binaryExponent num den * 30103) 100000
  if reaches (estimate + 1) then estimate + 1
  else if reaches estimate then estimate
  else estimate - 1
where
  reaches : Int → Bool
    | .ofNat e => den * Nat.pow 10 e ≤ num
    | .negSucc e => den ≤ num * Nat.pow 10 (e + 1)

/-- The reals that round to a double, and the double itself, over one denominator. -/
structure Interval where
  low : Nat
  value : Nat
  high : Nat
  den : Nat
  /-- The two ends round to the double as well. -/
  closed : Bool

/-- The interval of a nonzero double; below a power of two the neighbour is half as far. -/
def interval (x : Binary64) : Interval :=
  let m := x.significand
  let low := if m = Nat.pow 2 52 ∧ leastExponent < x.exponent then 4 * m - 1 else 4 * m - 2
  match x.exponent - 2 with
  | .ofNat e =>
    ⟨low * Nat.pow 2 e, 4 * m * Nat.pow 2 e, (4 * m + 2) * Nat.pow 2 e, 1, m % 2 = 0⟩
  | .negSucc e => ⟨low, 4 * m, 4 * m + 2, Nat.pow 2 (e + 1), m % 2 = 0⟩

namespace Interval

/-- The interval measured in steps of `10 ^ power`. -/
def onGrid (i : Interval) : Int → Interval
  | .ofNat e => { i with den := i.den * Nat.pow 10 e }
  | .negSucc e =>
    { i with
      low := i.low * Nat.pow 10 (e + 1)
      value := i.value * Nat.pow 10 (e + 1)
      high := i.high * Nat.pow 10 (e + 1) }

def holds (i : Interval) (c : Nat) : Bool :=
  if i.closed then i.low ≤ c * i.den && c * i.den ≤ i.high
  else i.low < c * i.den && c * i.den < i.high

/-- The grid point in the interval nearest to the value; a tie goes to the even one. -/
def gridPoint? (i : Interval) : Option Nat :=
  let below := i.value / i.den
  let above := below + 1
  match i.holds below, i.holds above with
  | false, false => none
  | true, false => some below
  | false, true => some above
  | true, true =>
    let toBelow := i.value - below * i.den
    let toAbove := above * i.den - i.value
    if toBelow < toAbove then some below
    else if toAbove < toBelow then some above
    else if below % 2 = 0 then some below else some above

end Interval

/-- A grid point on the coarsest grid from `power` down that has one, with the power of its grid. -/
def coarsest (i : Interval) (power : Int) : Nat → Nat × Int
  | 0 => (i.value / i.den, 0)
  | finer + 1 =>
    match (i.onGrid power).gridPoint? with
    | some c => (c, power)
    | none => coarsest i (power - 1) finer

/-- The shortest decimal `c · 10 ^ power` that rounds to a nonzero double. -/
def shortest (x : Binary64) : Nat × Int :=
  let i := x.interval
  coarsest i (decimalExponent i.value i.den) 17

def dropTrailingZeros (digits : List Char) : List Char :=
  (digits.reverse.dropWhile (· == '0')).reverse

/-- The digits of a magnitude whose first digit counts `10 ^ exponent`. From `10 ^ -5` up to
`10 ^ 16` they are written with a point and at least one digit on both sides of it, outside of
that with an exponent. -/
def layout (digits : List Char) (exponent : Int) : List Char :=
  if exponent < -5 ∨ 15 < exponent then
    let sign := if exponent < 0 then '-' else '+'
    let tail := 'e' :: sign :: Nat.toDigits 10 exponent.natAbs
    match digits with
    | [d] => d :: tail
    | d :: ds => d :: '.' :: ds ++ tail
    | [] => tail
  else
    match exponent with
    | .ofNat e =>
      let whole := digits.take (e + 1)
      let fraction := digits.drop (e + 1)
      whole ++ List.replicate (e + 1 - whole.length) '0' ++ '.' ::
        (if fraction.isEmpty then ['0'] else fraction)
    | .negSucc e => '0' :: '.' :: List.replicate e '0' ++ digits

/-- The text of a double: the shortest decimal that reads back, never without a point or an
exponent. -/
def toChars (x : Binary64) : List Char :=
  let magnitude :=
    if x.isZero then ['0', '.', '0']
    else
      let (c, power) := x.shortest
      let digits := Nat.toDigits 10 c
      layout (dropTrailingZeros digits) (power + digits.length - 1)
  if x.negative then '-' :: magnitude else magnitude

end CodeGrading.Binary64
