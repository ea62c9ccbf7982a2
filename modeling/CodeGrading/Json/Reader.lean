import CodeGrading.Json.Value
import CodeGrading.Number.Decimal

/-!
Reading JSON text.

Each reader takes the characters that are left and gives back what it read with the characters
after it; no characters after it means that the text has stopped being JSON. Documents may nest
127 levels deep; a deeper one is well formed but unreadable.
-/

namespace CodeGrading.Json

/-- The blanks of JSON. -/
def isSpace (c : Char) : Bool :=
  c == ' ' || c == '\n' || c == '\t' || c == '\r'

def skipSpaces (cs : List Char) : List Char :=
  cs.dropWhile isSpace

/-! ### Strings -/

/-- A piece of a string: a character, or a UTF-16 unit given by its code. -/
inductive Piece where
  | char (c : Char)
  | unit (code : Nat)
  deriving DecidableEq, Repr

def hexDigit? (c : Char) : Option Nat :=
  if '0' ≤ c ∧ c ≤ '9' then some (c.toNat - '0'.toNat)
  else if 'a' ≤ c ∧ c ≤ 'f' then some (c.toNat - 'a'.toNat + 10)
  else if 'A' ≤ c ∧ c ≤ 'F' then some (c.toNat - 'A'.toNat + 10)
  else none

def hexCode? (a b c d : Char) : Option Nat := do
  return (((← hexDigit? a) * 16 + (← hexDigit? b)) * 16 + (← hexDigit? c)) * 16 + (← hexDigit? d)

/-- The character of a one letter escape. -/
def escaped? : Char → Option Char
  | '"' => some '"'
  | '\\' => some '\\'
  | '/' => some '/'
  | 'b' => some '\x08'
  | 'f' => some '\x0c'
  | 'n' => some '\n'
  | 'r' => some '\r'
  | 't' => some '\t'
  | _ => none

/-- The pieces of a string up to its closing quote. Control characters must be escaped. -/
def readPieces : List Char → Option (List Piece × List Char)
  | [] => none
  | '"' :: cs => some ([], cs)
  | '\\' :: 'u' :: a :: b :: c :: d :: cs => do
    let code ← hexCode? a b c d
    let (ps, rest) ← readPieces cs
    return (.unit code :: ps, rest)
  | '\\' :: e :: cs => do
    let c ← escaped? e
    let (ps, rest) ← readPieces cs
    return (.char c :: ps, rest)
  | '\\' :: [] => none
  | c :: cs => do
    guard (0x20 ≤ c.toNat)
    let (ps, rest) ← readPieces cs
    return (.char c :: ps, rest)

def isHighSurrogate (code : Nat) : Bool :=
  0xD800 ≤ code && code < 0xDC00

def isLowSurrogate (code : Nat) : Bool :=
  0xDC00 ≤ code && code < 0xE000

/-- The text of the pieces; none when half of a surrogate pair stands alone. -/
def assemble : List Piece → Option (List Char)
  | [] => some []
  | .char c :: ps => (assemble ps).map (c :: ·)
  | .unit high :: .unit low :: ps =>
    if isHighSurrogate high then
      if isLowSurrogate low then
        (assemble ps).map (Char.ofNat (0x10000 + (high - 0xD800) * 0x400 + (low - 0xDC00)) :: ·)
      else none
    else if isLowSurrogate high then none
    else (assemble (.unit low :: ps)).map (Char.ofNat high :: ·)
  | .unit code :: ps =>
    if isHighSurrogate code || isLowSurrogate code then none
    else (assemble ps).map (Char.ofNat code :: ·)

/-! ### Numbers -/

def digit (c : Char) : Nat :=
  c.toNat - '0'.toNat

/-- At least one digit. -/
def readDigits (cs : List Char) : Option (List Nat × List Char) :=
  match cs.takeWhile Char.isDigit with
  | [] => none
  | ds => some (ds.map digit, cs.dropWhile Char.isDigit)

/-- The digits after a point; none of them when there is no point. -/
def readFraction : List Char → Option (List Nat × List Char)
  | '.' :: cs => readDigits cs
  | cs => some ([], cs)

def integerOf (digits : List Nat) : Nat :=
  digits.foldl (fun n d => n * 10 + d) 0

/-- The exponent after its letter; none of it when there is no such letter. -/
def readExponent : List Char → Option (Option Int × List Char)
  | c :: cs =>
    if c = 'e' ∨ c = 'E' then
      let (negative, digits) := match cs with
        | '-' :: ds => (true, ds)
        | '+' :: ds => (false, ds)
        | ds => (false, ds)
      (readDigits digits).map fun (ds, rest) =>
        (some (if negative then -(integerOf ds : Int) else integerOf ds), rest)
    else some (none, c :: cs)
  | [] => some (none, [])

/-- The least and the greatest integer that are kept exact. -/
def leastInteger : Int := -0x8000000000000000
def greatestInteger : Int := UInt64.size - 1

/-- The number of a literal. An integer that does not fit 64 bits, and minus zero, are doubles. -/
def numberOf (negative : Bool) (whole fraction : List Nat) (exponent : Option Int) :
    Option Number :=
  let magnitude := integerOf whole
  let i : Int := if negative then -(magnitude : Int) else magnitude
  if fraction.isEmpty ∧ exponent.isNone ∧ leastInteger ≤ i ∧ i ≤ greatestInteger ∧
      ¬(negative ∧ magnitude = 0) then
    some (.integer i)
  else
    (Decimal.Literal.toDouble ⟨negative, whole, fraction, exponent.getD 0⟩).map .double

/-- A number whose sign has been read. A leading zero stands alone. -/
def readMagnitude (negative : Bool) (cs : List Char) : Option (Option Number × List Char) := do
  let (whole, cs) ← readDigits cs
  guard (whole.length = 1 ∨ whole.head? ≠ some 0)
  let (fraction, cs) ← readFraction cs
  let (exponent, cs) ← readExponent cs
  return (numberOf negative whole fraction exponent, cs)

def readNumber : List Char → Option (Option Number × List Char)
  | '-' :: cs => readMagnitude true cs
  | cs => readMagnitude false cs

/-! ### Documents -/

/-- The deepest level of nesting that is readable. -/
def depthLimit : Nat := 127

/-- An array or object, unless it lies too deep. -/
def atLevel (level : Nat) (v : Json) : Json :=
  if level ≤ depthLimit then v
  else .fault (if v.wellFormed then .unreadable else .broken)

/-- A value that is neither array, object nor string. -/
def readScalar : List Char → Json × Option (List Char)
  | 'n' :: 'u' :: 'l' :: 'l' :: cs => (.null, some cs)
  | 't' :: 'r' :: 'u' :: 'e' :: cs => (.bool true, some cs)
  | 'f' :: 'a' :: 'l' :: 's' :: 'e' :: cs => (.bool false, some cs)
  | cs =>
    match readNumber cs with
    | none => (.fault .broken, none)
    | some (none, rest) => (.fault .unreadable, some rest)
    | some (some n, rest) => (.number n, some rest)

/-- The name of a member; it is a string, though perhaps without a text. -/
def readName (cs : List Char) : Option (Option String × List Char) :=
  match skipSpaces cs with
  | '"' :: cs =>
    (readPieces cs).map fun (pieces, rest) => ((assemble pieces).map String.ofList, rest)
  | _ => none

/-- What begins where a member should have its name and has none. -/
def foundForName (cs : List Char) : Option Found :=
  match skipSpaces cs with
  | '[' :: _ => some .list
  | '\x7b' :: _ => some .map
  | cs => (readScalar cs).1.found?

/-- A member; one without a readable name is a fault under the empty name. -/
def member (name : Option String) (v : Json) : String × Json :=
  match name with
  | some name => (name, v)
  | none => ("", .fault (if v.wellFormed then .unreadableName else .misnamed none))

mutual

/-- One value. `fuel` bounds the number of steps and `level` counts the values around it, itself
included. -/
def readValue : Nat → Nat → List Char → Json × Option (List Char)
  | 0, _, _ => (.fault .broken, none)
  | fuel + 1, level, cs =>
    match skipSpaces cs with
    | '[' :: cs =>
      match skipSpaces cs with
      | ']' :: rest => (atLevel level (.array []), some rest)
      | cs =>
        let (items, rest) := readItems fuel level cs
        (atLevel level (.array items), rest)
    | '{' :: cs =>
      match skipSpaces cs with
      | '}' :: rest => (atLevel level (.object []), some rest)
      | cs =>
        let (members, rest) := readMembers fuel level cs
        (atLevel level (.object members), rest)
    | '"' :: cs =>
      match readPieces cs with
      | none => (.fault .broken, none)
      | some (pieces, rest) =>
        match assemble pieces with
        | some text => (.string (String.ofList text), some rest)
        | none => (.fault .unreadable, some rest)
    | cs => readScalar cs

/-- The items of an array, of which there is at least one, and its closing bracket. -/
def readItems : Nat → Nat → List Char → List Json × Option (List Char)
  | 0, _, _ => ([.fault .broken], none)
  | fuel + 1, level, cs =>
    match readValue fuel (level + 1) cs with
    | (v, none) => ([v], none)
    | (v, some rest) =>
      match skipSpaces rest with
      | ',' :: rest =>
        let (vs, rest) := readItems fuel level rest
        (v :: vs, rest)
      | ']' :: rest => ([v], some rest)
      | _ => ([v, .fault .broken], none)

/-- The members of an object, of which there is at least one, and its closing brace. -/
def readMembers : Nat → Nat → List Char → List (String × Json) × Option (List Char)
  | 0, _, _ => ([("", .fault .broken)], none)
  | fuel + 1, level, cs =>
    match readName cs with
    | none => ([("", .fault (.misnamed (foundForName cs)))], none)
    | some (name, rest) =>
      match skipSpaces rest with
      | ':' :: rest =>
        match readValue fuel (level + 1) rest with
        | (v, none) => ([member name v], none)
        | (v, some rest) =>
          match skipSpaces rest with
          | ',' :: rest =>
            let (ms, rest) := readMembers fuel level rest
            (member name v :: ms, rest)
          | '}' :: rest => ([member name v], some rest)
          | _ => ([member name v, ("", .fault .broken)], none)
      | _ => ([member name (.fault .broken)], none)

end

/-- The document that a text begins with, and the text after it. Every step but the first of each
two takes a character, so the fuel never runs out. -/
def read (cs : List Char) : Json × Option (List Char) :=
  readValue (2 * cs.length + 2) 1 cs

end CodeGrading.Json
