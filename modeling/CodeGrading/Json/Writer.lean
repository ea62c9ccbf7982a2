import CodeGrading.Json.Value
import CodeGrading.Number.Shortest

/-!
Writing JSON text.

`compact` puts nothing between the tokens; `pretty` puts each item on a line of its own, indented
by two spaces a level. Strings escape quotes, backslashes and control characters and nothing else.
-/

namespace CodeGrading.Json

def hexDigit (n : Nat) : Char :=
  Nat.digitChar (n % 16)

/-- A character as it stands between quotes. -/
def escapeChar (c : Char) : List Char :=
  if c = '"' then ['\\', '"']
  else if c = '\\' then ['\\', '\\']
  else if c = '\x08' then ['\\', 'b']
  else if c = '\x0c' then ['\\', 'f']
  else if c = '\n' then ['\\', 'n']
  else if c = '\r' then ['\\', 'r']
  else if c = '\t' then ['\\', 't']
  else if c.toNat < 0x20 then ['\\', 'u', '0', '0', hexDigit (c.toNat / 16), hexDigit c.toNat]
  else [c]

def quote (s : String) : List Char :=
  '"' :: s.toList.flatMap escapeChar ++ ['"']

def writeInt : Int → List Char
  | .ofNat n => Nat.toDigits 10 n
  | .negSucc n => '-' :: Nat.toDigits 10 (n + 1)

def writeNumber : Number → List Char
  | .integer i => writeInt i
  | .double x => x.toChars

/-- A value that is neither array nor object. A fault has no text and is written as null. -/
def writeScalar : Json → List Char
  | .bool true => ['t', 'r', 'u', 'e']
  | .bool false => ['f', 'a', 'l', 's', 'e']
  | .number n => writeNumber n
  | .string s => quote s
  | _ => ['n', 'u', 'l', 'l']

mutual

def compactChars : Json → List Char
  | .array [] => ['[', ']']
  | .array (v :: vs) => '[' :: compactChars v ++ compactItems vs
  | .object [] => ['\x7b', '\x7d']
  | .object ((name, v) :: ms) => '\x7b' :: quote name ++ ':' :: compactChars v ++ compactMembers ms
  | v => writeScalar v

/-- The items after the first, and the closing bracket. -/
def compactItems : List Json → List Char
  | [] => [']']
  | v :: vs => ',' :: compactChars v ++ compactItems vs

/-- The members after the first, and the closing brace. -/
def compactMembers : List (String × Json) → List Char
  | [] => ['\x7d']
  | (name, v) :: ms => ',' :: quote name ++ ':' :: compactChars v ++ compactMembers ms

end

def newline (depth : Nat) : List Char :=
  '\n' :: List.replicate (2 * depth) ' '

mutual

/-- The text of a value whose line is indented by `depth` levels. -/
def prettyChars (depth : Nat) : Json → List Char
  | .array [] => ['[', ']']
  | .array (v :: vs) =>
    '[' :: newline (depth + 1) ++ prettyChars (depth + 1) v ++ prettyItems depth vs
  | .object [] => ['\x7b', '\x7d']
  | .object ((name, v) :: ms) =>
    '\x7b' :: newline (depth + 1) ++ quote name ++ ':' :: ' ' :: prettyChars (depth + 1) v ++
      prettyMembers depth ms
  | v => writeScalar v

def prettyItems (depth : Nat) : List Json → List Char
  | [] => newline depth ++ [']']
  | v :: vs => ',' :: newline (depth + 1) ++ prettyChars (depth + 1) v ++ prettyItems depth vs

def prettyMembers (depth : Nat) : List (String × Json) → List Char
  | [] => newline depth ++ ['\x7d']
  | (name, v) :: ms =>
    ',' :: newline (depth + 1) ++ quote name ++ ':' :: ' ' :: prettyChars (depth + 1) v ++
      prettyMembers depth ms

end

def compact (v : Json) : String :=
  String.ofList v.compactChars

def pretty (v : Json) : String :=
  String.ofList (v.prettyChars 0)

end CodeGrading.Json
