/-!
Reading octets as UTF-8.

Each octet either completes a character, owes more octets, or cannot stand where it does. Every
longest beginning of a character that is not completed becomes one replacement character.
-/

namespace CodeGrading.Text.Utf8

/-- A character that has begun: its bits so far, the number of octets it still owes, and the range
of the next one. -/
structure Partial where
  code : Nat
  owed : Nat
  low : Nat
  high : Nat
  deriving DecidableEq, Repr

/-- What a first octet begins. -/
inductive Beginning where
  | whole (code : Nat)
  | more (p : Partial)
  | invalid
  deriving DecidableEq, Repr

def beginning (b : Nat) : Beginning :=
  if b ≤ 0x7F then .whole b
  else if 0xC2 ≤ b ∧ b ≤ 0xDF then .more ⟨b - 0xC0, 1, 0x80, 0xBF⟩
  else if 0xE0 ≤ b ∧ b ≤ 0xEF then
    .more ⟨b - 0xE0, 2, if b = 0xE0 then 0xA0 else 0x80, if b = 0xED then 0x9F else 0xBF⟩
  else if 0xF0 ≤ b ∧ b ≤ 0xF4 then
    .more ⟨b - 0xF0, 3, if b = 0xF0 then 0x90 else 0x80, if b = 0xF4 then 0x8F else 0xBF⟩
  else .invalid

def replacement : Char :=
  '\ufffd'

/-- The characters of the octets after a character that has begun, if one has. -/
def chars : Option Partial → List UInt8 → List Char
  | none, [] => []
  | some _, [] => [replacement]
  | none, b :: bs =>
    match beginning b.toNat with
    | .whole code => Char.ofNat code :: chars none bs
    | .more p => chars (some p) bs
    | .invalid => replacement :: chars none bs
  | some p, b :: bs =>
    if p.low ≤ b.toNat ∧ b.toNat ≤ p.high then
      let code := p.code * 0x40 + (b.toNat - 0x80)
      if p.owed ≤ 1 then Char.ofNat code :: chars none bs
      else chars (some ⟨code, p.owed - 1, 0x80, 0xBF⟩) bs
    else
      replacement ::
        match beginning b.toNat with
        | .whole code => Char.ofNat code :: chars none bs
        | .more p => chars (some p) bs
        | .invalid => replacement :: chars none bs

/-- The text of some octets, without a byte order mark at its beginning. -/
def decode (octets : List UInt8) : String :=
  match chars none octets with
  | '\ufeff' :: cs => String.ofList cs
  | cs => String.ofList cs

end CodeGrading.Text.Utf8
