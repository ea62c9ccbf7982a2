import CodeGrading.Json.Mismatch
import CodeGrading.Json.Reader
import CodeGrading.Json.Writer

/-!
Codecs: how the values of a type stand in a document.

A codec decodes either while its text is being read, or from a part of the document that has been
read to its end before. The first fault or mismatch in the order of the text is the error; only
what is looked at can be at fault.
-/

namespace CodeGrading

/-- Whether a value is decoded while it is read, or after all of it has been read soundly. -/
inductive Delivery where
  | streamed
  | buffered
  deriving DecidableEq, Repr

/-- How the values of a type are decoded from a document and encoded in one. -/
structure Codec (α : Type) where
  decode : Delivery → Json → Except DecodeError α
  encode : α → Json

namespace Codec

def text : Codec String where
  decode
    | _, .string s => .ok s
    | _, v => .error (v.unlike .text)
  encode := .string

def flag : Codec Bool where
  decode
    | _, .bool b => .ok b
    | _, v => .error (v.unlike .flag)
  encode := .bool

/-- A 32 bit integer with a sign. -/
def int32 : Codec Int32 where
  decode
    | _, .number (.integer i) =>
      if Int32.minValue.toInt ≤ i ∧ i ≤ Int32.maxValue.toInt then .ok (Int32.ofInt i)
      else .error (.mismatch (.invalidValue (.number (.integer i)) .int32))
    | _, v => .error (v.unlike .int32)
  encode i := .number (.integer i.toInt)

/-- A count of at most 64 bits. -/
def size : Codec Nat where
  decode
    | _, .number (.integer i) =>
      if 0 ≤ i ∧ i < UInt64.size then .ok i.toNat
      else .error (.mismatch (.invalidValue (.number (.integer i)) .size))
    | _, v => .error (v.unlike .size)
  encode n := .number (.integer n)

/-- A double; an integer is taken for the nearest one. -/
def double : Codec Binary64 where
  decode
    | _, .number (.double x) => .ok x
    | _, .number (.integer i) =>
      match Binary64.ofInt? i with
      | some x => .ok x
      | none => .error .notJson
    | _, v => .error (v.unlike .double)
  encode x := .number (.double x)

/-- Decodes the items of an array in order; the first error wins. -/
def decodeItems {α : Type} (decode : Json → Except DecodeError α) :
    List Json → Except DecodeError (List α)
  | [] => .ok []
  | v :: vs => do
    let a ← decode v
    let as ← decodeItems decode vs
    return a :: as

def list {α : Type} (item : Codec α) : Codec (List α) where
  decode
    | delivery, .array vs => decodeItems (item.decode delivery) vs
    | _, v => .error (v.unlike .list)
  encode as := .array (as.map item.encode)

/-- Null stands for nothing. -/
def option {α : Type} (value : Codec α) : Codec (Option α) where
  decode
    | _, .null => .ok none
    | delivery, v => (value.decode delivery v).map some
  encode
    | none => .null
    | some a => value.encode a

/-- A type that is written and read as another one. -/
def map {α β : Type} (c : Codec α) (toNew : α → β) (toOld : β → α) : Codec β where
  decode delivery v := (c.decode delivery v).map toNew
  encode b := c.encode (toOld b)

/-- Decodes the value that a text begins with, whatever follows it, and gives back the characters
after it. -/
def decodeStart {α : Type} (c : Codec α) (s : String) : Except DecodeError (α × List Char) :=
  let (v, rest) := Json.read s.toList
  match c.decode .streamed v, rest with
  | .ok a, some rest => .ok (a, rest)
  | .ok _, none => .error .notJson
  | .error e, _ => .error e

/-- Decodes a whole text. Nothing but blanks may follow the value. -/
def decodeText {α : Type} (c : Codec α) (s : String) : Except DecodeError α :=
  match c.decodeStart s with
  | .error e => .error e
  | .ok (a, rest) => if (Json.skipSpaces rest).isEmpty then .ok a else .error .notJson

/-- The compact text of a value. -/
def encodeText {α : Type} (c : Codec α) (a : α) : String :=
  (c.encode a).compact

end Codec

end CodeGrading
