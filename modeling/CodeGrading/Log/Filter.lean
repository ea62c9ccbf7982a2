import CodeGrading.Log
import CodeGrading.Number.Bounded
import CodeGrading.Text.Alphanumeric

/-!
Filters of log events.

A filter is written as directives with commas between them: `target[span{field}]=level`, of which
each part may be left out. A directive lets the events through that have its field and whose target
begins with its own, down to its level. Of the directives that concern an event the most particular
one decides. What is not a directive is ignored.
-/

namespace CodeGrading.Log

/-- A field that an event must have. -/
structure FieldTest where
  name : String
  /-- The field must have a certain value too. -/
  valued : Bool
  deriving DecidableEq, Repr

/-- What is let through of some targets, all of them when none is named: the levels up to a
rank. -/
structure Directive where
  target : Option String
  /-- The directive holds inside this span only. -/
  span : Option String
  field : Option FieldTest
  rank : Nat
  deriving DecidableEq, Repr

/-- Why a part of a text is not a directive. -/
inductive DirectiveError where
  | malformed
  | unknownLevel
  deriving DecidableEq, Repr

def DirectiveError.message : DirectiveError → String
  | .malformed => "invalid filter directive"
  | .unknownLevel =>
    "error parsing level filter: expected one of \"off\", \"error\", \"warn\", \"info\", " ++
      "\"debug\", \"trace\", or a number 0-5"

/-! ### Levels -/

/-- The rank of a level given by number or by name; silence has the rank zero. -/
def rank? (cs : List Char) : Option Nat :=
  match (numeral? cs).filter (· ≤ Level.trace.rank) with
  | some rank => some rank
  | none =>
    let word := (String.ofList cs).toUpper
    if word = "OFF" then some 0 else (Level.all.find? (·.word == word)).map Level.rank

/-- The rank after an equals sign; nothing there is the greatest. -/
def readRank (cs : List Char) : Except DirectiveError Nat :=
  if cs.isEmpty then .ok Level.trace.rank
  else
    match rank? cs with
    | some rank => .ok rank
    | none => .error .unknownLevel

/-! ### Directives -/

/-- A character of a directive as it is scanned, with the one that is kept in its place. -/
structure Mark where
  seen : Char
  kept : Char
  deriving DecidableEq, Repr

/-- The marks of a part of a text, and the characters after them. The blanks at both ends are not
scanned, but what is kept is counted from the first of them. -/
def marks (part : List Char) : List Mark × List Char :=
  let seen := Text.trimChars part
  (List.zipWith Mark.mk seen part, part.drop seen.length)

def keptChars (ms : List Mark) : List Char :=
  ms.map (·.kept)

/-- The text up to one of some characters, and the marks from there on. -/
def cutAt (stops : List Char) (ms : List Mark) : String × List Mark :=
  let passed (m : Mark) := !stops.contains m.seen
  (String.ofList (keptChars (ms.takeWhile passed)), ms.dropWhile passed)

/-- A name, or a name and a value with an equals sign between them. -/
def FieldTest.ofText (text : String) : FieldTest :=
  let cs := text.toList
  ⟨String.ofList (cs.takeWhile (· != '=')), cs.contains '='⟩

/-- The field of a span, and the marks after its span. -/
def readField (ms : List Mark) : Except DirectiveError (FieldTest × List Mark) :=
  match cutAt ['\x7d'] ms with
  | (text, _ :: close :: rest) =>
    if text.isEmpty ∨ close.seen ≠ ']' then .error .malformed else .ok (.ofText text, rest)
  | _ => .error .malformed

/-- The rank after a span. -/
def readRankAfterSpan (after : List Char) : List Mark → Except DirectiveError Nat
  | [] => .ok Level.trace.rank
  | m :: ms => if m.seen = '=' then readRank (keptChars ms ++ after) else .error .malformed

/-- The directive for a target whose opening bracket has been read. -/
def readSpan (target : Option String) (after : List Char) (ms : List Mark) :
    Except DirectiveError Directive := do
  match cutAt [']', '\x7b'] ms with
  | (_, []) => throw .malformed
  | (name, m :: ms) =>
    if m.seen = ']' then
      return { target, span := some name, field := none, rank := ← readRankAfterSpan after ms }
    else
      let span := if name.isEmpty then none else some name
      let (field, ms) ← readField ms
      return { target, span, field := some field, rank := ← readRankAfterSpan after ms }

/-- The directive of a part that is only a level or only a target. -/
def Directive.ofWord (part : List Char) : Directive :=
  match rank? part with
  | some rank => { target := none, span := none, field := none, rank }
  | none =>
    { target := some (String.ofList part), span := none, field := none, rank := Level.trace.rank }

def beginsTarget (c : Char) : Bool :=
  Text.isAlphanumeric c || c == '_' || c == ':' || c == '-'

/-- The directive that a part of a text is. -/
def Directive.read (part : List Char) : Except DirectiveError Directive := do
  let (ms, after) := marks part
  match ms with
  | [] => throw .malformed
  | first :: more =>
    if first.seen = '[' then readSpan none after more
    else if beginsTarget first.seen then
      match cutAt ['=', '['] ms with
      | (_, []) => return .ofWord part
      | (target, m :: ms) =>
        if m.seen = '=' then
          return {
            target := some target, span := none, field := none
            rank := ← readRank (keptChars ms ++ after) }
        else readSpan (some target) after ms
    else throw .malformed

/-- A directive that looks at more than the target and the fields of an event. There are no spans
and no values that it could be true of. -/
def Directive.isIdle (d : Directive) : Bool :=
  d.span.isSome || d.field.any (·.valued)

def Directive.concerns (d : Directive) (e : Event) : Bool :=
  d.target.all (·.toList.isPrefixOf e.target.toList) &&
    d.field.all (e.fieldNames.contains ·.name)

/-! ### Filters -/

abbrev Filter : Type :=
  List Directive

/-- The parts of a text between its commas, the empty ones left out. -/
def parts (text : String) : List (List Char) :=
  (text.toList.splitOn ',').filter (!·.isEmpty)

/-- The filter that a text asks for. One in which there is no directive lets errors through, and
the empty text nothing. -/
def Filter.ofText (text : String) : Filter :=
  if text.isEmpty then []
  else
    match (parts text).filterMap fun part => (Directive.read part).toOption with
    | [] => [{ target := none, span := none, field := none, rank := Level.error.rank }]
    | directives => directives.filter (!·.isIdle)

/-- What is ignored of a text, with the reasons. -/
def Filter.warnings (text : String) : List String :=
  (parts text).filterMap fun part =>
    match Directive.read part with
    | .ok _ => none
    | .error e => some ("ignoring " ++ ticked (String.ofList part) ++ ": " ++ e.message)

/-- A directive is no less particular than another one for the same event: its target is longer,
or is the same one and its field has the greater name. -/
def Directive.noLessParticular (d other : Directive) : Bool :=
  let reach (d : Directive) := d.target.elim 0 fun target => target.length + 1
  if reach d = reach other then
    match d.field, other.field with
    | _, none => true
    | none, some _ => false
    | some f, some g => g.name ≤ f.name
  else reach other < reach d

/-- The more particular of two directives, the later one of two that are equally so. -/
def moreParticular (best : Option Directive) (d : Directive) : Option Directive :=
  if best.all d.noLessParticular then some d else best

def Filter.lets (f : Filter) (e : Event) : Bool :=
  match (f.filter (·.concerns e)).foldl moreParticular none with
  | some d => e.level.rank ≤ d.rank
  | none => false

end CodeGrading.Log
