import CodeGrading.Settings.Environment
import CodeGrading.Text.Alphanumeric
import CodeGrading.Text.Blank

/-!
Files of variables, one `KEY=VALUE` a line.

A value may be quoted, and a quoted one may run over several lines. Unless it stands in single
quotes a value may use variables, those of the lines before it included: `$NAME` or a name in
braces after a dollar sign. Comments begin with a number sign at the start of a line or after a
blank. The first line of any other form ends the file; the lines before it count.
-/

namespace CodeGrading.Dotenv

/-! ### Lines -/

/-- The lines of a text, each with its line end. -/
def physicalLines : List Char → List (List Char)
  | [] => []
  | '\n' :: cs => ['\n'] :: physicalLines cs
  | c :: cs =>
    match physicalLines cs with
    | [] => [[c]]
    | line :: lines => (c :: line) :: lines

/-- What a line is in the middle of. -/
inductive Scan where
  | plain
  | blank
  | escape
  | double
  | doubleEscape
  | single
  | singleEscape
  deriving DecidableEq, Repr

def Scan.opened (c : Char) : Scan :=
  if c = '\\' then .escape
  else if c = '"' then .double
  else if c = '\'' then .single
  else .plain

def Scan.step (c : Char) : Scan → Scan
  | .plain => if Text.isBlank c ∧ c ≠ '\n' ∧ c ≠ '\r' then .blank else opened c
  | .blank => opened c
  | .escape => .plain
  | .double => if c = '\\' then .doubleEscape else if c = '"' then .plain else .double
  | .doubleEscape => .double
  | .single => if c = '\\' then .singleEscape else if c = '\'' then .plain else .single
  | .singleEscape => .single

/-- How a line ends: in some state, or in a comment with the text before it. -/
inductive LineEnd where
  | state (s : Scan)
  | comment (before : List Char)
  deriving DecidableEq, Repr

def scanLine (s : Scan) : List Char → LineEnd
  | [] => .state s
  | c :: cs =>
    if s = .blank ∧ c = '#' then .comment []
    else
      match scanLine (s.step c) cs with
      | .state s => .state s
      | .comment before => .comment (c :: before)

/-- A line without its line end. -/
def dropLineEnd (line : List Char) : List Char :=
  match line.reverse with
  | '\n' :: '\r' :: cs => cs.reverse
  | '\n' :: cs => cs.reverse
  | _ => line

def isComment (line : List Char) : Bool :=
  (Text.trimStart line).head? == some '#'

/-- The lines with those joined that one value runs over. A last line that ends in the middle of
something is no line. -/
def logicalLines (s : Scan) (before : List Char) : List (List Char) → List (List Char)
  | [] => []
  | line :: lines =>
    if isComment (before ++ line) then [] :: logicalLines .plain [] lines
    else
      match scanLine s line with
      | .comment text => (before ++ text) :: logicalLines .plain [] lines
      | .state .plain => dropLineEnd (before ++ line) :: logicalLines .plain [] lines
      | .state s => logicalLines s (before ++ line) lines

/-! ### Bindings -/

inductive Quote where
  | bare
  | single
  | double
  /-- After the value: only blanks and a comment may follow. -/
  | closed
  deriving DecidableEq, Repr

def escapedChar? (c : Char) : Option Char :=
  if c = '\\' ∨ c = '\'' ∨ c = '"' ∨ c = '$' ∨ c = ' ' then some c
  else if c = 'n' then some '\n'
  else none

/-- What comes just before a character of a value. -/
inductive Lead where
  | nothing
  | backslash
  /-- A dollar sign and this much of a name. -/
  | name (cs : List Char)
  /-- A dollar sign, an opening brace and this much of a name. -/
  | braced (cs : List Char)
  deriving DecidableEq, Repr

/-- The text of a variable; nothing when it is not set. -/
def textOf (env : Environment) (name : List Char) : List Char :=
  (env.getD (String.ofList name) "").toList

/-- The value that a text begins with, given the quote it stands in. A name without braces ends at
the first character that is neither letter nor digit; that character stands for itself, even a
quote. -/
def value (env : Environment) : Quote → Lead → List Char → Option (List Char)
  | .closed, _, [] => some []
  | .bare, .nothing, [] | .bare, .backslash, [] => some []
  | .bare, .name name, [] => some (textOf env name)
  | _, _, [] => none
  | .closed, _, c :: cs =>
    if c = ' ' ∨ c = '\t' then value env .closed .nothing cs
    else if c = '#' then some []
    else none
  | quote, .backslash, c :: cs => do
    let d ← escapedChar? c
    return d :: (← value env quote .nothing cs)
  | quote, .name name, c :: cs =>
    if Text.isAlphanumeric c then value env quote (.name (name ++ [c])) cs
    else if c = '\x7b' ∧ name.isEmpty then value env quote (.braced []) cs
    else if c = '$' then (value env quote (.name []) cs).map (textOf env name ++ ·)
    else (value env quote .nothing cs).map (textOf env name ++ c :: ·)
  | quote, .braced name, c :: cs =>
    if c = '\x7d' then (value env quote .nothing cs).map (textOf env name ++ ·)
    else value env quote (.braced (name ++ [c])) cs
  | .single, .nothing, c :: cs =>
    if c = '\'' then value env .bare .nothing cs else (value env .single .nothing cs).map (c :: ·)
  | .double, .nothing, c :: cs =>
    if c = '$' then value env .double (.name []) cs
    else if c = '"' then value env .bare .nothing cs
    else if c = '\\' then value env .double .backslash cs
    else (value env .double .nothing cs).map (c :: ·)
  | .bare, .nothing, c :: cs =>
    if c = '$' then value env .bare (.name []) cs
    else if c = '\'' then value env .single .nothing cs
    else if c = '"' then value env .double .nothing cs
    else if c = '\\' then value env .bare .backslash cs
    else if c = ' ' ∨ c = '\t' then value env .closed .nothing cs
    else (value env .bare .nothing cs).map (c :: ·)

def isKeyChar (c : Char) : Bool :=
  c.isAlphanum || c == '_' || c == '.'

/-- A key and the text after it and its blanks. -/
def key? (cs : List Char) : Option (List Char × List Char) :=
  match cs with
  | c :: _ =>
    if c.isAlpha || c == '_' then
      some (cs.takeWhile isKeyChar, Text.trimStart (cs.dropWhile isKeyChar))
    else none
  | [] => none

/-- A key and the text after its equals sign. The word `export` may stand before the key, and is a
key itself when an equals sign follows it. -/
def keyAndValue? (cs : List Char) : Option (List Char × List Char) := do
  match ← key? cs with
  | (key, '=' :: rest) => return (key, rest)
  | (key, rest) =>
    guard (key = "export".toList)
    match ← key? rest with
    | (key, '=' :: rest) => return (key, rest)
    | _ => none

/-- What a line says. -/
inductive Line where
  | nothing
  | binding (key value : String)
  | malformed
  deriving DecidableEq, Repr

def isSilent (cs : List Char) : Bool :=
  cs.isEmpty || cs.head? == some '#'

/-- What a line says in an environment. -/
def line (env : Environment) (cs : List Char) : Line :=
  let cs := Text.trimChars cs
  if isSilent cs then .nothing
  else
    match keyAndValue? cs with
    | none => .malformed
    | some (key, rest) =>
      let rest := Text.trimStart rest
      if isSilent rest then .binding (String.ofList key) ""
      else
        match value env .bare .nothing rest with
        | some v => .binding (String.ofList key) (String.ofList v)
        | none => .malformed

/-- The lines of a file. A byte order mark before the first one is no part of it. -/
def lines (text : String) : List (List Char) :=
  let cs := match text.toList with
    | '\ufeff' :: cs => cs
    | cs => cs
  logicalLines .plain [] (physicalLines cs)

end CodeGrading.Dotenv

namespace CodeGrading.Environment

/-- The environment with the variables of some lines that are not set yet, up to the first
malformed line. -/
def addLines (env : Environment) : List (List Char) → Environment
  | [] => env
  | cs :: rest =>
    match Dotenv.line env cs with
    | .nothing => env.addLines rest
    | .binding key value => (env.setMissing key value).addLines rest
    | .malformed => env

/-- The environment with the variables of a file that are not set yet. -/
def addFile (env : Environment) (text : String) : Environment :=
  env.addLines (Dotenv.lines text)

end CodeGrading.Environment
