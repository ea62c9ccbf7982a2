import CodeGrading.GradedResult
import CodeGrading.Text.Quoted

/-!
Log events and their text.
-/

namespace CodeGrading.Log

inductive Level where
  | error
  | warn
  | info
  | debug
  | trace
  deriving DecidableEq, Repr

namespace Level

def all : List Level :=
  [.error, .warn, .info, .debug, .trace]

/-- The more is told, the higher the rank. -/
def rank : Level → Nat
  | .error => 1
  | .warn => 2
  | .info => 3
  | .debug => 4
  | .trace => 5

def word : Level → String
  | .error => "ERROR"
  | .warn => "WARN"
  | .info => "INFO"
  | .debug => "DEBUG"
  | .trace => "TRACE"

end Level

/-- The value of a field. -/
inductive Value where
  | plain (text : String)
  | quoted (text : String)
  | integer (i : Int)
  | score (s : Score)
  deriving DecidableEq, Repr

def Value.text : Value → String
  | .plain text => text
  | .quoted text => Text.quoted text
  | .integer i => toString i
  | .score s => String.ofList s.toDouble.toChars

structure Event where
  level : Level
  target : String
  message : String
  fields : List (String × Value)
  deriving DecidableEq, Repr

/-- The line of an event, without the time. -/
def Event.line (e : Event) : String :=
  e.level.word ++ " " ++ e.target ++ ": " ++
    " ".intercalate (e.message :: e.fields.map fun (name, value) => name ++ "=" ++ value.text)

/-- The names of the fields of an event; its message is one of them. -/
def Event.fieldNames (e : Event) : List String :=
  "message" :: e.fields.map (·.1)

end CodeGrading.Log
