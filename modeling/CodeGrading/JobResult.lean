import CodeGrading.Kind

/-!
Results of the code runner.

Every result has a status, perhaps a diagnostic output, and what was found out about the tests.
The payload tells about the submission itself, by the kind of the job. A completed result owes its
parts to each other: nothing may be reported of a step that could not run. `breach?` finds the
first of these availability rules that a result breaks.
-/

namespace CodeGrading

/-- One message of the compiler. -/
structure CompileError where
  message : String
  fullError : String
  deriving DecidableEq, Repr

/-- The outcome of one compilation. -/
structure Compilation where
  success : Bool
  errors : List CompileError
  deriving DecidableEq, Repr

structure FieldDefinition where
  name : String
  isPublic : Bool
  type : String
  deriving DecidableEq, Repr

/-- A compiled method or constructor. -/
structure MethodDefinition where
  name : String
  isPublic : Bool
  isStatic : Bool
  parameterTypes : List String
  /-- None for a constructor. -/
  returnType : Option String
  deriving DecidableEq, Repr

structure ClassDefinition where
  name : String
  fields : List FieldDefinition
  methods : List MethodDefinition
  deriving DecidableEq, Repr

/-- The run of one test. -/
structure TestResult where
  name : String
  completed : Bool
  output : String
  returnValue : Option String
  exception : Option String
  deriving DecidableEq, Repr

structure ClassPayload where
  compilation : Compilation
  definition : Option ClassDefinition
  deriving DecidableEq, Repr

structure MethodPayload where
  compilation : Compilation
  /-- Every method of the submission. -/
  definitions : Option (List MethodDefinition)
  deriving DecidableEq, Repr

structure ProgramPayload where
  compilation : Compilation
  deriving DecidableEq, Repr

inductive Payload where
  | wholeClass (p : ClassPayload)
  | singleMethod (p : MethodPayload)
  | wholeProgram (p : ProgramPayload)
  deriving DecidableEq, Repr

namespace Payload

def kind : Payload → Kind
  | .wholeClass _ => .wholeClass
  | .singleMethod _ => .singleMethod
  | .wholeProgram _ => .wholeProgram

/-- The compilation of the submission itself. -/
def compilation : Payload → Compilation
  | .wholeClass p => p.compilation
  | .singleMethod p => p.compilation
  | .wholeProgram p => p.compilation

end Payload

/-- How a job ended. -/
inductive Status where
  | completed
  | timeout
  | error
  deriving DecidableEq, Repr

def Status.word : Status → String
  | .completed => "Completed"
  | .timeout => "Timeout"
  | .error => "Error"

def Status.spelling : Spelling Status where
  all := [.completed, .timeout, .error]
  spell := word

structure JobResult where
  status : Status
  diagnosticOutput : Option String
  testsCompilation : Option Compilation
  testResults : Option (List TestResult)
  payload : Payload
  deriving DecidableEq, Repr

/-- A broken availability rule. -/
inductive Breach where
  /-- The tests were compiled though the submission did not compile. -/
  | testsCompiledAlone
  /-- A definition of the class without its compilation, or a compilation without it. -/
  | classDefinition
  /-- Definitions of methods without their compilation, or a compilation without them. -/
  | methodDefinitions
  /-- The tests of a class ran though they did not compile. -/
  | uncompiledTestsRan
  /-- The tests of a method or program ran though it did not compile. -/
  | uncompiledSubmissionRan (kind : Kind)
  deriving DecidableEq, Repr

def Breach.message : Breach → String
  | .testsCompiledAlone => "tests compilation reported for a submission that did not compile"
  | .classDefinition => "class definition must be present exactly when the class compiled"
  | .methodDefinitions => "method definitions must be present exactly when the method compiled"
  | .uncompiledTestsRan => "test results reported without a successful tests compilation"
  | .uncompiledSubmissionRan kind =>
    "test results reported for a " ++ kind.word ++ " that did not compile"

namespace JobResult

/-- The submission itself compiled. -/
def compiled (r : JobResult) : Bool :=
  r.payload.compilation.success

/-- The tests were reported as compiled. -/
def testsCompiled (r : JobResult) : Bool :=
  r.testsCompilation.any (·.success)

/-- The first availability rule that the parts of a completed result break. -/
def partsBreach? (r : JobResult) : Option Breach :=
  if !r.compiled && r.testsCompilation.isSome then some .testsCompiledAlone
  else
    match r.payload with
    | .wholeClass p =>
      if r.compiled != p.definition.isSome then some .classDefinition
      else if r.testResults.isSome && !r.testsCompiled then some .uncompiledTestsRan
      else none
    | .singleMethod p =>
      if r.compiled != p.definitions.isSome then some .methodDefinitions
      else if r.testResults.isSome && !r.compiled then some (.uncompiledSubmissionRan .singleMethod)
      else none
    | .wholeProgram _ =>
      if r.testResults.isSome && !r.compiled then some (.uncompiledSubmissionRan .wholeProgram)
      else none

/-- The first availability rule that a result breaks. One that is not completed owes nothing. -/
def breach? (r : JobResult) : Option Breach :=
  match r.status with
  | .completed => r.partsBreach?
  | .timeout | .error => none

end JobResult

end CodeGrading
