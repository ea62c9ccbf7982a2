import CodeGrading.Kind
import CodeGrading.Template
import CodeGrading.Text.Blank

/-!
Questions: what a submission must declare and how it is tested.

A class question asks for a whole class, a method question for one method, a program question for
a complete program. A question can be graded as configured when `fault?` finds nothing.
-/

namespace CodeGrading

/-- A method or constructor that a class must declare. -/
structure RequiredMethod where
  name : String
  isPublic : Bool
  isStatic : Bool
  paramTypes : List String
  /-- None for a constructor. -/
  returnType : Option String
  deriving DecidableEq, Repr

def RequiredMethod.isConstructor (m : RequiredMethod) : Bool :=
  m.returnType.isNone

/-- The name under which a class must declare the method; constructors have the name of the
class. -/
def RequiredMethod.matchName (className : String) (m : RequiredMethod) : String :=
  if m.isConstructor then className else m.name

structure ClassQuestion.Test where
  name : String
  order : Int32
  description : String
  methodBody : String
  returnType : String
  expectedReturnValue : Option String
  expectedOutput : String
  deriving DecidableEq, Repr

structure ClassQuestion where
  className : String
  /-- The source file with a marker where the submission goes. -/
  fileTemplate : String
  allowPublicFields : Bool
  /-- Fully qualified names of the classes to import. -/
  importedClasses : List String
  requiredMethods : List RequiredMethod
  tests : List ClassQuestion.Test
  deriving DecidableEq, Repr

structure MethodQuestion.Test where
  name : String
  order : Int32
  description : String
  /-- The arguments of the call. -/
  parameterValues : String
  expectedReturnValue : Option String
  expectedOutput : String
  deriving DecidableEq, Repr

structure MethodQuestion where
  methodName : String
  parameterTypes : List String
  returnType : String
  isPublic : Bool
  isStatic : Bool
  importedClasses : List String
  tests : List MethodQuestion.Test
  deriving DecidableEq, Repr

structure ProgramQuestion.Test where
  name : String
  order : Int32
  description : String
  commandLineArguments : String
  expectedOutput : String
  deriving DecidableEq, Repr

structure ProgramQuestion where
  /-- The class whose entry point is run. -/
  programClassName : String
  tests : List ProgramQuestion.Test
  deriving DecidableEq, Repr

inductive Question where
  | wholeClass (q : ClassQuestion)
  | singleMethod (q : MethodQuestion)
  | wholeProgram (q : ProgramQuestion)
  deriving DecidableEq, Repr

/-- What a test of any kind expects of its run. -/
structure Expectation where
  name : String
  description : String
  output : String
  /-- None when the return value does not matter. -/
  returnValue : Option String
  deriving DecidableEq, Repr

def ClassQuestion.Test.expectation (t : ClassQuestion.Test) : Expectation :=
  ⟨t.name, t.description, t.expectedOutput, t.expectedReturnValue⟩

def MethodQuestion.Test.expectation (t : MethodQuestion.Test) : Expectation :=
  ⟨t.name, t.description, t.expectedOutput, t.expectedReturnValue⟩

/-- A program is judged by its output alone. -/
def ProgramQuestion.Test.expectation (t : ProgramQuestion.Test) : Expectation :=
  ⟨t.name, t.description, t.expectedOutput, none⟩

/-- Why a question cannot be graded as configured. -/
inductive QuestionFault where
  | noTests (kind : Kind)
  | emptyClassName
  | noMarker
  deriving DecidableEq, Repr

def QuestionFault.message : QuestionFault → String
  | .noTests kind => kind.word ++ " question declares no tests"
  | .emptyClassName => "class name is empty"
  | .noMarker => "file template has no submission marker"

namespace Question

def kind : Question → Kind
  | .wholeClass _ => .wholeClass
  | .singleMethod _ => .singleMethod
  | .wholeProgram _ => .wholeProgram

/-- The name of the class, method or program asked for. -/
def subject : Question → String
  | .wholeClass q => q.className
  | .singleMethod q => q.methodName
  | .wholeProgram q => q.programClassName

/-- What the tests expect, in the order of their declaration. -/
def expectations : Question → List Expectation
  | .wholeClass q => q.tests.map (·.expectation)
  | .singleMethod q => q.tests.map (·.expectation)
  | .wholeProgram q => q.tests.map (·.expectation)

/-- The first reason why the question cannot be graded as configured. -/
def fault? (q : Question) : Option QuestionFault :=
  if q.expectations.isEmpty then some (.noTests q.kind)
  else
    match q with
    | .wholeClass q =>
      if (Text.trim q.className).isEmpty then some .emptyClassName
      else if Template.hasMarker q.fileTemplate then none
      else some .noMarker
    | .singleMethod _ | .wholeProgram _ => none

end Question

end CodeGrading
