import CodeGrading.Question

/-!
Jobs: what the code runner is asked to compile and run.

A job is made from a question and a submission. Its tests stand in the order of the question's.
Only the class job changes the submission: it is filled into the template.
-/

namespace CodeGrading

structure ClassJob.Test where
  testName : String
  methodBody : String
  returnType : String
  deriving DecidableEq, Repr

structure ClassJob where
  /-- The class that the tests are run against. -/
  className : String
  fileContents : String
  /-- Added to a line of the file it gives the line of the submission. -/
  lineNumberOffset : Int32
  classesToImport : List String
  tests : List ClassJob.Test
  deriving DecidableEq, Repr

structure MethodJob.Test where
  testName : String
  paramValues : String
  deriving DecidableEq, Repr

structure MethodJob where
  methodCode : String
  classesToImport : List String
  tests : List MethodJob.Test
  deriving DecidableEq, Repr

structure ProgramJob.Test where
  testName : String
  commandLineArgs : String
  deriving DecidableEq, Repr

structure ProgramJob where
  fileContents : String
  programClassName : String
  tests : List ProgramJob.Test
  deriving DecidableEq, Repr

inductive Job where
  | wholeClass (j : ClassJob)
  | singleMethod (j : MethodJob)
  | wholeProgram (j : ProgramJob)
  deriving DecidableEq, Repr

namespace Job

def kind : Job → Kind
  | .wholeClass _ => .wholeClass
  | .singleMethod _ => .singleMethod
  | .wholeProgram _ => .wholeProgram

/-- The names of the tests in order. -/
def testNames : Job → List String
  | .wholeClass j => j.tests.map (·.testName)
  | .singleMethod j => j.tests.map (·.testName)
  | .wholeProgram j => j.tests.map (·.testName)

end Job

def ClassQuestion.job (q : ClassQuestion) (submission : String) : ClassJob where
  className := q.className
  fileContents := Template.fill q.fileTemplate submission
  lineNumberOffset := Template.lineOffset q.fileTemplate
  classesToImport := q.importedClasses
  tests := q.tests.map fun t => ⟨t.name, t.methodBody, t.returnType⟩

def MethodQuestion.job (q : MethodQuestion) (submission : String) : MethodJob where
  methodCode := submission
  classesToImport := q.importedClasses
  tests := q.tests.map fun t => ⟨t.name, t.parameterValues⟩

def ProgramQuestion.job (q : ProgramQuestion) (submission : String) : ProgramJob where
  fileContents := submission
  programClassName := q.programClassName
  tests := q.tests.map fun t => ⟨t.name, t.commandLineArguments⟩

/-- The job that a submission to the question is sent as. -/
def Question.job (q : Question) (submission : String) : Job :=
  match q with
  | .wholeClass q => .wholeClass (q.job submission)
  | .singleMethod q => .singleMethod (q.job submission)
  | .wholeProgram q => .wholeProgram (q.job submission)

end CodeGrading
