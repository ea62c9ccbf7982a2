import CodeGrading.Job

/-!
Jobs in JSON. A job does not say its kind: it is known from where the job is sent.
-/

namespace CodeGrading

def ClassJob.Test.codec : Codec ClassJob.Test :=
  .record "ClassTest"
    (.required "testName" .text <|
      .required "methodBody" .text <|
      .required "returnType" .text .none)
    (fun (testName, methodBody, returnType, ()) => { testName, methodBody, returnType })
    (fun t => (t.testName, t.methodBody, t.returnType, ()))

def ClassJob.codec : Codec ClassJob :=
  .record "ClassJob"
    (.required "className" .text <|
      .required "fileContents" .text <|
      .required "lineNumberOffset" .int32 <|
      .required "classesToImport" (.list .text) <|
      .required "tests" (.list ClassJob.Test.codec) .none)
    (fun (className, fileContents, lineNumberOffset, classesToImport, tests, ()) =>
      { className, fileContents, lineNumberOffset, classesToImport, tests })
    (fun j => (j.className, j.fileContents, j.lineNumberOffset, j.classesToImport, j.tests, ()))

def MethodJob.Test.codec : Codec MethodJob.Test :=
  .record "MethodTest"
    (.required "testName" .text <|
      .required "paramValues" .text .none)
    (fun (testName, paramValues, ()) => { testName, paramValues })
    (fun t => (t.testName, t.paramValues, ()))

def MethodJob.codec : Codec MethodJob :=
  .record "MethodJob"
    (.required "methodCode" .text <|
      .required "classesToImport" (.list .text) <|
      .required "tests" (.list MethodJob.Test.codec) .none)
    (fun (methodCode, classesToImport, tests, ()) => { methodCode, classesToImport, tests })
    (fun j => (j.methodCode, j.classesToImport, j.tests, ()))

def ProgramJob.Test.codec : Codec ProgramJob.Test :=
  .record "ProgramTest"
    (.required "testName" .text <|
      .required "commandLineArgs" .text .none)
    (fun (testName, commandLineArgs, ()) => { testName, commandLineArgs })
    (fun t => (t.testName, t.commandLineArgs, ()))

def ProgramJob.codec : Codec ProgramJob :=
  .record "ProgramJob"
    (.required "fileContents" .text <|
      .required "programClassName" .text <|
      .required "tests" (.list ProgramJob.Test.codec) .none)
    (fun (fileContents, programClassName, tests, ()) =>
      { fileContents, programClassName, tests })
    (fun j => (j.fileContents, j.programClassName, j.tests, ()))

/-- The jobs of one kind. -/
def Job.codec : Kind → Codec Job
  | .wholeClass => .variant ClassJob.codec .wholeClass
      fun | .wholeClass j => some j | _ => none
  | .singleMethod => .variant MethodJob.codec .singleMethod
      fun | .singleMethod j => some j | _ => none
  | .wholeProgram => .variant ProgramJob.codec .wholeProgram
      fun | .wholeProgram j => some j | _ => none

/-- The document of a job of any kind. -/
def Job.toJson (j : Job) : Json :=
  (Job.codec j.kind).encode j

end CodeGrading
