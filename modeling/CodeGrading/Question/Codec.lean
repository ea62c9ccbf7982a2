import CodeGrading.Question
import CodeGrading.TypeList

/-!
Questions in JSON: the tag `type` beside the fields of the kind.
-/

namespace CodeGrading

/-- An imported class stands in an object of its own. -/
def importedClassCodec : Codec String :=
  .record "ImportedClass" (.required "className" .text .none)
    (fun (className, ()) => className)
    (fun className => (className, ()))

def RequiredMethod.codec : Codec RequiredMethod :=
  .record "RequiredMethod"
    (.required "name" .text <|
      .required "isPublic" .flag <|
      .required "isStatic" .flag <|
      .default "paramTypes" TypeList.codec [] <|
      .optional "returnType" .text .none)
    (fun (name, isPublic, isStatic, paramTypes, returnType, ()) =>
      { name, isPublic, isStatic, paramTypes, returnType })
    (fun m => (m.name, m.isPublic, m.isStatic, m.paramTypes, m.returnType, ()))

def ClassQuestion.Test.codec : Codec ClassQuestion.Test :=
  .record "ClassQuestionTest"
    (.required "name" .text <|
      .default "order" .int32 0 <|
      .default "description" .text "" <|
      .required "methodBody" .text <|
      .required "returnType" .text <|
      .optional "expectedReturnValue" .text <|
      .default "expectedOutput" .text "" .none)
    (fun (name, order, description, methodBody, returnType, expectedReturnValue, expectedOutput,
        ()) =>
      { name, order, description, methodBody, returnType, expectedReturnValue, expectedOutput })
    (fun t => (t.name, t.order, t.description, t.methodBody, t.returnType, t.expectedReturnValue,
      t.expectedOutput, ()))

def ClassQuestion.codec : Codec ClassQuestion :=
  .record "ClassQuestion"
    (.required "className" .text <|
      .required "fileTemplate" .text <|
      .default "allowPublicFields" .flag false <|
      .default "importedClasses" (.list importedClassCodec) [] <|
      .default "requiredMethods" (.list RequiredMethod.codec) [] <|
      .default "tests" (.list ClassQuestion.Test.codec) [] .none)
    (fun (className, fileTemplate, allowPublicFields, importedClasses, requiredMethods, tests,
        ()) =>
      { className, fileTemplate, allowPublicFields, importedClasses, requiredMethods, tests })
    (fun q => (q.className, q.fileTemplate, q.allowPublicFields, q.importedClasses,
      q.requiredMethods, q.tests, ()))

def MethodQuestion.Test.codec : Codec MethodQuestion.Test :=
  .record "MethodQuestionTest"
    (.required "name" .text <|
      .default "order" .int32 0 <|
      .default "description" .text "" <|
      .default "parameterValues" .text "" <|
      .optional "expectedReturnValue" .text <|
      .default "expectedOutput" .text "" .none)
    (fun (name, order, description, parameterValues, expectedReturnValue, expectedOutput, ()) =>
      { name, order, description, parameterValues, expectedReturnValue, expectedOutput })
    (fun t => (t.name, t.order, t.description, t.parameterValues, t.expectedReturnValue,
      t.expectedOutput, ()))

def MethodQuestion.codec : Codec MethodQuestion :=
  .record "MethodQuestion"
    (.required "methodName" .text <|
      .default "parameterTypes" TypeList.codec [] <|
      .required "returnType" .text <|
      .default "isPublic" .flag true <|
      .default "isStatic" .flag true <|
      .default "importedClasses" (.list importedClassCodec) [] <|
      .default "tests" (.list MethodQuestion.Test.codec) [] .none)
    (fun (methodName, parameterTypes, returnType, isPublic, isStatic, importedClasses, tests,
        ()) =>
      { methodName, parameterTypes, returnType, isPublic, isStatic, importedClasses, tests })
    (fun q => (q.methodName, q.parameterTypes, q.returnType, q.isPublic, q.isStatic,
      q.importedClasses, q.tests, ()))

def ProgramQuestion.Test.codec : Codec ProgramQuestion.Test :=
  .record "ProgramQuestionTest"
    (.required "name" .text <|
      .default "order" .int32 0 <|
      .default "description" .text "" <|
      .default "commandLineArguments" .text "" <|
      .default "expectedOutput" .text "" .none)
    (fun (name, order, description, commandLineArguments, expectedOutput, ()) =>
      { name, order, description, commandLineArguments, expectedOutput })
    (fun t => (t.name, t.order, t.description, t.commandLineArguments, t.expectedOutput, ()))

def ProgramQuestion.codec : Codec ProgramQuestion :=
  .record "ProgramQuestion"
    (.required "programClassName" .text <|
      .default "tests" (.list ProgramQuestion.Test.codec) [] .none)
    (fun (programClassName, tests, ()) => { programClassName, tests })
    (fun q => (q.programClassName, q.tests, ()))

namespace Question

/-- The fields of each kind of question. -/
def bodyCodec : Kind → Codec Question
  | .wholeClass => .variant ClassQuestion.codec .wholeClass
      fun | .wholeClass q => some q | _ => none
  | .singleMethod => .variant MethodQuestion.codec .singleMethod
      fun | .singleMethod q => some q | _ => none
  | .wholeProgram => .variant ProgramQuestion.codec .wholeProgram
      fun | .wholeProgram q => some q | _ => none

def codec : Codec Question :=
  .tagged "Question" "type" Kind.spelling bodyCodec kind

end Question

end CodeGrading
