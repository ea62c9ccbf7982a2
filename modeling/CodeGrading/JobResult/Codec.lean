import CodeGrading.JobResult

/-!
Job results in JSON: the parts of every result, then the tag `kind`, then the payload, all in one
object.
-/

namespace CodeGrading

def CompileError.codec : Codec CompileError :=
  .record "CompileError"
    (.default "message" .text "" <|
      .default "fullError" .text "" .none)
    (fun (message, fullError, ()) => { message, fullError })
    (fun e => (e.message, e.fullError, ()))

def Compilation.codec : Codec Compilation :=
  .record "CompilationResult"
    (.required "success" .flag <|
      .default "errors" (.list CompileError.codec) [] .none)
    (fun (success, errors, ()) => { success, errors })
    (fun c => (c.success, c.errors, ()))

def FieldDefinition.codec : Codec FieldDefinition :=
  .record "FieldDefinition"
    (.required "name" .text <|
      .required "isPublic" .flag <|
      .required "type" .text .none)
    (fun (name, isPublic, type, ()) => { name, isPublic, type })
    (fun f => (f.name, f.isPublic, f.type, ()))

def MethodDefinition.codec : Codec MethodDefinition :=
  .record "MethodDefinition"
    (.required "name" .text <|
      .required "isPublic" .flag <|
      .required "isStatic" .flag <|
      .default "parameterTypes" (.list .text) [] <|
      .optional "returnType" .text .none)
    (fun (name, isPublic, isStatic, parameterTypes, returnType, ()) =>
      { name, isPublic, isStatic, parameterTypes, returnType })
    (fun m => (m.name, m.isPublic, m.isStatic, m.parameterTypes, m.returnType, ()))

def ClassDefinition.codec : Codec ClassDefinition :=
  .record "ClassDefinition"
    (.required "name" .text <|
      .default "fields" (.list FieldDefinition.codec) [] <|
      .default "methods" (.list MethodDefinition.codec) [] .none)
    (fun (name, fields, methods, ()) => { name, fields, methods })
    (fun d => (d.name, d.fields, d.methods, ()))

def TestResult.codec : Codec TestResult :=
  .record "CodeTestResult"
    (.required "name" .text <|
      .required "completed" .flag <|
      .default "output" .text "" <|
      .optional "returnValue" .text <|
      .optional "exception" .text .none)
    (fun (name, completed, output, returnValue, exception, ()) =>
      { name, completed, output, returnValue, exception })
    (fun t => (t.name, t.completed, t.output, t.returnValue, t.exception, ()))

def ClassPayload.codec : Codec ClassPayload :=
  .record "ClassJobPayload"
    (.required "classCompilationResult" Compilation.codec <|
      .optional "classDefinition" ClassDefinition.codec .none)
    (fun (compilation, definition, ()) => { compilation, definition })
    (fun p => (p.compilation, p.definition, ()))

def MethodPayload.codec : Codec MethodPayload :=
  .record "MethodJobPayload"
    (.required "methodCompilationResult" Compilation.codec <|
      .optional "methodDefinitions" (.list MethodDefinition.codec) .none)
    (fun (compilation, definitions, ()) => { compilation, definitions })
    (fun p => (p.compilation, p.definitions, ()))

def ProgramPayload.codec : Codec ProgramPayload :=
  .record "ProgramJobPayload"
    (.required "programCompilationResult" Compilation.codec .none)
    (fun (compilation, ()) => { compilation })
    (fun p => (p.compilation, ()))

namespace Payload

/-- The fields of each kind of payload. -/
def bodyCodec : Kind → Codec Payload
  | .wholeClass => .variant ClassPayload.codec .wholeClass
      fun | .wholeClass p => some p | _ => none
  | .singleMethod => .variant MethodPayload.codec .singleMethod
      fun | .singleMethod p => some p | _ => none
  | .wholeProgram => .variant ProgramPayload.codec .wholeProgram
      fun | .wholeProgram p => some p | _ => none

def codec : Codec Payload :=
  .tagged "JobPayload" "kind" Kind.spelling bodyCodec kind

end Payload

def JobResult.codec : Codec JobResult :=
  .flattened "CodeJobResult"
    (.required "status" (.word Status.spelling) <|
      .optional "diagnosticOutput" .text <|
      .optional "testsCompilationResult" Compilation.codec <|
      .optional "testResults" (.list TestResult.codec) .none)
    Payload.codec
    (fun (status, diagnosticOutput, testsCompilation, testResults, ()) payload =>
      { status, diagnosticOutput, testsCompilation, testResults, payload })
    (fun r => (r.status, r.diagnosticOutput, r.testsCompilation, r.testResults, ()))
    (·.payload)

end CodeGrading
