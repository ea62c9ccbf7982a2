import CodeGrading.Diagnostic
import CodeGrading.JobResult.Codec

/-!
Diagnostics in JSON: the member `category` and the member `detail`. The detail of a structural
error is tagged by `type`.
-/

namespace CodeGrading

def MethodProperty.word : MethodProperty → String
  | .visibility => "Visibility"
  | .staticness => "Staticness"
  | .parameterTypes => "ParameterTypes"
  | .returnType => "ReturnType"

def MethodProperty.spelling : Spelling MethodProperty where
  all := [.visibility, .staticness, .parameterTypes, .returnType]
  spell := word

def Phase.word : Phase → String
  | .submission kind => kind.word
  | .tests => "tests"

def Phase.spelling : Spelling Phase where
  all := [.submission .wholeClass, .tests, .submission .singleMethod, .submission .wholeProgram]
  spell := word

def Category.spelling : Spelling Category where
  all := [.structural, .methodSignature, .compilation]
  spell := word

namespace StructuralError

/-- The variants of a structural error without their contents. -/
inductive Variant where
  | missingRequiredClass
  | fieldVisibility
  | methodCount
  | methodDefinition
  deriving DecidableEq, Repr

def Variant.word : Variant → String
  | .missingRequiredClass => "MissingRequiredClass"
  | .fieldVisibility => "FieldVisibility"
  | .methodCount => "MethodCount"
  | .methodDefinition => "MethodDefinition"

def Variant.spelling : Spelling Variant where
  all := [.missingRequiredClass, .fieldVisibility, .methodCount, .methodDefinition]
  spell := word

def variant : StructuralError → Variant
  | .missingRequiredClass _ => .missingRequiredClass
  | .fieldVisibility _ _ => .fieldVisibility
  | .methodCount _ _ _ _ => .methodCount
  | .methodDefinition _ => .methodDefinition

end StructuralError

def missingRequiredClassCodec : Codec String :=
  .record "MissingRequiredClassError" (.required "requiredClassName" .text .none)
    (fun (requiredClassName, ()) => requiredClassName)
    (fun requiredClassName => (requiredClassName, ()))

def fieldVisibilityCodec : Codec (String × String) :=
  .record "FieldVisibilityError"
    (.required "className" .text <|
      .required "fieldName" .text .none)
    (fun (className, fieldName, ()) => (className, fieldName))
    (fun (className, fieldName) => (className, fieldName, ()))

def methodCountCodec : Codec (String × String × Nat × Bool) :=
  .record "MethodCountError"
    (.required "className" .text <|
      .required "expectedMethodName" .text <|
      .required "expectedCount" .size <|
      .required "expectedStatic" .flag .none)
    (fun (className, methodName, count, isStatic, ()) => (className, methodName, count, isStatic))
    (fun (className, methodName, count, isStatic) => (className, methodName, count, isStatic, ()))

def DefinitionError.codec : Codec DefinitionError :=
  .record "MethodDefinitionError"
    (.required "className" .text <|
      .required "expectedMethodName" .text <|
      .required "expectedPublic" .flag <|
      .required "expectedStatic" .flag <|
      .required "expectedParamTypes" .text <|
      .nullable "expectedReturnType" .text <|
      .default "mismatches" (.list (.word MethodProperty.spelling)) [] .none)
    (fun (className, expectedMethodName, expectedPublic, expectedStatic, expectedParamTypes,
        expectedReturnType, mismatches, ()) =>
      { className, expectedMethodName, expectedPublic, expectedStatic, expectedParamTypes
        expectedReturnType, mismatches })
    (fun e => (e.className, e.expectedMethodName, e.expectedPublic, e.expectedStatic,
      e.expectedParamTypes, e.expectedReturnType, e.mismatches, ()))

namespace StructuralError

/-- The fields of each variant. -/
def bodyCodec : Variant → Codec StructuralError
  | .missingRequiredClass => .variant missingRequiredClassCodec .missingRequiredClass
      fun | .missingRequiredClass className => some className | _ => none
  | .fieldVisibility =>
      .variant fieldVisibilityCodec (fun (className, field) => .fieldVisibility className field)
        fun | .fieldVisibility className field => some (className, field) | _ => none
  | .methodCount =>
      .variant methodCountCodec
        (fun (className, method, count, isStatic) => .methodCount className method count isStatic)
        fun
          | .methodCount className method count isStatic =>
            some (className, method, count, isStatic)
          | _ => none
  | .methodDefinition => .variant DefinitionError.codec .methodDefinition
      fun | .methodDefinition e => some e | _ => none

def codec : Codec StructuralError :=
  .tagged "StructuralError" "type" Variant.spelling bodyCodec variant

end StructuralError

def SignatureError.codec : Codec SignatureError :=
  .record "MethodSignatureError"
    (.required "expectedMethodName" .text <|
      .required "expectedPublic" .flag <|
      .required "expectedStatic" .flag <|
      .required "expectedParamTypes" .text <|
      .required "expectedReturnType" .text .none)
    (fun (expectedMethodName, expectedPublic, expectedStatic, expectedParamTypes,
        expectedReturnType, ()) =>
      { expectedMethodName, expectedPublic, expectedStatic, expectedParamTypes
        expectedReturnType })
    (fun e => (e.expectedMethodName, e.expectedPublic, e.expectedStatic, e.expectedParamTypes,
      e.expectedReturnType, ()))

def compilationCodec : Codec (Phase × List CompileError) :=
  .record "CompilationDiagnostic"
    (.required "phase" (.word Phase.spelling) <|
      .required "errors" (.list CompileError.codec) .none)
    (fun (phase, errors, ()) => (phase, errors))
    (fun (phase, errors) => (phase, errors, ()))

namespace Diagnostic

/-- The detail of each category. -/
def detailCodec : Category → Codec Diagnostic
  | .structural => .variant StructuralError.codec .structural
      fun | .structural e => some e | _ => none
  | .methodSignature => .variant SignatureError.codec .methodSignature
      fun | .methodSignature e => some e | _ => none
  | .compilation => .variant compilationCodec (fun (phase, errors) => .compilation phase errors)
      fun | .compilation phase errors => some (phase, errors) | _ => none

def codec : Codec Diagnostic :=
  .labelled "CodeQuestionError" "category" "detail" Category.spelling detailCodec category

end Diagnostic

end CodeGrading
