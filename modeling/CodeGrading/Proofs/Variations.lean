import CodeGrading.Proofs.Json.Variation
import CodeGrading.Proofs.Question.Stored

/-!
Questions and job results up to order and extras. The shapes tell for each kind which names are
known and which parts are optional. Whatever the order of the members, beside whatever unknown
members and with or without the nulls of absent parts, the same question and the same job result is
decoded (`variations_decode_alike`). Only a status takes no further member where it is an object
(`status_object_takes_no_member`).
-/

namespace CodeGrading

open Codec
open Json (Shape Varies)
open Json.Shape (part optionalPart)

/-! ## Questions -/

theorem TypeList.eq_map_of_strings? {vs : List Json} {types : List String}
    (strings : strings? vs = some types) : vs = types.map .string := by
  induction vs generalizing types with
  | nil =>
    obtain rfl := Option.some.inj strings
    rfl
  | cons v vs ih =>
    cases v with
    | string s =>
      obtain ⟨more, later, rfl⟩ := Option.map_eq_some_iff.mp strings
      rw [ih later, List.map_cons]
    | null | bool | number | array | object | fault => cases strings

/-- A list of types is one text or some texts, and texts have no parts. -/
theorem TypeList.codec_respects : TypeList.codec.Respects fun _ => .plain := by
  intro delivery v types decoded w step
  simp only [codec] at decoded
  split at decoded
  · split at decoded
    · cases step
    · split at decoded
      · rename_i strings
        cases step with
        | @item _ front back v w inside =>
          have mem : v ∈ front ++ v :: back := List.mem_append_right front List.mem_cons_self
          rw [eq_map_of_strings? strings] at mem
          obtain ⟨t, -, rfl⟩ := List.mem_map.mp mem
          cases inside
      · cases decoded
    · cases decoded
  · cases decoded

def importedClassShape : Shape :=
  .record [part "className" .plain]

def RequiredMethod.shape : Shape :=
  .record
    [part "name" .plain, part "isPublic" .plain, part "isStatic" .plain, part "paramTypes" .plain,
      optionalPart "returnType" .plain]

def ClassQuestion.Test.shape : Shape :=
  .record
    [part "name" .plain, part "order" .plain, part "description" .plain, part "methodBody" .plain,
      part "returnType" .plain, optionalPart "expectedReturnValue" .plain,
      part "expectedOutput" .plain]

def MethodQuestion.Test.shape : Shape :=
  .record
    [part "name" .plain, part "order" .plain, part "description" .plain,
      part "parameterValues" .plain, optionalPart "expectedReturnValue" .plain,
      part "expectedOutput" .plain]

def ProgramQuestion.Test.shape : Shape :=
  .record
    [part "name" .plain, part "order" .plain, part "description" .plain,
      part "commandLineArguments" .plain, part "expectedOutput" .plain]

namespace Question

/-- The parts of each kind of question beside its tag. -/
def parts : Kind → List (String × Bool × Shape)
  | .wholeClass =>
    [part "className" .plain, part "fileTemplate" .plain, part "allowPublicFields" .plain,
      part "importedClasses" (.list importedClassShape),
      part "requiredMethods" (.list RequiredMethod.shape),
      part "tests" (.list ClassQuestion.Test.shape)]
  | .singleMethod =>
    [part "methodName" .plain, part "parameterTypes" .plain, part "returnType" .plain,
      part "isPublic" .plain, part "isStatic" .plain,
      part "importedClasses" (.list importedClassShape),
      part "tests" (.list MethodQuestion.Test.shape)]
  | .wholeProgram =>
    [part "programClassName" .plain, part "tests" (.list ProgramQuestion.Test.shape)]

def shape (k : Kind) : Shape :=
  .record (part "type" .plain :: parts k)

end Question

theorem importedClassCodec_respects : importedClassCodec.Respects fun _ => importedClassShape :=
  .record (.required respects_text .none) (by decide)

theorem RequiredMethod.codec_respects : RequiredMethod.codec.Respects fun _ => shape :=
  .record (.required respects_text <| .required respects_flag <| .required respects_flag <|
      .default TypeList.codec_respects <| .optional respects_text .none)
    (by decide)

theorem ClassQuestion.Test.codec_respects : ClassQuestion.Test.codec.Respects fun _ => shape :=
  .record (.required respects_text <| .default respects_int32 <| .default respects_text <|
      .required respects_text <| .required respects_text <| .optional respects_text <|
      .default respects_text .none)
    (by decide)

theorem MethodQuestion.Test.codec_respects : MethodQuestion.Test.codec.Respects fun _ => shape :=
  .record (.required respects_text <| .default respects_int32 <| .default respects_text <|
      .default respects_text <| .optional respects_text <| .default respects_text .none)
    (by decide)

theorem ProgramQuestion.Test.codec_respects : ProgramQuestion.Test.codec.Respects fun _ => shape :=
  .record (.required respects_text <| .default respects_int32 <| .default respects_text <|
      .default respects_text <| .default respects_text .none)
    (by decide)

namespace Question

theorem bodyCodec_respects (k : Kind) : (bodyCodec k).Respects fun _ => .record (parts k) := by
  cases k with
  | wholeClass =>
    exact .variant <| .record
      (.required respects_text <| .required respects_text <| .default respects_flag <|
        .default importedClassCodec_respects.list <| .default RequiredMethod.codec_respects.list <|
        .default ClassQuestion.Test.codec_respects.list .none)
      (by decide)
  | singleMethod =>
    exact .variant <| .record
      (.required respects_text <| .default TypeList.codec_respects <| .required respects_text <|
        .default respects_flag <| .default respects_flag <|
        .default importedClassCodec_respects.list <|
        .default MethodQuestion.Test.codec_respects.list .none)
      (by decide)
  | wholeProgram =>
    exact .variant <| .record
      (.required respects_text <| .default ProgramQuestion.Test.codec_respects.list .none)
      (by decide)

theorem codec_respects : codec.Respects fun q => shape q.kind :=
  .tagged bodyCodec_sorted bodyCodec_respects

end Question

/-! ## Job results -/

def CompileError.shape : Shape :=
  .record [part "message" .plain, part "fullError" .plain]

def Compilation.shape : Shape :=
  .record [part "success" .plain, part "errors" (.list CompileError.shape)]

def FieldDefinition.shape : Shape :=
  .record [part "name" .plain, part "isPublic" .plain, part "type" .plain]

def MethodDefinition.shape : Shape :=
  .record
    [part "name" .plain, part "isPublic" .plain, part "isStatic" .plain,
      part "parameterTypes" (.list .plain), optionalPart "returnType" .plain]

def ClassDefinition.shape : Shape :=
  .record
    [part "name" .plain, part "fields" (.list FieldDefinition.shape),
      part "methods" (.list MethodDefinition.shape)]

def TestResult.shape : Shape :=
  .record
    [part "name" .plain, part "completed" .plain, part "output" .plain,
      optionalPart "returnValue" .plain, optionalPart "exception" .plain]

/-- The parts of each kind of payload beside its tag. -/
def Payload.parts : Kind → List (String × Bool × Shape)
  | .wholeClass =>
    [part "classCompilationResult" Compilation.shape,
      optionalPart "classDefinition" ClassDefinition.shape]
  | .singleMethod =>
    [part "methodCompilationResult" Compilation.shape,
      optionalPart "methodDefinitions" (.list MethodDefinition.shape)]
  | .wholeProgram => [part "programCompilationResult" Compilation.shape]

namespace JobResult

/-- The parts of every job result. -/
def parts : List (String × Bool × Shape) :=
  [part "status" .plain, optionalPart "diagnosticOutput" .plain,
    optionalPart "testsCompilationResult" Compilation.shape,
    optionalPart "testResults" (.list TestResult.shape)]

def shape (k : Kind) : Shape :=
  .record (parts ++ part "kind" .plain :: Payload.parts k)

end JobResult

theorem CompileError.codec_respects : CompileError.codec.Respects fun _ => shape :=
  .record (.default respects_text <| .default respects_text .none) (by decide)

theorem Compilation.codec_respects : Compilation.codec.Respects fun _ => shape :=
  .record (.required respects_flag <| .default CompileError.codec_respects.list .none) (by decide)

theorem FieldDefinition.codec_respects : FieldDefinition.codec.Respects fun _ => shape :=
  .record (.required respects_text <| .required respects_flag <| .required respects_text .none)
    (by decide)

theorem MethodDefinition.codec_respects : MethodDefinition.codec.Respects fun _ => shape :=
  .record (.required respects_text <| .required respects_flag <| .required respects_flag <|
      .default respects_text.list <| .optional respects_text .none)
    (by decide)

theorem ClassDefinition.codec_respects : ClassDefinition.codec.Respects fun _ => shape :=
  .record (.required respects_text <| .default FieldDefinition.codec_respects.list <|
      .default MethodDefinition.codec_respects.list .none)
    (by decide)

theorem TestResult.codec_respects : TestResult.codec.Respects fun _ => shape :=
  .record (.required respects_text <| .required respects_flag <| .default respects_text <|
      .optional respects_text <| .optional respects_text .none)
    (by decide)

namespace Payload

theorem bodyCodec_sorted : Sorted bodyCodec kind := by
  intro k delivery v p decoded
  cases k <;> exact kind_of_decode_variant decoded fun _ => rfl

theorem bodyCodec_respects (k : Kind) : (bodyCodec k).Respects fun _ => .record (parts k) := by
  cases k with
  | wholeClass =>
    exact .variant <| .record
      (.required Compilation.codec_respects <| .optional ClassDefinition.codec_respects .none)
      (by decide)
  | singleMethod =>
    exact .variant <| .record
      (.required Compilation.codec_respects <|
        .optional MethodDefinition.codec_respects.list .none)
      (by decide)
  | wholeProgram =>
    exact .variant <| .record (.required Compilation.codec_respects .none) (by decide)

theorem codec_respects :
    codec.Respects fun p => .record (part "kind" .plain :: parts p.kind) :=
  .tagged bodyCodec_sorted bodyCodec_respects

end Payload

theorem JobResult.codec_respects : codec.Respects fun r => shape r.payload.kind :=
  .flattened
    (.required (respects_word Status.spelling) <| .optional respects_text <|
      .optional Compilation.codec_respects <| .optional TestResult.codec_respects.list .none)
    (by decide) Payload.codec_respects fun _ _ => rfl

/-- **Order and extras carry no meaning.** From a text of a varied document the question or job
result is decoded that is decoded from a text of the document itself. -/
theorem variations_decode_alike :
    (∀ {text text' : String} {v w : Json} {q : Question},
      Question.codec.decodeText text = .ok q → v.HasText text → w.HasText text' →
      Varies (Question.shape q.kind) v w → Question.codec.decodeText text' = .ok q) ∧
    ∀ {text text' : String} {v w : Json} {r : JobResult},
      JobResult.codec.decodeText text = .ok r → v.HasText text → w.HasText text' →
      Varies (JobResult.shape r.payload.kind) v w → JobResult.codec.decodeText text' = .ok r :=
  ⟨Question.codec_respects.decodeText_of_varies, JobResult.codec_respects.decodeText_of_varies⟩

def plainQuestion : Json :=
  .object
    [("type", .string "method"), ("methodName", .string "max"),
     ("parameterTypes", .string "int, int"), ("returnType", .string "int"),
     ("tests", .array [.object [("name", .string "equal")]])]

/-- The same question the other way round, with a remark and with a null. -/
def variedQuestion : Json :=
  .object
    [("remark", .array [.null, .bool true]),
     ("tests", .array [.object [("expectedReturnValue", .null), ("name", .string "equal")]]),
     ("returnType", .string "int"), ("parameterTypes", .string "int, int"),
     ("methodName", .string "max"), ("type", .string "method")]

theorem plainQuestion_varies : Varies (Question.shape .singleMethod) plainQuestion variedQuestion := by
  have test : Json.Step MethodQuestion.Test.shape (.object [("name", .string "equal")])
      (.object [("expectedReturnValue", .null), ("name", .string "equal")]) :=
    .writeNull rfl (by simp)
  have tests : Json.Step (.list MethodQuestion.Test.shape)
      (.array [.object [("name", .string "equal")]])
      (.array [.object [("expectedReturnValue", .null), ("name", .string "equal")]]) :=
    @Json.Step.item _ [] [] _ _ test
  refine .tail (.tail (.single (.reorder (List.reverse_perm _).symm)) ?_) (.add rfl rfl)
  exact @Json.Step.member _ [] _ "tests" _ _ tests

def plainResult : Json :=
  .object
    [("kind", .string "method"), ("status", .string "Completed"),
     ("methodCompilationResult", .object [("success", .bool false)]), ("methodDefinitions", .null)]

/-- The same result the other way round, without its null and with a part that only the results of
classes have. -/
def variedResult : Json :=
  .object
    [("classDefinition", .object []),
     ("methodCompilationResult", .object [("success", .bool false)]),
     ("status", .string "Completed"), ("kind", .string "method")]

theorem plainResult_varies : Varies (JobResult.shape .singleMethod) plainResult variedResult :=
  .tail (.tail (.single (.reorder (List.reverse_perm _).symm)) (.leaveOut rfl)) (.add rfl rfl)

theorem plain_and_varied_decode_alike :
    (∃ q : Question, q.kind = .singleMethod ∧
      Question.codec.decodeText plainQuestion.compact = .ok q ∧
      Question.codec.decodeText variedQuestion.pretty = .ok q) ∧
    ∃ r : JobResult, r.payload.kind = .singleMethod ∧
      JobResult.codec.decodeText plainResult.compact = .ok r ∧
      JobResult.codec.decodeText variedResult.pretty = .ok r := by
  have within : 4 ≤ Json.depthLimit := by decide
  obtain ⟨ofQuestion, ofResult⟩ := variations_decode_alike
  constructor
  · have before : Json.Legible 4 plainQuestion := by simp [plainQuestion]
    have after : Json.Legible 4 variedQuestion := by simp [variedQuestion]
    have decoded : Question.codec.decodeText plainQuestion.compact =
        .ok (.singleMethod ⟨"max", ["int", "int"], "int", true, true, [],
          [⟨"equal", 0, "", "", none, ""⟩]⟩) :=
      (decodeText_write _ before.readsAs within .compact).trans
        (eq_ok_of_toOption (by decide +kernel))
    exact ⟨_, rfl, decoded, ofQuestion decoded (before.hasText within .compact)
      (after.hasText within .pretty) plainQuestion_varies⟩
  · have before : Json.Legible 4 plainResult := by simp [plainResult]
    have after : Json.Legible 4 variedResult := by simp [variedResult]
    have decoded : JobResult.codec.decodeText plainResult.compact =
        .ok ⟨.completed, none, none, none, .singleMethod ⟨⟨false, []⟩, none⟩⟩ :=
      (decodeText_write _ before.readsAs within .compact).trans
        (eq_ok_of_toOption (by decide +kernel))
    exact ⟨_, rfl, decoded, ofResult decoded (before.hasText within .compact)
      (after.hasText within .pretty) plainResult_varies⟩

/-- A job result whose status is an object with these members. -/
def resultWithStatus (status : List (String × Json)) : Json :=
  .object
    [("status", .object status), ("kind", .string "program"),
     ("programCompilationResult", .object [("success", .bool true)])]

/-- A status may be an object, but then it takes no member beside its word. -/
theorem status_object_takes_no_member :
    JobResult.codec.decodeText (resultWithStatus [("Completed", .null)]).compact =
        .ok ⟨.completed, none, none, none, .wholeProgram ⟨⟨true, []⟩⟩⟩ ∧
      Json.Step (.record [part "status" (.record [])])
        (resultWithStatus [("Completed", .null)])
        (resultWithStatus [("remark", .bool true), ("Completed", .null)]) ∧
      JobResult.codec.decodeText
          (resultWithStatus [("remark", .bool true), ("Completed", .null)]).compact =
        .error (.mismatch (.unknownVariant "remark" Status.spelling.words)) := by
  have within : 3 ≤ Json.depthLimit := by decide
  have legible : Json.Legible 3 (resultWithStatus [("Completed", .null)]) := by
    simp [resultWithStatus]
  have legible' :
      Json.Legible 3 (resultWithStatus [("remark", .bool true), ("Completed", .null)]) := by
    simp [resultWithStatus]
  refine ⟨?_, ?_, ?_⟩
  · exact (decodeText_write _ legible.readsAs within .compact).trans
      (eq_ok_of_toOption (by decide +kernel))
  · exact @Json.Step.member _ [] _ "status" _ _ (.add rfl rfl)
  · exact (decodeText_write _ legible'.readsAs within .compact).trans rfl

end CodeGrading
