import CodeGrading.Proofs.Json.Lossless
import CodeGrading.Runner.Client

/-!
The wire format of the code runner. Every job and every job result is decoded from its own text
(`wire_format_lossless`). A result is one object: its four parts, the tag, and the parts of its
payload all stand in it as members with different names (`JobResult.memberNames`), so none of them
is taken for another. What the client posts and reads goes through these texts
(`Client.decodeText_request`, `Client.readResponse_encodeText`).
-/

namespace CodeGrading

open Codec
open Fields (lossless_none)

variable {depth : Nat}

/-! ## Jobs -/

theorem ClassJob.Test.codec_lossless : ClassJob.Test.codec.Lossless (depth + 1) :=
  .record (.required lossless_text <| .required lossless_text <|
      .required lossless_text lossless_none)
    (by decide) fun _ => rfl

theorem ClassJob.codec_lossless : ClassJob.codec.Lossless (depth + 3) :=
  .record (.required lossless_text <| .required lossless_text <| .required lossless_int32 <|
      .required (.list lossless_text) <| .required (.list ClassJob.Test.codec_lossless)
      lossless_none)
    (by decide) fun _ => rfl

theorem MethodJob.Test.codec_lossless : MethodJob.Test.codec.Lossless (depth + 1) :=
  .record (.required lossless_text <| .required lossless_text lossless_none) (by decide)
    fun _ => rfl

theorem MethodJob.codec_lossless : MethodJob.codec.Lossless (depth + 3) :=
  .record (.required lossless_text <| .required (.list lossless_text) <|
      .required (.list MethodJob.Test.codec_lossless) lossless_none)
    (by decide) fun _ => rfl

theorem ProgramJob.Test.codec_lossless : ProgramJob.Test.codec.Lossless (depth + 1) :=
  .record (.required lossless_text <| .required lossless_text lossless_none) (by decide)
    fun _ => rfl

theorem ProgramJob.codec_lossless : ProgramJob.codec.Lossless (depth + 3) :=
  .record (.required lossless_text <| .required lossless_text <|
      .required (.list ProgramJob.Test.codec_lossless) lossless_none)
    (by decide) fun _ => rfl

theorem Job.codec_keeps (j : Job) : (Job.codec j.kind).Keeps (depth + 3) j := by
  cases j with
  | wholeClass j => exact keeps_variant rfl (ClassJob.codec_lossless j)
  | singleMethod j => exact keeps_variant rfl (MethodJob.codec_lossless j)
  | wholeProgram j => exact keeps_variant rfl (ProgramJob.codec_lossless j)

/-- Where the jobs of a kind are posted, the body of a request is decoded to its job. -/
theorem Client.decodeText_request (base : String) (j : Job) :
    (Job.codec j.kind).decodeText (request base j).body = .ok j := by
  have shallow : 3 ≤ Json.depthLimit := by decide
  exact j.codec_keeps.decodeText_encodeText shallow

/-! ## The parts of a result -/

theorem CompileError.codec_lossless : CompileError.codec.Lossless (depth + 1) :=
  .record (.default lossless_text <| .default lossless_text lossless_none) (by decide)
    fun _ => rfl

theorem Compilation.codec_lossless : Compilation.codec.Lossless (depth + 3) :=
  .record (.required lossless_flag <| .default (.list CompileError.codec_lossless) lossless_none)
    (by decide) fun _ => rfl

theorem FieldDefinition.codec_lossless : FieldDefinition.codec.Lossless (depth + 1) :=
  .record (.required lossless_text <| .required lossless_flag <|
      .required lossless_text lossless_none)
    (by decide) fun _ => rfl

theorem MethodDefinition.codec_lossless : MethodDefinition.codec.Lossless (depth + 2) :=
  .record (.required lossless_text <| .required lossless_flag <| .required lossless_flag <|
      .default (.list lossless_text) <| .optional definite_text lossless_text lossless_none)
    (by decide) fun _ => rfl

theorem ClassDefinition.codec_lossless : ClassDefinition.codec.Lossless (depth + 4) :=
  .record (.required lossless_text <| .default (.list FieldDefinition.codec_lossless) <|
      .default (.list MethodDefinition.codec_lossless) lossless_none)
    (by decide) fun _ => rfl

theorem TestResult.codec_lossless : TestResult.codec.Lossless (depth + 1) :=
  .record (.required lossless_text <| .required lossless_flag <| .default lossless_text <|
      .optional definite_text lossless_text <| .optional definite_text lossless_text
      lossless_none)
    (by decide) fun _ => rfl

theorem ClassPayload.codec_lossless : ClassPayload.codec.Lossless (depth + 5) :=
  .record (.required Compilation.codec_lossless <|
      .optional (definite_record _ _ _ _) ClassDefinition.codec_lossless lossless_none)
    (by decide) fun _ => rfl

theorem MethodPayload.codec_lossless : MethodPayload.codec.Lossless (depth + 4) :=
  .record (.required Compilation.codec_lossless <|
      .optional (definite_list _) (.list MethodDefinition.codec_lossless) lossless_none)
    (by decide) fun _ => rfl

theorem ProgramPayload.codec_lossless : ProgramPayload.codec.Lossless (depth + 4) :=
  .record (.required Compilation.codec_lossless lossless_none) (by decide) fun _ => rfl

/-! ## The payload among the parts of a result -/

theorem Kind.spelling_faithful : Kind.spelling.Faithful :=
  fun k => by cases k <;> rfl

theorem Status.spelling_faithful : Status.spelling.Faithful :=
  fun s => by cases s <;> rfl

namespace Payload

/-- The names of the members that a payload of each kind is written in. -/
def memberNames : Kind → List String
  | .wholeClass => ["classCompilationResult", "classDefinition"]
  | .singleMethod => ["methodCompilationResult", "methodDefinitions"]
  | .wholeProgram => ["programCompilationResult"]

theorem bodyCodec_keeps (p : Payload) : (bodyCodec p.kind).Keeps (depth + 5) p := by
  cases p with
  | wholeClass p => exact keeps_variant rfl (ClassPayload.codec_lossless p)
  | singleMethod p => exact keeps_variant rfl (MethodPayload.codec_lossless p)
  | wholeProgram p => exact keeps_variant rfl (ProgramPayload.codec_lossless p)

theorem bodyCodec_members (p : Payload) : (bodyCodec p.kind).Members (memberNames p.kind) p := by
  cases p with
  | wholeClass p => exact members_variant rfl (members_record _ _ _ _ p)
  | singleMethod p => exact members_variant rfl (members_record _ _ _ _ p)
  | wholeProgram p => exact members_variant rfl (members_record _ _ _ _ p)

theorem codec_lossless : codec.Lossless (depth + 5) := by
  intro p
  have fresh : "kind" ∉ memberNames p.kind := by cases p.kind <;> decide
  exact keeps_tagged Kind.spelling_faithful (bodyCodec_keeps p) (bodyCodec_members p) fresh

end Payload

namespace JobResult

/-- The names of the members of a result of each kind, in the order in which they are written. -/
def memberNames (k : Kind) : List String :=
  ["status", "diagnosticOutput", "testsCompilationResult", "testResults"] ++
    "kind" :: Payload.memberNames k

theorem memberNames_nodup (k : Kind) : (memberNames k).Nodup := by
  cases k <;> decide

theorem codec_lossless : codec.Lossless (depth + 5) := by
  intro r
  have distinct := List.nodup_append.mp (memberNames_nodup r.payload.kind)
  exact keeps_flattened
    (.required (lossless_word Status.spelling_faithful) <| .optional definite_text lossless_text <|
      .optional (definite_record _ _ _ _) Compilation.codec_lossless <|
      .optional (definite_list _) (.list TestResult.codec_lossless) lossless_none)
    distinct.1 (Payload.codec_lossless r.payload)
    (members_tagged (Payload.bodyCodec_members r.payload))
    (fun n beside own => distinct.2.2 n own n beside rfl) rfl

/-- A result is one object, with its payload and the word of its kind beside its own parts. -/
theorem codec_layout (r : JobResult) : ∃ ms, codec.encode r = .object ms ∧
    ms.map (·.1) = memberNames r.payload.kind ∧
    (codec.encode r).get? "kind" = some (.string r.payload.kind.word) := by
  obtain ⟨status, diagnosticOutput, testsCompilation, testResults, payload⟩ := r
  cases payload <;> exact ⟨_, rfl, rfl, rfl⟩

theorem decodeText_encodeText (r : JobResult) : codec.decodeText (codec.encodeText r) = .ok r := by
  have within : 5 ≤ Json.depthLimit := by decide
  exact (codec_lossless r).decodeText_encodeText within

end JobResult

/-- A runner that answers with the text of a result is understood. -/
theorem Client.readResponse_encodeText {status : Nat} (success : isSuccess status = true)
    (r : JobResult) : readResponse status (JobResult.codec.encodeText r) = .ok r := by
  simp only [readResponse, success, if_true, r.decodeText_encodeText]

/-- **The wire format loses nothing.** A result is written as one object: its parts, the word of its
kind, and beside them the parts of its payload. -/
theorem wire_format_lossless :
    (∀ j : ClassJob, ClassJob.codec.decodeText (ClassJob.codec.encodeText j) = .ok j) ∧
    (∀ j : MethodJob, MethodJob.codec.decodeText (MethodJob.codec.encodeText j) = .ok j) ∧
    (∀ j : ProgramJob, ProgramJob.codec.decodeText (ProgramJob.codec.encodeText j) = .ok j) ∧
    ∀ r : JobResult, JobResult.codec.decodeText (JobResult.codec.encodeText r) = .ok r ∧
      ∃ ms, JobResult.codec.encode r = .object ms ∧
        ms.map (·.1) = JobResult.memberNames r.payload.kind ∧
        (JobResult.codec.encode r).get? "kind" = some (.string r.payload.kind.word) := by
  have within : 5 ≤ Json.depthLimit := by decide
  refine ⟨fun j => ?_, fun j => ?_, fun j => ?_, fun r => ⟨?_, ?_⟩⟩
  · exact (ClassJob.codec_lossless j).decodeText_encodeText within
  · exact (MethodJob.codec_lossless j).decodeText_encodeText within
  · exact (ProgramJob.codec_lossless j).decodeText_encodeText within
  · exact (JobResult.codec_lossless r).decodeText_encodeText within
  · exact r.codec_layout

end CodeGrading
