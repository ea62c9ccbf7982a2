import CodeGrading.GradedResult.Codec
import CodeGrading.Proofs.Runner.WireFormat

/-!
Stored graded results. Diagnostics and outcomes are read back from the text of a graded result as
they were (`stored_result_read_back`). A count is the only part of them that has a bound
(`Diagnostic.Fits`). The score is a double, of which no more is used than that its text is read as
a score by itself (`Score.readsAs`).
-/

namespace CodeGrading

open Codec
open Fields (lossless_none)

variable {depth : Nat}

/-! ## Diagnostics -/

theorem MethodProperty.spelling_faithful : MethodProperty.spelling.Faithful :=
  fun p => by cases p <;> rfl

theorem Phase.spelling_faithful : Phase.spelling.Faithful
  | .submission .wholeClass | .submission .singleMethod | .submission .wholeProgram => rfl
  | .tests => rfl

theorem Category.spelling_faithful : Category.spelling.Faithful :=
  fun c => by cases c <;> rfl

theorem StructuralError.Variant.spelling_faithful : StructuralError.Variant.spelling.Faithful :=
  fun v => by cases v <;> rfl

/-- The count of the error, where it has one, fits 64 bits. -/
def StructuralError.Fits : StructuralError → Prop
  | .methodCount _ _ count _ => count < UInt64.size
  | .missingRequiredClass _ | .fieldVisibility _ _ | .methodDefinition _ => True

def Diagnostic.Fits : Diagnostic → Prop
  | .structural e => e.Fits
  | .methodSignature _ | .compilation _ _ => True

theorem missingRequiredClassCodec_lossless : missingRequiredClassCodec.Lossless (depth + 1) :=
  .record (.required lossless_text lossless_none) (by decide) fun _ => rfl

theorem fieldVisibilityCodec_lossless : fieldVisibilityCodec.Lossless (depth + 1) :=
  .record (.required lossless_text <| .required lossless_text lossless_none) (by decide)
    fun _ => rfl

theorem methodCountCodec_keeps {count : Nat} (fits : count < UInt64.size)
    (className methodName : String) (isStatic : Bool) :
    methodCountCodec.Keeps (depth + 1) (className, methodName, count, isStatic) := by
  refine keeps_record ⟨.inl ⟨lossless_text _, rfl⟩, .inl ⟨lossless_text _, rfl⟩, ?_,
    .inl ⟨lossless_flag _, rfl⟩, trivial⟩ (by decide) rfl
  exact .inl ⟨keeps_size fits, rfl⟩

theorem DefinitionError.codec_lossless : DefinitionError.codec.Lossless (depth + 2) :=
  .record (.required lossless_text <| .required lossless_text <| .required lossless_flag <|
      .required lossless_flag <| .required lossless_text <| .nullable definite_text lossless_text <|
      .default (.list (lossless_word MethodProperty.spelling_faithful)) lossless_none)
    (by decide) fun _ => rfl

namespace StructuralError

/-- The names of the members that an error of each variant is written in, without its tag. -/
def memberNames : Variant → List String
  | .missingRequiredClass => ["requiredClassName"]
  | .fieldVisibility => ["className", "fieldName"]
  | .methodCount => ["className", "expectedMethodName", "expectedCount", "expectedStatic"]
  | .methodDefinition =>
    ["className", "expectedMethodName", "expectedPublic", "expectedStatic", "expectedParamTypes",
      "expectedReturnType", "mismatches"]

theorem bodyCodec_keeps {e : StructuralError} (fits : e.Fits) :
    (bodyCodec e.variant).Keeps (depth + 2) e := by
  cases e with
  | missingRequiredClass className =>
    exact keeps_variant rfl (missingRequiredClassCodec_lossless className)
  | fieldVisibility className field =>
    exact keeps_variant (a := (className, field)) rfl (fieldVisibilityCodec_lossless _)
  | methodCount className method count isStatic =>
    exact keeps_variant (a := (className, method, count, isStatic)) rfl
      (methodCountCodec_keeps fits ..)
  | methodDefinition e => exact keeps_variant rfl (DefinitionError.codec_lossless e)

theorem bodyCodec_members (e : StructuralError) :
    (bodyCodec e.variant).Members (memberNames e.variant) e := by
  cases e with
  | missingRequiredClass className => exact members_variant rfl (members_record _ _ _ _ className)
  | fieldVisibility className field =>
    exact members_variant (a := (className, field)) rfl (members_record _ _ _ _ _)
  | methodCount className method count isStatic =>
    exact members_variant (a := (className, method, count, isStatic)) rfl (members_record _ _ _ _ _)
  | methodDefinition e => exact members_variant rfl (members_record _ _ _ _ e)

theorem codec_keeps {e : StructuralError} (fits : e.Fits) : codec.Keeps (depth + 2) e := by
  have fresh : "type" ∉ memberNames e.variant := by cases e.variant <;> decide
  exact keeps_tagged Variant.spelling_faithful (bodyCodec_keeps fits) (bodyCodec_members e) fresh

end StructuralError

theorem SignatureError.codec_lossless : SignatureError.codec.Lossless (depth + 1) :=
  .record (.required lossless_text <| .required lossless_flag <| .required lossless_flag <|
      .required lossless_text <| .required lossless_text lossless_none)
    (by decide) fun _ => rfl

theorem compilationCodec_lossless : compilationCodec.Lossless (depth + 3) :=
  .record (.required (lossless_word Phase.spelling_faithful) <|
      .required (.list CompileError.codec_lossless) lossless_none)
    (by decide) fun _ => rfl

namespace Diagnostic

theorem detailCodec_keeps {d : Diagnostic} (fits : d.Fits) :
    (detailCodec d.category).Keeps (depth + 3) d := by
  cases d with
  | structural e => exact keeps_variant rfl (StructuralError.codec_keeps fits)
  | methodSignature e => exact keeps_variant rfl (SignatureError.codec_lossless e)
  | compilation phase errors =>
    exact keeps_variant (a := (phase, errors)) rfl (compilationCodec_lossless _)

theorem codec_keeps {d : Diagnostic} (fits : d.Fits) : codec.Keeps (depth + 4) d :=
  keeps_labelled Category.spelling_faithful (by decide) (detailCodec_keeps fits)

end Diagnostic

/-! ## Outcomes -/

theorem TestOutcome.codec_lossless : TestOutcome.codec.Lossless (depth + 1) :=
  .record (.required lossless_text <| .required lossless_text <| .required lossless_flag <|
      .required lossless_flag <| .required lossless_text <| .nullable definite_text lossless_text <|
      .nullable definite_text lossless_text <| .nullable definite_text lossless_text <|
      .unwritten definite_text lossless_text lossless_none)
    (by decide) fun _ => rfl

/-- An outcome has a member for its exception only if it has one. -/
theorem TestOutcome.get?_exception (t : TestOutcome) :
    (codec.encode t).get? "exception" = t.exception.map .string := by
  obtain ⟨name, description, passed, completed, expectedOutput, actualOutput, expectedReturnValue,
    actualReturnValue, exception⟩ := t
  cases exception <;> rfl

/-! ## Graded results -/

/-- A score whose text is read as a score by itself is read as that score wherever it stands. -/
theorem Score.readsAs {s s' : Score} (read : codec.decodeText (codec.encodeText s) = .ok s') :
    ∃ w, Json.ReadsAs depth (codec.encode s) w ∧ codec.decode .streamed w = .ok s' := by
  obtain ⟨w, ⟨rest, text, blank⟩, decoded⟩ := decodeText_eq_ok.mp read
  cases w with
  | number n =>
    have written := Json.numberChar_toChars s.toDouble
    exact ⟨_, Json.readsAs_of_read (l := .compact) written text blank, decoded⟩
  | null | bool | string | array | object | fault => cases decoded

/-- **Stored graded results read back.** The diagnostics and the outcomes are read from the text of
a graded result as they were and in their order, in either layout, whatever double its score is read
as. An absent exception is left out of the text. -/
theorem stored_result_read_back {g : GradedResult} {s : Score}
    (fits : ∀ d ∈ g.errors, d.Fits)
    (score : Score.codec.decodeText (Score.codec.encodeText g.score) = .ok s) (l : Json.Layout) :
    GradedResult.codec.decodeText (l.write (GradedResult.codec.encode g)) =
        .ok { g with score := s } ∧
      ∀ t ∈ g.testResults,
        (TestOutcome.codec.encode t).get? "exception" = t.exception.map .string := by
  refine ⟨?_, fun t _ => t.get?_exception⟩
  have within : 6 ≤ Json.depthLimit := by decide
  obtain ⟨w, scoreRead, scored⟩ : ∃ w, Json.ReadsAs 5 (Score.codec.encode g.score) w ∧
    Score.codec.decode .streamed w = .ok s := Score.readsAs score
  have errors : (list Diagnostic.codec).Keeps 5 g.errors :=
    keeps_list fun d mem => Diagnostic.codec_keeps (fits d mem)
  have outcomes : (list TestOutcome.codec).Keeps 5 g.testResults :=
    keeps_list fun t _ => TestOutcome.codec_lossless t
  have reads : Json.ReadsAs 6 (GradedResult.codec.encode g)
      (.object [("score", w), ("errors", (list Diagnostic.codec).encode g.errors),
        ("testResults", (list TestOutcome.codec).encode g.testResults)]) :=
    Json.readsAs_object <| .cons ⟨rfl, scoreRead⟩ <| .cons ⟨rfl, errors.legible.readsAs⟩ <|
      .cons ⟨rfl, outcomes.legible.readsAs⟩ .nil
  rw [decodeText_write _ reads within l]
  refine (decode_record_object (by decide)).mpr ⟨(s, g.errors, g.testResults, ()), ?_, rfl, nofun⟩
  exact ⟨.present scored, .present (errors.decode _), .present (outcomes.decode _), trivial⟩

/-- A result with a diagnostic of each category, the greatest count, and an outcome with and one
without an exception. -/
def mixedResult : GradedResult where
  score := .share 1 2
  errors :=
    [.structural (.missingRequiredClass "Box"),
     .structural (.fieldVisibility "Box" "content"),
     .structural (.methodCount "Box" "put" 18446744073709551615 false),
     .structural (.methodDefinition
       ⟨"Box", "Box", true, false, "int", none, [.visibility, .parameterTypes]⟩),
     .methodSignature ⟨"max", true, true, "int, int", "int"⟩,
     .compilation .tests [⟨"';' expected", "Box.java:1: error: ';' expected\n"⟩]]
  testResults :=
    [⟨"empty", "", true, true, "", some "", none, none, none⟩,
     ⟨"full", "", false, false, "1", none, some "1", none, some "java.lang.Error: \"1\""⟩]

theorem mixedResult_read_back :
    GradedResult.codec.decodeText (GradedResult.codec.encodeText mixedResult) =
        .ok { mixedResult with score := .stored ⟨false, 0x10000000000000, -53⟩ } ∧
      ∀ t ∈ mixedResult.testResults,
        (TestOutcome.codec.encode t).get? "exception" = t.exception.map .string := by
  have fits : ∀ d ∈ mixedResult.errors, d.Fits := by
    simp [mixedResult, Diagnostic.Fits, StructuralError.Fits, UInt64.size]
  have half : Score.codec.decodeText (Score.codec.encodeText (.share 1 2)) =
      .ok (.stored ⟨false, 0x10000000000000, -53⟩) :=
    eq_ok_of_toOption (by decide +kernel)
  exact stored_result_read_back fits half .compact

end CodeGrading
