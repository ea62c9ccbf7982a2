import CodeGrading.Proofs.Json.Stable
import CodeGrading.Proofs.Runner.WireFormat
import CodeGrading.Proofs.Text.Trimming
import CodeGrading.Question.Codec

/-!
Stored questions. A list of types is the one part of a question that is not kept as it is: its
types are trimmed when they are read, from an array or from one text (`TypeList.trimmed_of_decode`),
and a list of trimmed types is kept (`TypeList.keeps_trimmed`). So a question that was read from a
text is read from its own text again, and saving it again changes nothing
(`stored_question_stable`).
-/

namespace CodeGrading

open Codec
open Fields (lossless_none)

variable {depth : Nat}

/-! ## Lists of types -/

namespace TypeList

theorem strings?_map_string (types : List String) : strings? (types.map .string) = some types := by
  induction types with
  | nil => rfl
  | cons t types ih =>
    rw [List.map_cons, strings?, ih]
    rfl

theorem keeps_trimmed {types : List String} (trimmed : ∀ t ∈ types, Text.trim t = t) :
    codec.Keeps (depth + 1) types := by
  have legible : Json.Legible (depth + 1) (codec.encode types) := by
    apply Json.Legible.array
    intro v mem
    obtain ⟨t, -, rfl⟩ := List.mem_map.mp mem
    exact .string t
  have unchanged : types.map Text.trim = types :=
    (List.map_congr_left trimmed).trans (List.map_id _)
  refine ⟨fun delivery => ?_, legible⟩
  simp only [codec] at legible ⊢
  simp only [legible.sound, if_true, strings?_map_string, unchanged]

theorem trimmed_split (s : String) : ∀ t ∈ split s, Text.trim t = t := by
  rw [split]
  split
  · nofun
  · intro t mem
    obtain ⟨piece, -, rfl⟩ := List.mem_map.mp mem
    rw [Text.trim, String.toList_ofList, Text.trimChars_trimChars]

theorem trimmed_of_decode {delivery : Delivery} {v : Json} {types : List String}
    (decoded : codec.decode delivery v = .ok types) : ∀ t ∈ types, Text.trim t = t := by
  simp only [codec] at decoded
  split at decoded
  · split at decoded
    · cases decoded
      exact trimmed_split _
    · split at decoded
      · cases decoded
        intro t mem
        obtain ⟨s, -, rfl⟩ := List.mem_map.mp mem
        exact Text.trim_trim s
      · cases decoded
    · cases decoded
  · cases decoded

theorem codec_stable : codec.Stable (depth + 1) :=
  fun _ _ _ decoded => keeps_trimmed (trimmed_of_decode decoded)

end TypeList

/-! ## Questions -/

theorem importedClassCodec_lossless : importedClassCodec.Lossless (depth + 1) :=
  .record (.required lossless_text lossless_none) (by decide) fun _ => rfl

theorem RequiredMethod.codec_stable : RequiredMethod.codec.Stable (depth + 2) :=
  .record
    (.required lossless_text.stable <| .required lossless_flag.stable <|
      .required lossless_flag.stable <| .default TypeList.codec_stable (TypeList.keeps_trimmed nofun)
      (Fields.Lossless.optional definite_text lossless_text lossless_none).stable)
    (by decide) (fun _ => rfl) fun _ => rfl

theorem ClassQuestion.Test.codec_lossless : ClassQuestion.Test.codec.Lossless (depth + 1) :=
  .record (.required lossless_text <| .default lossless_int32 <| .default lossless_text <|
      .required lossless_text <| .required lossless_text <| .optional definite_text lossless_text <|
      .default lossless_text lossless_none)
    (by decide) fun _ => rfl

theorem ClassQuestion.codec_stable : ClassQuestion.codec.Stable (depth + 4) :=
  .record
    (.required lossless_text.stable <| .required lossless_text.stable <|
      .default lossless_flag.stable (lossless_flag _) <|
      .default importedClassCodec_lossless.list.stable (keeps_list nofun) <|
      .default RequiredMethod.codec_stable.list (keeps_list nofun)
      (Fields.Lossless.default ClassQuestion.Test.codec_lossless.list lossless_none).stable)
    (by decide) (fun _ => rfl) fun _ => rfl

theorem MethodQuestion.Test.codec_lossless : MethodQuestion.Test.codec.Lossless (depth + 1) :=
  .record (.required lossless_text <| .default lossless_int32 <| .default lossless_text <|
      .default lossless_text <| .optional definite_text lossless_text <|
      .default lossless_text lossless_none)
    (by decide) fun _ => rfl

theorem MethodQuestion.codec_stable : MethodQuestion.codec.Stable (depth + 3) :=
  .record
    (.required lossless_text.stable <|
      .default TypeList.codec_stable (TypeList.keeps_trimmed nofun)
      (Fields.Lossless.required lossless_text <| .default lossless_flag <|
        .default lossless_flag <| .default importedClassCodec_lossless.list <|
        .default MethodQuestion.Test.codec_lossless.list lossless_none).stable)
    (by decide) (fun _ => rfl) fun _ => rfl

theorem ProgramQuestion.Test.codec_lossless : ProgramQuestion.Test.codec.Lossless (depth + 1) :=
  .record (.required lossless_text <| .default lossless_int32 <| .default lossless_text <|
      .default lossless_text <| .default lossless_text lossless_none)
    (by decide) fun _ => rfl

theorem ProgramQuestion.codec_lossless : ProgramQuestion.codec.Lossless (depth + 3) :=
  .record (.required lossless_text <|
      .default ProgramQuestion.Test.codec_lossless.list lossless_none)
    (by decide) fun _ => rfl

namespace Question

/-- The names of the members that a question of each kind is written in, without its tag. -/
def memberNames : Kind → List String
  | .wholeClass =>
    ["className", "fileTemplate", "allowPublicFields", "importedClasses", "requiredMethods",
      "tests"]
  | .singleMethod =>
    ["methodName", "parameterTypes", "returnType", "isPublic", "isStatic", "importedClasses",
      "tests"]
  | .wholeProgram => ["programClassName", "tests"]

theorem bodyCodec_stable (k : Kind) : (bodyCodec k).Stable (depth + 4) := by
  cases k with
  | wholeClass => exact .variant (fun _ => rfl) ClassQuestion.codec_stable
  | singleMethod => exact .variant (fun _ => rfl) MethodQuestion.codec_stable
  | wholeProgram => exact .variant (fun _ => rfl) ProgramQuestion.codec_lossless.stable

theorem bodyCodec_sorted : Sorted bodyCodec kind := by
  intro k delivery v q decoded
  cases k <;> exact kind_of_decode_variant decoded fun _ => rfl

theorem bodyCodec_members (q : Question) : (bodyCodec q.kind).Members (memberNames q.kind) q := by
  cases q with
  | wholeClass q => exact members_variant rfl (members_record _ _ _ _ q)
  | singleMethod q => exact members_variant rfl (members_record _ _ _ _ q)
  | wholeProgram q => exact members_variant rfl (members_record _ _ _ _ q)

theorem codec_stable : codec.Stable (depth + 4) :=
  .tagged Kind.spelling_faithful bodyCodec_sorted bodyCodec_stable bodyCodec_members
    fun k => by cases k <;> decide

end Question

/-- **A stored question is stable.** What is read from a text is read again from the text it is
written as, in either layout, and saving it any number of times gives the same text as saving it
once. -/
theorem stored_question_stable {text : String} {q : Question}
    (read : Question.codec.decodeText text = .ok q) (l : Json.Layout) :
    Question.codec.decodeText (l.write (Question.codec.encode q)) = .ok q ∧
      ∀ times, Question.codec.resaved l (times + 1) text =
        .ok (l.write (Question.codec.encode q)) := by
  have within : 4 ≤ Json.depthLimit := by decide
  have stable : Question.codec.Stable 4 := Question.codec_stable
  exact ⟨stable.decodeText_write within read l, fun times => stable.resaved within l times read⟩

/-- A class question with a constructor, whose types are one text. -/
def untidyClass : Json :=
  .object
    [("className", .string "Box"),
     ("requiredMethods", .array
       [.object
         [("name", .string "Box"), ("isPublic", .bool true), ("isStatic", .bool false),
          ("paramTypes", .string "int, Map<K, V> ")]]),
     ("fileTemplate", .string "~~~"),
     ("type", .string "class")]

def tidyClass : Question :=
  .wholeClass
    { className := "Box"
      fileTemplate := "~~~"
      allowPublicFields := false
      importedClasses := []
      requiredMethods :=
        [⟨"Box", true, false, ["int", "Map<K, V>"], none⟩]
      tests := [] }

/-- A method question whose types are an array of untrimmed ones and which does not say whether
its method is public and static. -/
def untidyMethod : Json :=
  .object
    [("type", .string "method"), ("methodName", .string "max"),
     ("parameterTypes", .array [.string " int", .string "int "]), ("returnType", .string "int")]

def tidyMethod : Question :=
  .singleMethod
    { methodName := "max"
      parameterTypes := ["int", "int"]
      returnType := "int"
      isPublic := true
      isStatic := true
      importedClasses := []
      tests := [] }

theorem untidy_questions_tidied :
    (Question.codec.decodeText untidyClass.compact = .ok tidyClass ∧
      Question.codec.decodeText (Question.codec.encode tidyClass).pretty = .ok tidyClass ∧
      ∀ times, Question.codec.resaved .pretty (times + 1) untidyClass.compact =
        .ok (Question.codec.encode tidyClass).pretty) ∧
    (Question.codec.decodeText untidyMethod.pretty = .ok tidyMethod ∧
      Question.codec.decodeText (Question.codec.encodeText tidyMethod) = .ok tidyMethod ∧
      ∀ times, Question.codec.resaved .compact (times + 1) untidyMethod.pretty =
        .ok (Question.codec.encodeText tidyMethod)) := by
  have within : 4 ≤ Json.depthLimit := by decide
  have legibleClass : Json.Legible 4 untidyClass := by
    simp [untidyClass]
  have legibleMethod : Json.Legible 4 untidyMethod := by
    simp [untidyMethod]
  have readClass : Question.codec.decodeText untidyClass.compact = .ok tidyClass :=
    (decodeText_write _ legibleClass.readsAs within .compact).trans
      (eq_ok_of_toOption (by decide +kernel))
  have readMethod : Question.codec.decodeText untidyMethod.pretty = .ok tidyMethod :=
    (decodeText_write _ legibleMethod.readsAs within .pretty).trans
      (eq_ok_of_toOption (by decide +kernel))
  exact ⟨⟨readClass, stored_question_stable readClass .pretty⟩,
    readMethod, stored_question_stable readMethod .compact⟩

end CodeGrading
