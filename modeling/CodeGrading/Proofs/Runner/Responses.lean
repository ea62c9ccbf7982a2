import CodeGrading.Proofs.Availability
import CodeGrading.Proofs.Runner.WireFormat
import CodeGrading.Proofs.Text.Utf8

/-!
What the client makes of a response. A status that is no success is an error with that status and
the body. Of a success the body is decoded and nothing more is asked of it, so a client honours the
contract of the runner (`Client.Honours`) exactly where no broken result is served
(`Client.honours_iff_served_valid`). Any result at all is passed on when it is served
(`Client.execute_serve`).
-/

namespace CodeGrading.Client

/-- The statuses of success. -/
def Successful (status : Nat) : Prop :=
  200 ≤ status ∧ status ≤ 299

instance (status : Nat) : Decidable (Successful status) :=
  inferInstanceAs (Decidable (_ ∧ _))

theorem isSuccess_iff {status : Nat} : isSuccess status = true ↔ Successful status := by
  simp only [isSuccess, Successful, Bool.and_eq_true, decide_eq_true_eq]
  omega

/-- The contract of the runner, for the answer to a response: a result is passed on exactly when the
body holds it and it keeps the availability rules. -/
structure Honours (status : Nat) (body : String) (answer : Except RunnerError JobResult) :
    Prop where
  rejected : ¬ Successful status → answer = .error (.status status body)
  accepted : Successful status →
    ∀ r, answer = .ok r ↔ JobResult.codec.decodeText body = .ok r ∧ r.validate = .ok ()
  malformed : Successful status →
    (∀ r, JobResult.codec.decodeText body = .ok r → r.validate ≠ .ok ()) →
      ∃ fault, answer = .error (.malformed fault)

section ReadResponse

variable {status : Nat} {body : String}

theorem readResponse_of_not_successful (failed : ¬ Successful status) :
    readResponse status body = .error (.status status body) := by
  rw [readResponse, if_neg (mt isSuccess_iff.mp failed)]

theorem readResponse_eq_ok (success : Successful status) {r : JobResult} :
    readResponse status body = .ok r ↔ JobResult.codec.decodeText body = .ok r := by
  rw [readResponse, if_pos (isSuccess_iff.mpr success)]
  cases JobResult.codec.decodeText body <;> simp

theorem readResponse_malformed (success : Successful status) :
    (∃ fault, readResponse status body = .error (.malformed fault)) ↔
      ∀ r, JobResult.codec.decodeText body ≠ .ok r := by
  rw [readResponse, if_pos (isSuccess_iff.mpr success)]
  cases JobResult.codec.decodeText body <;> simp

/-- The contract is honoured unless the body of a success holds a result that breaks a rule. -/
theorem honours_readResponse : Honours status body (readResponse status body) ↔
    (Successful status → ∀ r, JobResult.codec.decodeText body = .ok r → r.validate = .ok ()) := by
  constructor
  · intro honours success r decoded
    have answered := (readResponse_eq_ok success).mpr decoded
    exact ((honours.accepted success r).mp answered).2
  · intro available
    refine ⟨readResponse_of_not_successful, fun success r => ?_, fun success broken => ?_⟩
    · rw [readResponse_eq_ok success, iff_self_and]
      exact available success r
    · rw [readResponse_malformed success]
      exact fun r decoded => broken r decoded (available success r decoded)

end ReadResponse

/-- What is posted is answered with what the response is read as. -/
theorem execute_of_response {post : Request → Exchange} {base : String} {j : Job} {status : Nat}
    {octets : List UInt8} (response : post (request base j) = .response status octets) :
    execute (m := Id) post base j = readResponse status (bodyText status octets) := by
  simp only [execute, response, readExchange]
  rfl

/-! ## Served results -/

/-- A server that answers every request with a text. -/
def serve (status : Nat) (text : String) (_ : Request) : Exchange :=
  .response status (Text.Utf8.octets text)

theorem bodyText_octets {status : Nat} {text : String} (bodied : isBodiless status = false)
    (unmarked : text.toList.head? ≠ some '\ufeff') :
    bodyText status (Text.Utf8.octets text) = text := by
  rw [bodyText, bodied, if_neg Bool.false_ne_true, Text.Utf8.decode_octets unmarked]

/-- The text of a result begins with a brace. -/
theorem head?_encodeText (r : JobResult) :
    (JobResult.codec.encodeText r).toList.head? = some '\x7b' := by
  obtain ⟨ms, object, -⟩ := r.codec_layout
  rw [Codec.encodeText, object, Json.compact, String.toList_ofList]
  cases ms <;> rfl

theorem bodyText_encodeText {status : Nat} (bodied : isBodiless status = false) (r : JobResult) :
    bodyText status (Text.Utf8.octets (JobResult.codec.encodeText r)) =
      JobResult.codec.encodeText r := by
  apply bodyText_octets bodied
  rw [head?_encodeText]
  decide

/-- Every result that a runner serves is passed on, whichever rules it breaks. -/
theorem execute_serve {status : Nat} (success : Successful status)
    (bodied : isBodiless status = false) (base : String) (j : Job) (r : JobResult) :
    execute (m := Id) (serve status (JobResult.codec.encodeText r)) base j = .ok r := by
  rw [execute_of_response rfl, bodyText_encodeText bodied]
  exact readResponse_encodeText (isSuccess_iff.mpr success) r

/-- **Responses.** A status that is no success is passed on with the body. Of a success the answer
is the result that the body holds, and malformed when it holds none. So the contract is honoured
exactly when no success holds a result that breaks an availability rule. -/
theorem honours_iff_served_valid {post : Request → Exchange} {base : String} {j : Job}
    {status : Nat} {octets : List UInt8}
    (response : post (request base j) = .response status octets) :
    let body := bodyText status octets
    let answer := execute (m := Id) post base j
    (¬ Successful status → answer = .error (.status status body)) ∧
      (Successful status →
        (∀ r, answer = .ok r ↔ JobResult.codec.decodeText body = .ok r) ∧
          ((∃ fault, answer = .error (.malformed fault)) ↔
            ∀ r, JobResult.codec.decodeText body ≠ .ok r)) ∧
      (Honours status body answer ↔
        (Successful status →
          ∀ r, JobResult.codec.decodeText body = .ok r → r.validate = .ok ())) := by
  intro body answer
  have read : answer = readResponse status body := execute_of_response response
  rw [read]
  exact ⟨readResponse_of_not_successful,
    fun success => ⟨fun _ => readResponse_eq_ok success, readResponse_malformed success⟩,
    honours_readResponse⟩

/-- A class with a method to call. -/
def callingJob : Job :=
  .wholeClass ⟨"A", "class A {}", 0, [], [⟨"t", "return f();", "int"⟩]⟩

/-- The class did not compile. Its tests may have been compiled, or not. -/
def uncompiled (tests : Option Compilation) : JobResult where
  status := .completed
  diagnosticOutput := none
  testsCompilation := tests
  testResults := none
  payload := .wholeClass ⟨⟨false, []⟩, none⟩

theorem uncompiled_passed_on :
    Successful 200 ∧ ¬ Successful 503 ∧ (uncompiled none).validate = .ok () ∧
      Honours 200 (JobResult.codec.encodeText (uncompiled none))
        (execute (m := Id) (serve 200 (JobResult.codec.encodeText (uncompiled none)))
          "http://runner" callingJob) ∧
      (∃ fault, execute (m := Id) (serve 200 "busy") "http://runner" callingJob =
        .error (.malformed fault)) ∧
      execute (m := Id) (serve 503 "busy") "http://runner" callingJob =
        .error (.status 503 "busy") := by
  have success : Successful 200 := by decide
  have failure : ¬ Successful 503 := by decide
  have busy : ∀ status, isBodiless status = false →
      bodyText status (Text.Utf8.octets "busy") = "busy" :=
    fun _ bodied => bodyText_octets bodied (by decide)
  refine ⟨success, failure, rfl, ?_, ?_, ?_⟩
  · have served := (@honours_iff_served_valid
      (serve 200 (JobResult.codec.encodeText (uncompiled none))) "http://runner" callingJob
      200 _ rfl).2.2
    rw [bodyText_encodeText rfl] at served
    refine served.mpr fun _ r decoded => ?_
    rw [JobResult.decodeText_encodeText] at decoded
    cases decoded
    rfl
  · have served := (@honours_iff_served_valid (serve 200 "busy") "http://runner" callingJob
      200 _ rfl).2.1 success
    refine served.2.mpr fun r decoded => ?_
    rw [busy 200 rfl] at decoded
    cases decoded
  · have served := (@honours_iff_served_valid (serve 503 "busy") "http://runner" callingJob
      503 _ rfl).1 failure
    rw [served, busy 503 rfl]

/-- The tests of a class that did not compile must not have been compiled. -/
theorem tested_uncompiled_passed_on :
    (uncompiled (some ⟨true, []⟩)).status = .completed ∧
      (uncompiled (some ⟨true, []⟩)).validate =
        .error (.malformed (.breach .wholeClass .testsCompiledAlone)) ∧
      ¬ Honours 200 (JobResult.codec.encodeText (uncompiled (some ⟨true, []⟩)))
          (execute (m := Id)
            (serve 200 (JobResult.codec.encodeText (uncompiled (some ⟨true, []⟩))))
            "http://runner" callingJob) := by
  have success : Successful 200 := by decide
  refine ⟨rfl, rfl, fun honours => ?_⟩
  rw [execute_serve success rfl] at honours
  have kept := ((honours.accepted success _).mp rfl).2
  cases kept

end CodeGrading.Client
