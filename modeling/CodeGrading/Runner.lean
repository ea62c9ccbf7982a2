import CodeGrading.JobResult.Codec

/-!
Failures of the code runner.

None of them is about the submission: they mean that there is no result to grade.
-/

namespace CodeGrading

/-- Why the answer of the runner is no job result. -/
inductive ResponseFault where
  | undecodable (e : DecodeError)
  /-- The result breaks an availability rule. -/
  | breach (kind : Kind) (b : Breach)
  /-- A reason given in words. -/
  | described (text : String)
  deriving DecidableEq, Repr

def DecodeError.message : DecodeError → String
  | .notJson => "not JSON"
  | .mismatch m => m.message

def ResponseFault.message : ResponseFault → String
  | .undecodable e => e.message
  | .breach kind b => kind.word ++ " job result: " ++ b.message
  | .described text => text

inductive RunnerError where
  /-- The job could not be sent, or no answer came in time. -/
  | transport (timedOut : Bool) (cause : String)
  /-- The runner answered with a status that is no success. -/
  | status (code : Nat) (body : String)
  | malformed (fault : ResponseFault)
  deriving DecidableEq, Repr

namespace RunnerError

def message : RunnerError → String
  | .transport _ cause => "failed to contact code runner: " ++ cause
  | .status code body => "code runner returned " ++ toString code ++ ": " ++ body
  | .malformed fault => "malformed code runner response: " ++ fault.message

def isTimeout : RunnerError → Bool
  | .transport timedOut _ => timedOut
  | .status _ _ | .malformed _ => false

end RunnerError

/-- The error for a result that breaks an availability rule. -/
def JobResult.validate (r : JobResult) : Except RunnerError Unit :=
  match r.breach? with
  | some b => .error (.malformed (.breach r.payload.kind b))
  | none => .ok ()

end CodeGrading
