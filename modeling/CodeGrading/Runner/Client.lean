import CodeGrading.Job.Codec
import CodeGrading.Runner
import CodeGrading.Text.Utf8

/-!
The code runner as a web service.

A job is posted as JSON to the address of its kind below the base address. A success answers with
the job result; what the result owes is not checked here.
-/

namespace CodeGrading.Client

/-- The base address: an address without the slashes at its end. -/
def baseUrl (url : String) : String :=
  String.ofList (url.toList.reverse.dropWhile (· == '/')).reverse

/-- Builds a client for the runner at an address, which is known by its base address from then on.
No client can be built where there is a fault in what every client rests on. -/
def build (fault : Option String) (url : String) : Except RunnerError String :=
  match fault with
  | some cause => .error (.transport false cause)
  | none => .ok (baseUrl url)

/-- Where the jobs of a kind are posted. -/
def endpoint (kind : Kind) : String :=
  kind.word ++ "job"

/-- A posted request. -/
structure Request where
  url : String
  contentType : String
  body : String
  deriving DecidableEq, Repr

def request (base : String) (j : Job) : Request where
  url := base ++ "/" ++ endpoint j.kind
  contentType := "application/json"
  body := j.toJson.compact

/-- What comes of a request. -/
inductive Exchange where
  | response (status : Nat) (body : List UInt8)
  | failure (timedOut : Bool)
  deriving DecidableEq, Repr, Inhabited

/-- The answers with these statuses have no body. -/
def isBodiless (status : Nat) : Bool :=
  status == 204 || status == 304

/-- The text of a body. The octets are in UTF-8: a body that is not, by the character set of its
content type or by the byte order mark of UTF-16, is for the transport to put into it. -/
def bodyText (status : Nat) (body : List UInt8) : String :=
  if isBodiless status then "" else Text.Utf8.decode body

def isSuccess (status : Nat) : Bool :=
  200 ≤ status && status < 300

/-- The result that a response holds. -/
def readResponse (status : Nat) (body : String) : Except RunnerError JobResult :=
  if isSuccess status then
    match JobResult.codec.decodeText body with
    | .ok r => .ok r
    | .error e => .error (.malformed (.undecodable e))
  else .error (.status status body)

/-- Why a request was not answered. -/
def failureCause (r : Request) : String :=
  "error sending request for url (" ++ r.url ++ ")"

/-- The result that the exchange of a request ends in. -/
def readExchange (r : Request) : Exchange → Except RunnerError JobResult
  | .response status body => readResponse status (bodyText status body)
  | .failure timedOut => .error (.transport timedOut (failureCause r))

/-- Runs a job by posting it below a base address. -/
def execute {m : Type → Type} [Monad m] (post : Request → m Exchange) (base : String) (j : Job) :
    m (Except RunnerError JobResult) := do
  let r := request base j
  return readExchange r (← post r)

end CodeGrading.Client
