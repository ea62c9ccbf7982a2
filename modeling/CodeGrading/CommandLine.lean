import CodeGrading.Grading
import CodeGrading.Log.File
import CodeGrading.Log.Filter
import CodeGrading.Question.Codec
import CodeGrading.Report
import CodeGrading.Runner.Client
import CodeGrading.Settings

/-!
The command that grades one submission.

It reads its arguments and settings, begins logging, reads and checks the question, reads the
submission, builds a client for the runner, sends one job, and prints the report. The first step
that fails ends the run, so a question that cannot be graded sends no job.

Left out are the help and the version that the command can print instead: the arguments that ask for
them are unexpected here.
-/

namespace CodeGrading.CommandLine

/-! ### Arguments -/

structure Arguments where
  /-- The path of the question. -/
  question : String
  /-- The path of the submission. -/
  submission : String
  /-- The base address of the runner, if not the one of the settings. -/
  runnerUrl : Option String
  deriving DecidableEq, Repr

inductive Flag where
  | question
  | submission
  | runnerUrl
  deriving DecidableEq, Repr

namespace Flag

def all : List Flag :=
  [.question, .submission, .runnerUrl]

def word : Flag → String
  | .question => "--question"
  | .submission => "--submission"
  | .runnerUrl => "--runner-url"

def ofWord? (word : String) : Option Flag :=
  all.find? (·.word == word)

/-- The flag with the name of its value. -/
def usage : Flag → String
  | .question => "--question <QUESTION>"
  | .submission => "--submission <SUBMISSION>"
  | .runnerUrl => "--runner-url <RUNNER_URL>"

/-- The value is the path of a file, so it cannot be empty. -/
def isPath : Flag → Bool
  | .question | .submission => true
  | .runnerUrl => false

end Flag

/-- What is wrong with the arguments. -/
inductive UsageError where
  | missing (flags : List Flag)
  | repeated (flag : Flag)
  | noValue (flag : Flag)
  | unexpected (argument : String)
  deriving DecidableEq, Repr

def UsageError.message : UsageError → String
  | .missing _ => "the following required arguments were not provided:"
  | .repeated flag =>
    "the argument " ++ inQuotes flag.usage ++ " cannot be used multiple times"
  | .noValue flag => "a value is required for " ++ inQuotes flag.usage ++ " but none was supplied"
  | .unexpected argument => "unexpected argument " ++ inQuotes argument ++ " found"

/-- The lines after the first of a usage error. -/
def UsageError.details : UsageError → String
  | .missing flags => String.join (flags.map fun flag => "  " ++ flag.usage ++ "\n")
  | .repeated _ | .noValue _ | .unexpected _ => ""

/-- What an argument is by its first characters. -/
inductive Token where
  /-- Two hyphens and nothing else: no flag comes after them. -/
  | flagsEnd
  /-- Two hyphens and more: a name, and the value after its equals sign. -/
  | long (name : String) (attached : Option String)
  /-- One hyphen and more, of which only the first character counts. -/
  | short (letter : Char)
  /-- Anything else. A hyphen alone is a word too. -/
  | word (text : String)
  deriving DecidableEq, Repr

def Token.ofArgument (argument : String) : Token :=
  match argument.toList with
  | ['-', '-'] => .flagsEnd
  | '-' :: '-' :: cs =>
    let name := "--" ++ String.ofList (cs.takeWhile (· != '='))
    match cs.dropWhile (· != '=') with
    | [] => .long name none
    | _ :: value => .long name (some (String.ofList value))
  | '-' :: letter :: _ => .short letter
  | _ => .word argument

/-- The values given so far. -/
abbrev Given : Type :=
  Flag → Option String

def giveValue (given : Given) (flag : Flag) (value : String) : Except UsageError Given :=
  match given flag with
  | some _ => .error (.repeated flag)
  | none =>
    if flag.isPath && value.isEmpty then .error (.noValue flag)
    else .ok fun f => if f = flag then some value else given f

/-- The values given once the last flag has its own, which comes as an argument for itself. -/
def settle (given : Given) : Option (Flag × Option String) → Except UsageError Given
  | none => .ok given
  | some (flag, none) => .error (.noValue flag)
  | some (flag, some value) => giveValue given flag value

/-- Reads arguments after a flag whose value has not been given yet, if there is one. A value that
is an argument for itself is a word, and it is given only when the next flag, or the end, has been
found to be in order. -/
def readFlags (given : Given) (last : Option (Flag × Option String)) :
    List String → Except UsageError Given
  | [] => settle given last
  | argument :: more =>
    match Token.ofArgument argument with
    | .flagsEnd =>
      match more with
      | [] => settle given last
      | surplus :: _ => .error (.unexpected surplus)
    | .long name attached =>
      match Flag.ofWord? name with
      | none => .error (.unexpected name)
      | some flag => do
        let given ← settle given last
        match attached with
        | some value => readFlags (← giveValue given flag value) none more
        | none => readFlags given (some (flag, none)) more
    | .short letter => .error (.unexpected (String.ofList ['-', letter]))
    | .word text =>
      match last with
      | some (flag, none) => readFlags given (some (flag, some text)) more
      | none | some (_, some _) => .error (.unexpected text)

def readArguments (arguments : List String) : Except UsageError Arguments := do
  let given ← readFlags (fun _ => none) none arguments
  match given .question, given .submission with
  | some question, some submission =>
    return { question, submission, runnerUrl := given .runnerUrl }
  | _, _ =>
    throw (.missing ([.question, .submission].filter fun flag => (given flag).isNone))

/-! ### Runs -/

/-- What a run finds where it is started. -/
structure Place where
  environment : Environment
  /-- The text of the file of variables, if there is one. -/
  settingsFile : Option String
  /-- The text of a file, if it can be read. -/
  read : String → Option String
  /-- Why the log file cannot be begun, if it cannot. -/
  logFault : Option String := none
  /-- Why no client can be built, if none can. -/
  clientFault : Option String := none

/-- Why a run ends without a report. -/
inductive Failure where
  | usage (e : UsageError)
  | beginningLog (cause : String)
  | readingQuestion (path : String)
  | parsingQuestion (path : String) (e : DecodeError)
  | readingSubmission (path : String)
  | buildingClient (e : RunnerError)
  | grading (e : GradingError)
  deriving DecidableEq, Repr

namespace Failure

def message : Failure → String
  | .usage e => e.message
  | .beginningLog cause => "initializing rolling file appender failed: " ++ cause
  | .readingQuestion path => "reading question " ++ path
  | .parsingQuestion path _ => "parsing question " ++ path
  | .readingSubmission path => "reading submission " ++ path
  | .buildingClient e => e.message
  | .grading e => e.message

/-- What led to the failure, where its message does not say. -/
def cause? : Failure → Option String
  | .parsingQuestion _ e => some e.message
  | .usage _ | .beginningLog _ | .readingQuestion _ | .readingSubmission _ | .buildingClient _
  | .grading _ => none

end Failure

/-- How a run ends. -/
structure Outcome where
  result : Except Failure Report
  /-- The name of the log file, once logging has begun. -/
  logFile : Option String
  /-- What is said of the filter when logging begins. -/
  warnings : List String
  /-- The events that the filter lets through. -/
  events : List Log.Event
  /-- The events are shown on standard output too. -/
  logToStdout : Bool

namespace Outcome

/-- A run that cannot begin its log is broken off, the others end in order. -/
def exitCode (o : Outcome) : Nat :=
  match o.result with
  | .ok _ => 0
  | .error (.usage _) => 2
  | .error (.beginningLog _) => 101
  | .error _ => 1

/-- What is printed on standard output, log lines apart. -/
def stdout (o : Outcome) : String :=
  match o.result with
  | .ok report => report.toJson.pretty ++ "\n"
  | .error _ => ""

/-- The log lines on standard output, without their times. -/
def logLines (o : Outcome) : List String :=
  if o.logToStdout then o.events.map (·.line) else []

/-- What stands in the log directory, if logging has begun. -/
def logEntries (o : Outcome) : List String :=
  match o.logFile with
  | some name => Log.entries name
  | none => []

/-- What is printed of a failure; of a run that is broken off, the reason alone. -/
def failureText : Except Failure Report → String
  | .ok _ => ""
  | .error (.usage e) =>
    "error: " ++ e.message ++ "\n" ++ e.details ++
      "\nUsage: grade --question <QUESTION> --submission <SUBMISSION>\n" ++
      "\nFor more information, try '--help'.\n"
  | .error (.beginningLog cause) => (Failure.beginningLog cause).message ++ "\n"
  | .error failure =>
    "Error: " ++ failure.message ++ "\n" ++
      match failure.cause? with
      | some cause => "\nCaused by:\n    " ++ cause ++ "\n"
      | none => ""

/-- What is printed on the error output. -/
def stderr (o : Outcome) : String :=
  String.join (o.warnings.map (· ++ "\n")) ++ failureText o.result

end Outcome

/-! ### Events -/

def startEvent (q : Question) (base : String) : Log.Event :=
  ⟨.info, "grade", "grading submission", [("kind", .quoted q.kind.word), ("runner", .quoted base)]⟩

/-- The target of the events of a grader. -/
def graderTarget (kind : Kind) : String :=
  "grader::graders::" ++ kind.word ++ "_question_grader"

/-- The name of a job among the fields of its events. -/
def jobField (q : Question) : String × Log.Value :=
  let name := match q with
    | .wholeClass _ => "class_name"
    | .singleMethod _ => "method_name"
    | .wholeProgram _ => "program"
  (name, .plain q.subject)

def sendingEvent (q : Question) (j : Job) : Log.Event :=
  let offset := match j with
    | .wholeClass j => [("line_number_offset", .integer j.lineNumberOffset.toInt)]
    | .singleMethod _ | .wholeProgram _ => []
  ⟨.debug, graderTarget q.kind, "sending " ++ q.kind.word ++ " job",
    jobField q :: ("tests", .integer j.testNames.length) :: offset⟩

def clientTarget : String :=
  "code_runner::http"

def exchangeEvents (url : String) (reply : Except RunnerError JobResult) : List Log.Event :=
  let urlField := ("url", Log.Value.plain url)
  ⟨.debug, clientTarget, "Sending job to code runner", [urlField]⟩ ::
    match reply with
    | .ok r =>
      [⟨.debug, clientTarget, "Code runner responded",
        [urlField, ("status", .plain r.status.word), ("kind", .quoted r.payload.kind.word)]⟩]
    | .error (.transport _ cause) =>
      [⟨.error, clientTarget, "Failed to contact code runner", [urlField, ("error", .plain cause)]⟩]
    | .error (.status code _) =>
      [⟨.error, clientTarget, "Code runner rejected job", [urlField, ("status", .integer code)]⟩]
    | .error (.malformed _) => []

def gradedEvents (q : Question) (g : GradedResult) : List Log.Event :=
  let subject := [("kind", Log.Value.quoted q.kind.word), ("name", .quoted q.subject)]
  ⟨.info, "grader::graders", "graded submission",
      subject ++ [("score", .score g.score), ("errors", .integer g.errors.length)]⟩ ::
    g.errors.map fun e => ⟨.debug, "grader::graders", e.message, subject⟩

/-- The events of a grading after its job was sent. -/
def gradingEvents (q : Question) (result : Except GradingError GradedResult) : List Log.Event :=
  match result with
  | .ok g =>
    (if g.errors.isEmpty ∧ q.expectations.isEmpty then
      [⟨.warn, "grader::scorer", "question declares no tests; scoring 0.0", []⟩]
    else []) ++ gradedEvents q g
  | .error (.runner e) =>
    [⟨.error, graderTarget q.kind, q.kind.word ++ " job failed: " ++ e.message, [jobField q]⟩]
  | .error (.notCompleted status _) =>
    [⟨.warn, "grader::graders", "code runner did not complete the job",
      [("status", .plain status.word)]⟩]
  | .error _ => []

/-! ### The command -/

/-- The question in a file. -/
def readQuestion (place : Place) (path : String) : Except Failure Question :=
  match place.read path with
  | none => .error (.readingQuestion path)
  | some text =>
    match Question.codec.decodeText text with
    | .error e => .error (.parsingQuestion path e)
    | .ok q =>
      match q.validate with
      | .error e => .error (.grading e)
      | .ok () => .ok q

/-- The question and the submission of a run. -/
def readInput (place : Place) (a : Arguments) : Except Failure (Question × String) := do
  let q ← readQuestion place a.question
  match place.read a.submission with
  | none => throw (.readingSubmission a.submission)
  | some submission => return (q, submission)

/-- The address of the runner. -/
def runnerUrl (s : Settings) (a : Arguments) : String :=
  a.runnerUrl.getD s.runnerUrl

/-- The question and the submission of a run, and the base address of its client. -/
def prepare (place : Place) (s : Settings) (a : Arguments) :
    Except Failure (Question × String × String) := do
  let (q, submission) ← readInput place a
  match Client.build place.clientFault (runnerUrl s a) with
  | .error e => throw (.buildingClient e)
  | .ok base => return (q, submission, base)

/-- The settings of a run. -/
def settings (place : Place) : Settings :=
  (Settings.Store.fresh place.environment place.settingsFile).settings

/-- Grades a submission over a client that has been built. -/
def gradeInput {m : Type → Type} [Monad m] (post : Client.Request → m Client.Exchange)
    (now : m String) (s : Settings) (base : String) (q : Question) (submission : String) :
    m Outcome := do
  let j := q.job submission
  let reply ← Client.execute post base j
  let result := q.judgeReply reply
  let events := startEvent q base :: sendingEvent q j ::
    exchangeEvents (Client.request base j).url reply ++ gradingEvents q result
  let outcome (result : Except Failure Report) : Outcome :=
    { result
      logFile := some s.logFile
      warnings := Log.Filter.warnings s.logLevel
      events := events.filter (Log.Filter.ofText s.logLevel).lets
      logToStdout := s.logToStdout }
  match result with
  | .error e => return outcome (.error (.grading e))
  | .ok g => return outcome (.ok (g.report (← now)))

/-- How a run ends before its log has been begun. -/
def endUnlogged (e : Failure) : Outcome where
  result := .error e
  logFile := none
  warnings := []
  events := []
  logToStdout := false

/-- How a run ends before there is anything to log. -/
def endUnsent (s : Settings) (e : Failure) : Outcome where
  result := .error e
  logFile := some s.logFile
  warnings := Log.Filter.warnings s.logLevel
  events := []
  logToStdout := s.logToStdout

/-- One run of the command once its arguments have been read. -/
def runWith {m : Type → Type} [Monad m] (post : Client.Request → m Client.Exchange) (now : m String)
    (place : Place) (a : Arguments) : m Outcome :=
  match place.logFault with
  | some cause => pure (endUnlogged (.beginningLog cause))
  | none =>
    let s := settings place
    match prepare place s a with
    | .error e => pure (endUnsent s e)
    | .ok (q, submission, base) => gradeInput post now s base q submission

/-- One run of the command. -/
def run {m : Type → Type} [Monad m] (post : Client.Request → m Client.Exchange) (now : m String)
    (place : Place) (arguments : List String) : m Outcome :=
  match readArguments arguments with
  | .error e => pure (endUnlogged (.usage e))
  | .ok a => runWith post now place a

end CodeGrading.CommandLine
