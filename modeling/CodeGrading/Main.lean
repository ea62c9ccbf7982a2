import CodeGrading.CommandLine
import CodeGrading.Runner.Wire
import Std.Async.DNS
import Std.Async.TCP
import Std.Async.Timer

/-!
The program: it finds what a run needs, and shows and stores what comes of it.
-/

namespace CodeGrading.Program

open Std.Async Std.Net

/-! ### Time -/

def utc (stamp : Std.Time.Timestamp) : Std.Time.PlainDateTime :=
  .ofWallTime (.ofTimestamp stamp .zero)

def date (stamp : Std.Time.Timestamp) : String :=
  (utc stamp).format "uuuu-MM-dd"

/-- An instant with its date and time of day. -/
def instant (stamp : Std.Time.Timestamp) : String :=
  date stamp ++ "T" ++ (utc stamp).format "HH:mm:ss.SSSSSSSSS" ++ "Z"

/-! ### Files -/

def readText? (path : String) : IO (Option String) := do
  try return some (← IO.FS.readFile path) catch _ => return none

/-- The text of the nearest file of variables, in the working directory or in one around it. -/
def findVariables (depth : Nat) (directory : String) : IO (Option String) := do
  match ← readText? (directory ++ ".env"), depth with
  | some text, _ => return some text
  | none, 0 => return none
  | none, depth + 1 => findVariables depth (directory ++ "../")

def variableNames : List String :=
  ["APP_ENV", "PROJECT_NAME", "LOG_LEVEL", "LOG_FILE", "LOG_TO_STDOUT", "CODE_RUNNER_HOST",
    "CODE_RUNNER_PORT", "CODE_RUNNER_TIMEOUT_SECS"]

def readEnvironment : IO Environment :=
  variableNames.foldlM (fun env name => do
    match ← IO.getEnv name with
    | some value => return env.set name value
    | none => return env) .empty

/-- Opens the log file of the day, with the directories on its way, to add to it. -/
def openLog (name : String) : IO IO.FS.Handle := do
  let path := Log.path name (date (← Std.Time.Timestamp.now))
  IO.FS.createDirAll (Log.parentOf path)
  IO.FS.Handle.mk path .append

/-- Begins the log file of the day; the answer is why it cannot be begun, if it cannot. -/
def logFault (name : String) : IO (Option String) := do
  try
    let _ ← openLog name
    return none
  catch e => return some (toString e)

/-- What a run with these arguments finds. Its client rests on nothing that could be at fault. -/
def findPlace (arguments : List String) : IO CommandLine.Place := do
  let environment ← readEnvironment
  let settingsFile ← findVariables (← IO.currentDir).components.length ""
  match CommandLine.readArguments arguments with
  | .error _ => return { environment, settingsFile, read := fun _ => none }
  | .ok a =>
    let texts ← [a.question, a.submission].mapM fun path => return (path, ← readText? path)
    let place : CommandLine.Place :=
      { environment, settingsFile, read := fun path => (texts.lookup path).join }
    return { place with logFault := ← logFault (CommandLine.settings place).logFile }

/-! ### Exchanges -/

/-- What has arrived once the response is complete or cannot become so. -/
partial def receive (socket : TCP.Socket.Client) (octets : List UInt8) : Async Client.Exchange := do
  let more ← socket.recv? 65536
  let octets := octets ++ (more.getD .empty).toList
  match Wire.response more.isNone octets with
  | .finished exchange => return exchange
  | .broken => return .failure false
  | .unfinished => if more.isNone then return .failure false else receive socket octets

def socketAddress (port : UInt16) : IPAddr → SocketAddress
  | .v4 a => .v4 ⟨a, port⟩
  | .v6 a => .v6 ⟨a, port⟩

/-- A connection to the first of some addresses that accepts one. -/
def connect (port : UInt16) : List IPAddr → Async (Option TCP.Socket.Client)
  | [] => return none
  | a :: more => do
    try
      let socket ← TCP.Socket.Client.mk
      socket.connect (socketAddress port a)
      return some socket
    catch _ => connect port more

def exchange (r : Client.Request) : Async Client.Exchange := do
  let some address := Wire.Address.ofUrl? r.url | return .failure false
  try
    let addresses ← DNS.getAddrInfo address.host (toString address.port.toNat)
    let some socket ← connect address.port addresses.toList | return .failure false
    socket.send (Wire.requestText address r).toUTF8
    receive socket []
  catch _ => return .failure false

/-- The longest time that is waited for, in seconds. -/
def longestTimeout : Nat :=
  UInt32.size

def outOfTime (seconds : UInt64) : Async Client.Exchange := do
  Std.Async.sleep (.ofInt (min seconds.toNat longestTimeout * 1000))
  return .failure true

/-- Posts a request and waits for its response as long as the settings allow. -/
def post (s : Settings) (r : Client.Request) : IO Client.Exchange :=
  (Async.race (exchange r) (outOfTime s.timeoutSeconds)).block

/-! ### Logging -/

/-- Adds the events of a run to the log file of the day. Once the file has been begun, what cannot
be added to it is dropped. -/
def writeLog (o : CommandLine.Outcome) (name : String) : IO Unit := do
  let now ← Std.Time.Timestamp.now
  try
    let file ← openLog name
    for e in o.events do
      file.putStrLn (instant now ++ " " ++ e.line)
  catch _ => return

/-! ### Runs -/

/-- Runs the command and shows what comes of it; the exit code is the answer. -/
def run (arguments : List String) : IO UInt32 := do
  let place ← findPlace arguments
  let now := return instant (← Std.Time.Timestamp.now)
  let o ← CommandLine.run (post (CommandLine.settings place)) now place arguments
  o.logFile.forM (writeLog o)
  o.logLines.forM IO.println
  IO.print o.stdout
  IO.eprint o.stderr
  return UInt32.ofNat o.exitCode

end CodeGrading.Program

def main (arguments : List String) : IO UInt32 :=
  CodeGrading.Program.run arguments
