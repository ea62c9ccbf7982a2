import CodeGrading.Number.Bounded
import CodeGrading.Settings.Dotenv

/-!
Settings of the grader.

Settings are loaded from the environment, to which a file of variables is added first. Every
setting has a default, so loading cannot fail. A store loads them when they are first asked for,
keeps what is assigned to them, and loads them anew when it is reset.
-/

namespace CodeGrading

structure Settings where
  env : String
  projectName : String
  logLevel : String
  logFile : String
  logToStdout : Bool
  host : String
  port : UInt16
  timeoutSeconds : UInt64
  deriving DecidableEq, Repr

namespace Settings

/-- The number in a variable, or a default when there is none below the bound. -/
def number (env : Environment) (name : String) (bound default : Nat) : Nat :=
  ((env name).bind (natBelow? bound)).getD default

/-- The settings that an environment gives. -/
def ofEnvironment (env : Environment) : Settings where
  env := env.getD "APP_ENV" "development"
  projectName := env.getD "PROJECT_NAME" "class-grader"
  logLevel := env.getD "LOG_LEVEL" "grader=info"
  logFile := env.getD "LOG_FILE" "grader.log"
  logToStdout := env "LOG_TO_STDOUT" = some "true"
  host := env.getD "CODE_RUNNER_HOST" "127.0.0.1"
  port := UInt16.ofNat (number env "CODE_RUNNER_PORT" UInt16.size 5000)
  timeoutSeconds := UInt64.ofNat (number env "CODE_RUNNER_TIMEOUT_SECS" UInt64.size 60)

/-- Where the code runner is reached. -/
def runnerUrl (s : Settings) : String :=
  "http://" ++ s.host ++ ":" ++ toString s.port.toNat

/-- A new value for one setting. -/
inductive Assignment where
  | env (value : String)
  | projectName (value : String)
  | logLevel (value : String)
  | logFile (value : String)
  | logToStdout (value : Bool)
  | host (value : String)
  | port (value : UInt16)
  | timeoutSeconds (value : UInt64)
  deriving DecidableEq, Repr

def assign (s : Settings) : Assignment → Settings
  | .env v => { s with env := v }
  | .projectName v => { s with projectName := v }
  | .logLevel v => { s with logLevel := v }
  | .logFile v => { s with logFile := v }
  | .logToStdout v => { s with logToStdout := v }
  | .host v => { s with host := v }
  | .port v => { s with port := v }
  | .timeoutSeconds v => { s with timeoutSeconds := v }

/-- Settings as a process holds them, with what they are loaded from. -/
structure Store where
  environment : Environment
  /-- The text of the file of variables, if there is one. -/
  file : Option String
  /-- The settings, once they have been loaded. -/
  current : Option Settings

namespace Store

/-- A store whose settings have not been asked for. -/
def fresh (environment : Environment) (file : Option String) : Store :=
  ⟨environment, file, none⟩

/-- The environment with the file added to it. -/
def fullEnvironment (s : Store) : Environment :=
  match s.file with
  | some text => s.environment.addFile text
  | none => s.environment

/-- Loads the settings. The variables of the file stay in the environment. -/
def load (s : Store) : Store :=
  let env := s.fullEnvironment
  { s with environment := env, current := some (ofEnvironment env) }

/-- The store with its settings loaded. -/
def loaded (s : Store) : Store :=
  match s.current with
  | some _ => s
  | none => s.load

/-- The settings, loaded if need be. -/
def settings (s : Store) : Settings :=
  match s.current with
  | some c => c
  | none => ofEnvironment s.fullEnvironment

/-- What can be done to a store. -/
inductive Action where
  | read
  | assign (a : Assignment)
  | reset
  | setVariable (name value : String)
  | unsetVariable (name : String)
  | writeFile (text : Option String)
  deriving DecidableEq, Repr

/-- Settings that have not been loaded are not reset: the next reading loads them anyway. -/
def act (s : Store) : Action → Store
  | .read => s.loaded
  | .assign a => { s.loaded with current := some (s.settings.assign a) }
  | .reset =>
    match s.current with
    | some _ => s.load
    | none => s
  | .setVariable name value => { s with environment := s.environment.set name value }
  | .unsetVariable name => { s with environment := s.environment.unset name }
  | .writeFile text => { s with file := text }

/-- The store after some actions. -/
def run (s : Store) (actions : List Action) : Store :=
  actions.foldl act s

end Store

end Settings

end CodeGrading
