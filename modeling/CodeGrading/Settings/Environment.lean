/-!
Environment variables by name. A variable that is set to nothing is still set.
-/

namespace CodeGrading

def Environment : Type :=
  String → Option String

namespace Environment

def empty : Environment :=
  fun _ => none

def set (env : Environment) (name value : String) : Environment :=
  fun n => if n = name then some value else env n

def unset (env : Environment) (name : String) : Environment :=
  fun n => if n = name then none else env n

/-- Sets a variable that is not set yet. -/
def setMissing (env : Environment) (name value : String) : Environment :=
  match env name with
  | some _ => env
  | none => env.set name value

/-- The value of a variable, or a default. -/
def getD (env : Environment) (name default : String) : String :=
  (env name).getD default

end Environment

end CodeGrading
