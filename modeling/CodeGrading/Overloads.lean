import CodeGrading.JobResult
import CodeGrading.Question
import CodeGrading.TypeName

/-!
Overloads: methods of one name.

`overloadSets` groups the required methods by the name they must be declared under. `pairUp` gives
every member of a set a counterpart among the compiled methods of the name, first those whose
parameter types agree, then the others in order, with the first one left of the same arity if
there is one.
-/

namespace CodeGrading

section Grouping

variable {α : Type}

/-- Adds an entry to the group of its name, or a group for it at the end. -/
def addToGroup (name : String) (a : α) : List (String × List α) → List (String × List α)
  | [] => [(name, [a])]
  | (n, as) :: groups =>
    if n = name then (n, as ++ [a]) :: groups else (n, as) :: addToGroup name a groups

/-- The entries grouped by name, in the order in which the names first occur. -/
def groupByName (nameOf : α → String) (as : List α) : List (String × List α) :=
  as.foldl (fun groups a => addToGroup (nameOf a) a groups) []

end Grouping

/-- The required methods by the name they must be declared under. -/
def overloadSets (className : String) (methods : List RequiredMethod) :
    List (String × List RequiredMethod) :=
  groupByName (·.matchName className) methods

section Pairing

variable {α β : Type}

/-- Takes the first element that satisfies `p` out of a list. -/
def takeFirst? (p : β → Bool) : List β → Option (β × List β)
  | [] => none
  | b :: bs =>
    if p b then some (b, bs)
    else (takeFirst? p bs).map fun (found, left) => (found, b :: left)

/-- Gives each element of `as` the first one left of `bs` that satisfies `fits`, if there is one,
and tells which are left. -/
def pairFitting (fits : α → β → Bool) : List α → List β → List (α × Option β) × List β
  | [], bs => ([], bs)
  | a :: as, bs =>
    match takeFirst? (fits a) bs with
    | some (b, left) =>
      let (pairs, left) := pairFitting fits as left
      ((a, some b) :: pairs, left)
    | none =>
      let (pairs, left) := pairFitting fits as bs
      ((a, none) :: pairs, left)

/-- Gives each element without a partner the first one left that satisfies `near`, or else the
first one left. -/
def pairRest (near : α → β → Bool) : List (α × Option β) → List β → List (α × β)
  | [], _ => []
  | (a, some b) :: pairs, bs => (a, b) :: pairRest near pairs bs
  | (a, none) :: pairs, bs =>
    match takeFirst? (near a) bs <|> takeFirst? (fun _ => true) bs with
    | some (b, left) => (a, b) :: pairRest near pairs left
    | none => pairRest near pairs bs

/-- Pairs each element of `as` with one of `bs`, no element of `bs` twice: with one that fits where
it can, then with a near one, then with any. -/
def pairUp (fits near : α → β → Bool) (as : List α) (bs : List β) : List (α × β) :=
  let (pairs, left) := pairFitting fits as bs
  pairRest near pairs left

end Pairing

/-- The compiled method has the required parameter types. -/
def agreesOnParameters (r : RequiredMethod) (c : MethodDefinition) : Bool :=
  TypeName.SameParameters r.paramTypes c.parameterTypes

/-- The compiled method has the required number of parameters. -/
def agreesOnArity (r : RequiredMethod) (c : MethodDefinition) : Bool :=
  c.parameterTypes.length == r.paramTypes.length

/-- The required methods of a set with their counterparts and the positions of these among the
compiled methods of the name. -/
def pairOverloadsAt (required : List RequiredMethod) (compiled : List MethodDefinition) :
    List (RequiredMethod × MethodDefinition × Nat) :=
  pairUp (fun r c => agreesOnParameters r c.1) (fun r c => agreesOnArity r c.1)
    required compiled.zipIdx

/-- The required methods of a set with their counterparts. -/
def pairOverloads (required : List RequiredMethod) (compiled : List MethodDefinition) :
    List (RequiredMethod × MethodDefinition) :=
  (pairOverloadsAt required compiled).map fun (r, c, _) => (r, c)

end CodeGrading
