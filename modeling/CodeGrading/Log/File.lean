/-!
Log files.

A log file lies in the log directory. It is called by its name, with the day after it. A name with
slashes leads to other directories, and those on the way are made where there are none.
-/

namespace CodeGrading.Log

def directory : String :=
  "logs"

/-- The path of the log file of a day. -/
def path (name day : String) : String :=
  let file := if name.isEmpty then day else name ++ "." ++ day
  if file.startsWith "/" then file else directory ++ "/" ++ file

/-- The path of the directory in which the file of a path lies. -/
def parentOf (path : String) : String :=
  String.ofList ((path.toList.reverse.dropWhile (· != '/')).drop 1).reverse

/-- What stands in the log directory once a file is reached along a path from the directory `here`,
which is given from the inside outwards. -/
def entriesAlong : List String → List String → List String
  | _, [] => []
  | here, [file] => if here = [directory] then [file] else []
  | here, step :: steps =>
    if step = "" ∨ step = "." then entriesAlong here steps
    else if step = ".." then
      match here with
      | [] => []
      | _ :: outer => entriesAlong outer steps
    else (if here = [directory] then [step] else []) ++ entriesAlong (step :: here) steps

/-- What stands in the log directory once a log file has been begun, in order and without the
day. -/
def entries (name : String) : List String :=
  if name.startsWith "/" then []
  else
    let steps := (name.toList.splitOn '/').map String.ofList
    (entriesAlong [directory] steps).eraseDups.mergeSort

end CodeGrading.Log
