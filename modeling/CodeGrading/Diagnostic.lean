import CodeGrading.JobResult

/-!
Diagnostics: what a student is told about a submission.

A structural error says how the compiled class differs from what the question requires, a
signature error that the required method is not there as declared, and a compilation diagnostic
hands on what the compiler said. `Diagnostic.message` puts each into words.
-/

namespace CodeGrading

/-- A property of a method on which the compiled one disagrees with the required one. -/
inductive MethodProperty where
  | visibility
  | staticness
  | parameterTypes
  | returnType
  deriving DecidableEq, Repr

/-- A required method whose compiled counterpart differs from it. -/
structure DefinitionError where
  className : String
  expectedMethodName : String
  expectedPublic : Bool
  expectedStatic : Bool
  /-- The parameter types in one text. -/
  expectedParamTypes : String
  /-- None for a constructor. -/
  expectedReturnType : Option String
  mismatches : List MethodProperty
  deriving DecidableEq, Repr

inductive StructuralError where
  /-- The required class did not compile. -/
  | missingRequiredClass (requiredClassName : String)
  /-- A field is public though the question forbids it. -/
  | fieldVisibility (className fieldName : String)
  /-- The class has not as many methods of a name as required. -/
  | methodCount (className expectedMethodName : String) (expectedCount : Nat)
      (expectedStatic : Bool)
  | methodDefinition (e : DefinitionError)
  deriving DecidableEq, Repr

/-- The submission has not exactly one method of the required name, or not as declared. -/
structure SignatureError where
  expectedMethodName : String
  expectedPublic : Bool
  expectedStatic : Bool
  /-- The parameter types in one text. -/
  expectedParamTypes : String
  expectedReturnType : String
  deriving DecidableEq, Repr

/-- A compilation that can fail: of the submission or of its tests. -/
inductive Phase where
  | submission (kind : Kind)
  | tests
  deriving DecidableEq, Repr

inductive Diagnostic where
  | structural (e : StructuralError)
  | methodSignature (e : SignatureError)
  | compilation (phase : Phase) (errors : List CompileError)
  deriving DecidableEq, Repr

/-- Whether a diagnostic is structural, of a signature or of a compilation. -/
inductive Category where
  | structural
  | methodSignature
  | compilation
  deriving DecidableEq, Repr

def Category.word : Category → String
  | .structural => "structural"
  | .methodSignature => "methodSignature"
  | .compilation => "compilation"

def Diagnostic.category : Diagnostic → Category
  | .structural _ => .structural
  | .methodSignature _ => .methodSignature
  | .compilation _ _ => .compilation

/-! ### Messages -/

/-- The modifiers of a declaration, each as a word. -/
def modifiers (isPublic isStatic : Bool) : List String :=
  (if isPublic then "public" else "private") :: if isStatic then ["static"] else []

/-- A name between single quotes. -/
def inQuotes (s : String) : String :=
  "'" ++ s ++ "'"

/-- A declaration as it would be written in a class. -/
def declaration (modifiers : List String) (returnType : Option String) (name params : String) :
    String :=
  " ".intercalate (modifiers ++ returnType.toList) ++ " " ++ name ++ "(" ++ params ++ ")"

def DefinitionError.expectedDeclaration (e : DefinitionError) : String :=
  declaration (modifiers e.expectedPublic e.expectedStatic) e.expectedReturnType
    e.expectedMethodName e.expectedParamTypes

def SignatureError.expectedDeclaration (e : SignatureError) : String :=
  declaration (modifiers e.expectedPublic e.expectedStatic) (some e.expectedReturnType)
    e.expectedMethodName e.expectedParamTypes

/-- What a required method is called: static, a constructor when it has the name of its class, or
just a method. -/
def methodNoun (className methodName : String) (isStatic : Bool) : String :=
  if isStatic then "static method"
  else if methodName = className then "constructor"
  else "method"

def StructuralError.message : StructuralError → String
  | .missingRequiredClass className =>
    "Your submission must contain a class named " ++ inQuotes className ++ " that compiles."
  | .fieldVisibility className fieldName =>
    "The field " ++ inQuotes fieldName ++ " in class " ++ inQuotes className ++
      " must not be public."
  | .methodCount className methodName count isStatic =>
    "The class " ++ inQuotes className ++ " must have exactly " ++
      counted count "version" "versions" ++ " of the " ++
      methodNoun className methodName isStatic ++ " " ++ inQuotes methodName ++ "."
  | .methodDefinition e =>
    "The class " ++ inQuotes e.className ++ " must declare " ++
      inQuotes e.expectedDeclaration ++ "."

def SignatureError.message (e : SignatureError) : String :=
  "Your submission must contain exactly one method with the signature " ++
    inQuotes e.expectedDeclaration ++ "."

def Phase.subject : Phase → String
  | .submission .wholeClass => "Your class"
  | .tests => "The tests for your submission"
  | .submission .singleMethod => "Your method"
  | .submission .wholeProgram => "Your program"

/-- The full text of a compiler message, or its short one where there is no full text. -/
def CompileError.text (e : CompileError) : String :=
  if e.fullError.isEmpty then e.message else e.fullError

/-- The texts of compiler messages that are not empty. -/
def compilerOutput (errors : List CompileError) : List String :=
  (errors.map (·.text)).filter (!·.isEmpty)

def compilationMessage (phase : Phase) (errors : List CompileError) : String :=
  phase.subject ++ " failed to compile" ++
    match compilerOutput errors with
    | [] => "."
    | texts => ":\n" ++ "\n".intercalate texts

def Diagnostic.message : Diagnostic → String
  | .structural e => e.message
  | .methodSignature e => e.message
  | .compilation phase errors => compilationMessage phase errors

end CodeGrading
