import CodeGrading.Diagnostic
import CodeGrading.Overloads
import CodeGrading.TypeList

/-!
Comparing what was compiled with what a question requires.

A class must have compiled, must hide its fields unless the question allows public ones, and must
have for every required name as many methods as required, each agreeing with its counterpart. A
method must have compiled and be the only one of its name. All types are compared up to their type
arguments, and every disagreement found is reported.
-/

namespace CodeGrading

/-- The properties on which a compiled method disagrees with a required one. -/
def mismatches (r : RequiredMethod) (c : MethodDefinition) : List MethodProperty :=
  (if r.isPublic = c.isPublic then [] else [.visibility]) ++
    (if r.isStatic = c.isStatic then [] else [.staticness]) ++
    (if TypeName.SameParameters r.paramTypes c.parameterTypes then [] else [.parameterTypes]) ++
    (if TypeName.SameReturn r.returnType c.returnType then [] else [.returnType])

/-- The methods of a class that have a name. -/
def ClassDefinition.methodsNamed (d : ClassDefinition) (name : String) : List MethodDefinition :=
  d.methods.filter (·.name == name)

namespace ClassQuestion

/-- One error for every public field, unless public fields are allowed. -/
def fieldErrors (q : ClassQuestion) (d : ClassDefinition) : List StructuralError :=
  if q.allowPublicFields then []
  else (d.fields.filter (·.isPublic)).map fun f => .fieldVisibility q.className f.name

/-- The error for a required method of a set that its counterpart disagrees with. -/
def definitionError? (q : ClassQuestion) (name : String) (r : RequiredMethod)
    (c : MethodDefinition) : Option StructuralError :=
  match mismatches r c with
  | [] => none
  | properties => some (.methodDefinition
      { className := q.className
        expectedMethodName := name
        expectedPublic := r.isPublic
        expectedStatic := r.isStatic
        expectedParamTypes := TypeList.join r.paramTypes
        expectedReturnType := r.returnType
        mismatches := properties })

/-- The error for a set that has not as many compiled methods as required ones. -/
def countError (q : ClassQuestion) (name : String) (required : List RequiredMethod) :
    StructuralError :=
  .methodCount q.className name required.length (required.head?.any (·.isStatic))

/-- The errors of one set: its count, or else the definitions of its members. -/
def overloadErrors (q : ClassQuestion) (name : String) (required : List RequiredMethod)
    (compiled : List MethodDefinition) : List StructuralError :=
  if compiled.length = required.length then
    (pairOverloads required compiled).filterMap fun (r, c) => q.definitionError? name r c
  else [q.countError name required]

/-- The errors of a compiled class: its fields, then the sets in the order of their names. -/
def definitionErrors (q : ClassQuestion) (d : ClassDefinition) : List StructuralError :=
  q.fieldErrors d ++ (overloadSets q.className q.requiredMethods).flatMap fun (name, required) =>
    q.overloadErrors name required (d.methodsNamed name)

/-- How a submitted class differs from the question. Of a class that did not compile nothing else
can be told. -/
def compare (q : ClassQuestion) (p : ClassPayload) : List StructuralError :=
  match p.definition with
  | some d =>
    if p.compilation.success then q.definitionErrors d else [.missingRequiredClass q.className]
  | none => [.missingRequiredClass q.className]

end ClassQuestion

namespace MethodQuestion

/-- A compiled method is declared as the question asks, its name apart. -/
def Declares (q : MethodQuestion) (c : MethodDefinition) : Prop :=
  c.isPublic = q.isPublic ∧ c.isStatic = q.isStatic ∧
    TypeName.SameParameters q.parameterTypes c.parameterTypes ∧
    TypeName.SameReturn (some q.returnType) c.returnType

instance (q : MethodQuestion) (c : MethodDefinition) : Decidable (q.Declares c) :=
  inferInstanceAs (Decidable (_ ∧ _))

def signatureError (q : MethodQuestion) : SignatureError where
  expectedMethodName := q.methodName
  expectedPublic := q.isPublic
  expectedStatic := q.isStatic
  expectedParamTypes := TypeList.join q.parameterTypes
  expectedReturnType := q.returnType

/-- How a submitted method differs from the question. -/
def compare (q : MethodQuestion) (p : MethodPayload) : List Diagnostic :=
  if p.compilation.success then
    match (p.definitions.getD []).filter (·.name == q.methodName) with
    | [c] => if q.Declares c then [] else [.methodSignature q.signatureError]
    | _ => [.methodSignature q.signatureError]
  else [.compilation (.submission .singleMethod) p.compilation.errors]

end MethodQuestion

end CodeGrading
