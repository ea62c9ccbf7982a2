import CodeGrading.Proofs.Json.Leaves

/-!
The two layouts of a text. They differ in the blanks between the tokens only (`Layout.gap`,
`Layout.pad`), so the texts of arrays and objects have one form (`chars_array_cons`,
`chars_object_cons`), and the reader passes over the blanks (`skipSpaces_append`).
-/

namespace CodeGrading.Json

/-- How the tokens of a text are set apart. -/
inductive Layout where
  | compact
  | pretty
  deriving DecidableEq, Repr

namespace Layout

def write : Layout → Json → String
  | .compact => Json.compact
  | .pretty => Json.pretty

/-- What stands between two tokens where a line may end. -/
def gap : Layout → Nat → List Char
  | .compact, _ => []
  | .pretty, indent => newline indent

/-- What stands between the colon of a member and its value. -/
def pad : Layout → List Char
  | .compact => []
  | .pretty => [' ']

/-- The text of a value whose line is indented by some levels. -/
def chars : Layout → Nat → Json → List Char
  | .compact, _, v => compactChars v
  | .pretty, indent, v => prettyChars indent v

/-- The items after the first, and the closing bracket. -/
def items : Layout → Nat → List Json → List Char
  | .compact, _, vs => compactItems vs
  | .pretty, indent, vs => prettyItems indent vs

/-- The members after the first, and the closing brace. -/
def members : Layout → Nat → List (String × Json) → List Char
  | .compact, _, ms => compactMembers ms
  | .pretty, indent, ms => prettyMembers indent ms

/-- The text of a member with its name. -/
def member (l : Layout) (indent : Nat) (m : String × Json) : List Char :=
  quote m.1 ++ ':' :: (l.pad ++ l.chars indent m.2)

variable (l : Layout) (indent : Nat)

theorem write_eq (v : Json) : l.write v = String.ofList (l.chars 0 v) := by
  cases l <;> rfl

theorem chars_array_nil : l.chars indent (.array []) = ['[', ']'] := by
  cases l <;> rfl

theorem chars_array_cons (v : Json) (vs : List Json) :
    l.chars indent (.array (v :: vs)) =
      '[' :: (l.gap (indent + 1) ++ (l.chars (indent + 1) v ++ l.items indent vs)) := by
  cases l <;> simp [chars, items, gap, compactChars, prettyChars]

theorem items_nil : l.items indent [] = l.gap indent ++ [']'] := by
  cases l <;> rfl

theorem items_cons (v : Json) (vs : List Json) :
    l.items indent (v :: vs) =
      ',' :: (l.gap (indent + 1) ++ (l.chars (indent + 1) v ++ l.items indent vs)) := by
  cases l <;> simp [chars, items, gap, compactItems, prettyItems]

theorem chars_object_nil : l.chars indent (.object []) = ['\x7b', '\x7d'] := by
  cases l <;> rfl

theorem chars_object_cons (m : String × Json) (ms : List (String × Json)) :
    l.chars indent (.object (m :: ms)) =
      '\x7b' :: (l.gap (indent + 1) ++ (l.member (indent + 1) m ++ l.members indent ms)) := by
  cases l <;> simp [chars, members, member, gap, pad, compactChars, prettyChars]

theorem members_nil : l.members indent [] = l.gap indent ++ ['\x7d'] := by
  cases l <;> rfl

theorem members_cons (m : String × Json) (ms : List (String × Json)) :
    l.members indent (m :: ms) =
      ',' :: (l.gap (indent + 1) ++ (l.member (indent + 1) m ++ l.members indent ms)) := by
  cases l <;> simp [chars, members, member, gap, pad, compactMembers, prettyMembers]

end Layout

/-! ## Blanks -/

def Blank (cs : List Char) : Prop :=
  ∀ c ∈ cs, isSpace c = true

theorem blank_nil : Blank [] :=
  nofun

theorem Layout.blank_gap (l : Layout) (indent : Nat) : Blank (l.gap indent) := by
  cases l with
  | compact => nofun
  | pretty =>
    intro c mem
    rcases List.mem_cons.mp mem with rfl | space
    · rfl
    · rw [(List.mem_replicate.mp space).2]
      rfl

theorem Layout.blank_pad (l : Layout) : Blank l.pad := by
  cases l with
  | compact => nofun
  | pretty =>
    intro c mem
    rw [List.mem_singleton.mp mem]
    rfl

theorem skipSpaces_cons {c : Char} (solid : isSpace c = false) (cs : List Char) :
    skipSpaces (c :: cs) = c :: cs := by
  simp [skipSpaces, solid]

variable {gap : List Char}

theorem skipSpaces_append (blank : Blank gap) (cs : List Char) :
    skipSpaces (gap ++ cs) = skipSpaces cs :=
  List.dropWhile_append_of_pos blank

theorem readValue_append (blank : Blank gap) (fuel level : Nat) (cs : List Char) :
    readValue fuel level (gap ++ cs) = readValue fuel level cs := by
  cases fuel with
  | zero => rfl
  | succ fuel => simp only [readValue, skipSpaces_append blank]

theorem readName_append (blank : Blank gap) (cs : List Char) :
    readName (gap ++ cs) = readName cs := by
  simp only [readName, skipSpaces_append blank]

theorem delimited_append (blank : Blank gap) {cs : List Char} (delimited : Delimited cs) :
    Delimited (gap ++ cs) := by
  cases gap with
  | nil => exact delimited
  | cons c gap =>
    rintro d ⟨⟩
    have space := blank c List.mem_cons_self
    simp only [isSpace, Bool.or_eq_true, beq_iff_eq] at space
    rcases space with ((rfl | rfl) | rfl) | rfl <;> decide

end CodeGrading.Json
