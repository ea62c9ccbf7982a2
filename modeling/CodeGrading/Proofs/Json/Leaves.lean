import CodeGrading.Json.Reader
import CodeGrading.Json.Writer
import Mathlib.Data.List.TakeWhile
import Mathlib.Data.Option.Basic

/-!
Strings and numbers in JSON text. What is written between quotes is read back, whatever characters
it has (`readPieces_escape`). A number is read the same in front of whatever does not go on like a
number (`local_readNumber`), and every integer that is kept exact is read back
(`readNumber_writeInt`). Of doubles it is only told in which characters they are written
(`numberChar_toChars`).
-/

namespace CodeGrading.Json

/-! ## Strings -/

/-- The pieces that a character can be read as: itself, or its code if it is a control
character. -/
inductive Piece.Spells : Piece → Char → Prop
  | char (c : Char) : Spells (.char c) c
  | unit {c : Char} (control : c.toNat < 0x20) : Spells (.unit c.toNat) c

theorem hexDigit?_hexDigit : ∀ n < 16, hexDigit? (hexDigit n) = some n := by
  decide

theorem hexCode?_control {n : Nat} (control : n < 0x20) :
    hexCode? '0' '0' (hexDigit (n / 16)) (hexDigit n) = some n := by
  have high : hexDigit? (hexDigit (n / 16)) = some (n / 16) := hexDigit?_hexDigit _ (by omega)
  have low : hexDigit? (hexDigit n) = some (n % 16) := by
    have reduced : hexDigit n = hexDigit (n % 16) := by
      rw [hexDigit, hexDigit, Nat.mod_mod]
    rw [reduced]
    exact hexDigit?_hexDigit _ (Nat.mod_lt _ (by decide))
  have zero : hexDigit? '0' = some 0 := rfl
  have whole : n / 16 * 16 + n % 16 = n := by omega
  simp [hexCode?, high, low, zero, whole]

/-- Of the letters after a backslash only `u` is followed by a code. -/
theorem readPieces_escaped {e c : Char} (escape : escaped? e = some c) (cs : List Char) :
    readPieces ('\\' :: e :: cs) = (readPieces cs).map fun r => (.char c :: r.1, r.2) := by
  have other : e ≠ 'u' := by
    rintro rfl
    cases escape
  rw [readPieces]
  · rw [escape]
    cases readPieces cs <;> rfl
  · intro a b c d cs' u
    exact absurd u other

theorem readPieces_code {n : Nat} (control : n < 0x20) (cs : List Char) :
    readPieces ('\\' :: 'u' :: '0' :: '0' :: hexDigit (n / 16) :: hexDigit n :: cs) =
      (readPieces cs).map fun r => (.unit n :: r.1, r.2) := by
  rw [readPieces, hexCode?_control control]
  cases readPieces cs <;> rfl

theorem readPieces_plain {c : Char} (quote : c ≠ '"') (backslash : c ≠ '\\')
    (visible : 0x20 ≤ c.toNat) (cs : List Char) :
    readPieces (c :: cs) = (readPieces cs).map fun r => (.char c :: r.1, r.2) := by
  rw [readPieces]
  · rw [(Option.guard_eq_some' ()).mpr visible]
    cases readPieces cs <;> rfl
  all_goals
    intros
    simp_all

/-- A character is written as one letter after a backslash, as its code, or as it is. -/
theorem escapeChar_cases (c : Char) :
    (∃ e, escaped? e = some c ∧ escapeChar c = ['\\', e]) ∨
      (c.toNat < 0x20 ∧ escapeChar c =
        ['\\', 'u', '0', '0', hexDigit (c.toNat / 16), hexDigit c.toNat]) ∨
      (c ≠ '"' ∧ c ≠ '\\' ∧ 0x20 ≤ c.toNat ∧ escapeChar c = [c]) := by
  by_cases short : c ∈ ['"', '\\', '\x08', '\x0c', '\n', '\r', '\t']
  · left
    simp only [List.mem_cons, List.not_mem_nil, or_false] at short
    rcases short with rfl | rfl | rfl | rfl | rfl | rfl | rfl <;> exact ⟨_, by rfl, rfl⟩
  · right
    simp only [List.mem_cons, List.not_mem_nil, or_false, not_or] at short
    obtain ⟨quote, backslash, backspace, formFeed, lineFeed, carriageReturn, tab⟩ := short
    by_cases control : c.toNat < 0x20
    · left
      simp [escapeChar, quote, backslash, backspace, formFeed, lineFeed, carriageReturn, tab,
        control]
    · right
      refine ⟨quote, backslash, Nat.le_of_not_lt control, ?_⟩
      simp [escapeChar, quote, backslash, backspace, formFeed, lineFeed, carriageReturn, tab,
        control]

/-- One written character is read as one piece. -/
theorem readPieces_escapeChar (c : Char) :
    ∃ p : Piece, p.Spells c ∧
      ∀ cs, readPieces (escapeChar c ++ cs) = (readPieces cs).map fun r => (p :: r.1, r.2) := by
  rcases escapeChar_cases c with ⟨e, escape, written⟩ | ⟨control, written⟩ |
      ⟨quote, backslash, visible, written⟩
  · exact ⟨_, .char c, fun cs => written ▸ readPieces_escaped escape cs⟩
  · exact ⟨_, .unit control, fun cs => written ▸ readPieces_code control cs⟩
  · exact ⟨_, .char c, fun cs => written ▸ readPieces_plain quote backslash visible cs⟩

theorem assemble_cons {p : Piece} {c : Char} (spells : p.Spells c) (ps : List Piece) :
    assemble (p :: ps) = (assemble ps).map (c :: ·) := by
  cases spells with
  | char => rw [assemble]
  | unit control =>
    -- a control character is no half of a surrogate pair
    have high : isHighSurrogate c.toNat = false := by
      simp [isHighSurrogate]
      omega
    have low : isLowSurrogate c.toNat = false := by
      simp [isLowSurrogate]
      omega
    cases ps with
    | nil => simp [assemble, high, low, Char.ofNat_toNat]
    | cons q ps => cases q <;> simp [assemble, high, low, Char.ofNat_toNat]

/-- A written text is read back up to its closing quote. -/
theorem readPieces_escape (cs rest : List Char) :
    ∃ ps, readPieces (cs.flatMap escapeChar ++ '"' :: rest) = some (ps, rest) ∧
      assemble ps = some cs := by
  induction cs with
  | nil => exact ⟨[], rfl, rfl⟩
  | cons c cs ih =>
    obtain ⟨ps, read, text⟩ := ih
    obtain ⟨p, spells, first⟩ := readPieces_escapeChar c
    refine ⟨p :: ps, ?_, ?_⟩
    · rw [List.flatMap_cons, List.append_assoc, first, read]
      rfl
    · rw [assemble_cons spells, text]
      rfl

/-! ## Numbers in front of other text -/

/-- A number does not go on in the text. -/
def Delimited (rest : List Char) : Prop :=
  ∀ c ∈ rest.head?, c.isDigit = false ∧ c ≠ '.' ∧ c ≠ 'e' ∧ c ≠ 'E'

theorem delimited_nil : Delimited [] := by
  intro c mem
  cases mem

/-- What a reader leaves is the end of its text, and it reads the same in front of whatever does
not go on like a number. -/
def Local {α : Type} (reader : List Char → Option (α × List Char)) : Prop :=
  ∀ ⦃cs a left⦄, reader cs = some (a, left) →
    left <:+ cs ∧ ∀ ⦃rest⦄, Delimited rest → reader (cs ++ rest) = some (a, left ++ rest)

theorem local_readDigits : Local readDigits := by
  intro cs ds left read
  have parts : cs = cs.takeWhile Char.isDigit ++ cs.dropWhile Char.isDigit :=
    List.takeWhile_append_dropWhile.symm
  rw [readDigits] at read
  cases taken : cs.takeWhile Char.isDigit with
  | nil => simp [taken] at read
  | cons d ds' =>
    simp only [taken, Option.some.injEq, Prod.mk.injEq] at read
    obtain ⟨rfl, rfl⟩ := read
    refine ⟨List.dropWhile_suffix _, fun rest delimited => ?_⟩
    have digits : ∀ c ∈ d :: ds', c.isDigit = true := by
      rw [← taken]
      intro c mem
      exact List.all_eq_true.mp List.all_takeWhile c mem
    have ends : (cs.dropWhile Char.isDigit ++ rest).takeWhile Char.isDigit = [] ∧
        (cs.dropWhile Char.isDigit ++ rest).dropWhile Char.isDigit =
          cs.dropWhile Char.isDigit ++ rest := by
      cases left : cs.dropWhile Char.isDigit with
      | nil =>
        cases rest with
        | nil => exact ⟨rfl, rfl⟩
        | cons c rest =>
          have stop := (delimited c rfl).1
          simp [stop]
      | cons c left' =>
        have stop : c.isDigit = false := by
          have := List.head?_dropWhile_not Char.isDigit cs
          simpa [left] using this
        simp [stop]
    have whole : cs ++ rest = d :: ds' ++ (cs.dropWhile Char.isDigit ++ rest) := by
      rw [← taken, ← List.append_assoc, ← parts]
    rw [readDigits, whole, List.takeWhile_append_of_pos digits, ends.1, List.append_nil,
      List.dropWhile_append_of_pos digits, ends.2]

theorem readFraction_delimited {rest : List Char} (delimited : Delimited rest) :
    readFraction rest = some ([], rest) := by
  cases rest with
  | nil => rfl
  | cons c rest =>
    rw [readFraction]
    rintro cs eq
    exact (delimited c rfl).2.1 (List.cons.inj eq).1

theorem local_readFraction : Local readFraction := by
  intro cs ds left read
  cases cs with
  | nil =>
    cases read
    exact ⟨List.suffix_rfl, fun rest delimited => readFraction_delimited delimited⟩
  | cons c cs =>
    by_cases point : c = '.'
    · subst point
      obtain ⟨suffix, further⟩ := local_readDigits read
      exact ⟨suffix.trans (List.suffix_cons '.' cs), further⟩
    · have none : ∀ text, readFraction (c :: text) = some ([], c :: text) := by
        intro text
        rw [readFraction]
        rintro cs' eq
        exact point (List.cons.inj eq).1
      rw [none] at read
      cases read
      exact ⟨List.suffix_rfl, fun rest _ => none _⟩

theorem readExponent_delimited {rest : List Char} (delimited : Delimited rest) :
    readExponent rest = some (none, rest) := by
  cases rest with
  | nil => rfl
  | cons c rest =>
    obtain ⟨_, _, lower, upper⟩ := delimited c rfl
    simp [readExponent, lower, upper]

/-- After the letter of an exponent, a sign is passed over. -/
theorem readExponent_signed {c : Char} (letter : c = 'e' ∨ c = 'E') (d : Char) :
    ∃ (value : List Nat → Option Int) (front : List Char), (front = [] ∨ front = [d]) ∧
      ∀ cs, readExponent (c :: d :: cs) =
        (readDigits (front ++ cs)).map fun r => (value r.1, r.2) := by
  by_cases minus : d = '-'
  · refine ⟨fun ds => some (-(integerOf ds : Int)), [], .inl rfl, fun cs => ?_⟩
    simp [readExponent, letter, minus]
  · by_cases plus : d = '+'
    · refine ⟨fun ds => some (integerOf ds : Int), [], .inl rfl, fun cs => ?_⟩
      simp [readExponent, letter, plus]
    · refine ⟨fun ds => some (integerOf ds : Int), [d], .inr rfl, fun cs => ?_⟩
      simp [readExponent, letter, minus, plus]

theorem local_readExponent : Local readExponent := by
  intro cs e left read
  cases cs with
  | nil =>
    cases read
    exact ⟨List.suffix_rfl, fun rest delimited => readExponent_delimited delimited⟩
  | cons c cs =>
    by_cases letter : c = 'e' ∨ c = 'E'
    · cases cs with
      | nil => simp [readExponent, letter, readDigits] at read
      | cons d cs =>
        obtain ⟨value, front, short, signed⟩ := readExponent_signed letter d
        rw [signed, Option.map_eq_some_iff] at read
        obtain ⟨⟨digits, left'⟩, readDigits, eq⟩ := read
        obtain ⟨rfl, rfl⟩ := Prod.mk.inj eq
        obtain ⟨suffix, further⟩ := local_readDigits readDigits
        have tail : front ++ cs <:+ c :: d :: cs := by
          rcases short with rfl | rfl
          · exact (List.suffix_cons d cs).trans (List.suffix_cons c _)
          · exact List.suffix_cons c _
        refine ⟨suffix.trans tail, fun rest delimited => ?_⟩
        have digitsRead := further delimited
        rw [List.append_assoc] at digitsRead
        rw [List.cons_append, List.cons_append, signed, digitsRead]
        rfl
    · have none : ∀ text, readExponent (c :: text) = some (none, c :: text) := by
        intro text
        simp only [readExponent, letter, if_false]
      rw [none] at read
      cases read
      exact ⟨List.suffix_rfl, fun rest _ => none _⟩

theorem local_readMagnitude (negative : Bool) : Local (readMagnitude negative) := by
  intro cs n left read
  simp only [readMagnitude, Option.bind_eq_bind, Option.bind_eq_some_iff, Option.pure_def,
    Option.some.injEq, Prod.mk.injEq, Prod.exists] at read
  obtain ⟨whole, afterWhole, readWhole, ⟨⟩, allowed, fraction, afterFraction, readFraction, exponent,
    afterExponent, readExponent, rfl, rfl⟩ := read
  have first := local_readDigits readWhole
  have second := local_readFraction readFraction
  have third := local_readExponent readExponent
  refine ⟨third.1.trans (second.1.trans first.1), fun rest delimited => ?_⟩
  simp only [readMagnitude, Option.bind_eq_bind, first.2 delimited, second.2 delimited,
    third.2 delimited, allowed, Option.bind_some, pure]

theorem local_readNumber : Local readNumber := by
  intro cs n left read
  cases cs with
  | nil => cases read
  | cons c cs =>
    by_cases sign : c = '-'
    · subst sign
      obtain ⟨suffix, further⟩ := local_readMagnitude true read
      exact ⟨suffix.trans (List.suffix_cons '-' cs), further⟩
    · have unsigned : ∀ text, readNumber (c :: text) = readMagnitude false (c :: text) := by
        intro text
        rw [readNumber]
        rintro cs' eq
        exact sign (List.cons.inj eq).1
      rw [unsigned] at read
      obtain ⟨suffix, further⟩ := local_readMagnitude false read
      exact ⟨suffix, fun rest delimited => (unsigned _).trans (further delimited)⟩

/-! ## Integers -/

theorem integerOf_map_digit (ds : List Char) :
    integerOf (ds.map digit) = Nat.ofDigitChars 10 ds 0 := by
  rw [integerOf, List.foldl_map, Nat.ofDigitChars_eq_foldl]
  congr 1
  funext n c
  rw [Nat.mul_comm, digit]

theorem integerOf_toDigits (n : Nat) : integerOf ((Nat.toDigits 10 n).map digit) = n := by
  rw [integerOf_map_digit, Nat.ofDigitChars_toDigits (by decide) (by decide)]

theorem digit_digitChar : ∀ d < 10, digit d.digitChar = d := by
  decide

theorem isDigit_of_mem_toDigits {n : Nat} {c : Char} (mem : c ∈ Nat.toDigits 10 n) :
    c.isDigit = true :=
  Nat.isDigit_of_mem_toDigits (by decide) (by decide) mem

/-- A numeral begins with a digit. -/
theorem exists_toDigits_eq_cons (n : Nat) :
    ∃ d ds, Nat.toDigits 10 n = d :: ds ∧ d.isDigit = true := by
  cases digits : Nat.toDigits 10 n with
  | nil => exact absurd digits Nat.toDigits_ne_nil
  | cons d ds => exact ⟨d, ds, rfl, isDigit_of_mem_toDigits (n := n) (by simp [digits])⟩

/-- The decimal numeral of a positive number does not begin with zero. -/
theorem head?_toDigits_ne_zero {n : Nat} (positive : 0 < n) :
    ((Nat.toDigits 10 n).map digit).head? ≠ some 0 := by
  induction n using Nat.strongRecOn with
  | ind n ih =>
    by_cases small : n < 10
    · rw [Nat.toDigits_of_lt_base small]
      simp only [List.map_cons, List.map_nil, List.head?_cons, digit_digitChar n small]
      intro zero
      have := Option.some.inj zero
      omega
    · have front : 0 < n / 10 := by omega
      have parts : Nat.toDigits 10 n = Nat.toDigits 10 (n / 10) ++ Nat.toDigits 10 (n % 10) := by
        rw [Nat.toDigits_append_toDigits (by decide) front (Nat.mod_lt _ (by decide)),
          Nat.div_add_mod]
      have same : ((Nat.toDigits 10 n).map digit).head? =
          ((Nat.toDigits 10 (n / 10)).map digit).head? := by
        obtain ⟨d, ds, digits, _⟩ := exists_toDigits_eq_cons (n / 10)
        rw [parts, digits]
        rfl
      rw [same]
      exact ih (n / 10) (by omega) front

theorem readDigits_toDigits (n : Nat) :
    readDigits (Nat.toDigits 10 n) = some ((Nat.toDigits 10 n).map digit, []) := by
  have digits : ∀ c ∈ Nat.toDigits 10 n, c.isDigit = true := fun _ => isDigit_of_mem_toDigits
  obtain ⟨d, ds, eq, _⟩ := exists_toDigits_eq_cons n
  rw [readDigits, List.takeWhile_eq_self_iff.mpr digits, List.dropWhile_eq_nil_iff.mpr digits, eq]

theorem readMagnitude_toDigits (negative : Bool) (n : Nat) :
    readMagnitude negative (Nat.toDigits 10 n) =
      some (numberOf negative ((Nat.toDigits 10 n).map digit) [] none, []) := by
  have unpadded : ((Nat.toDigits 10 n).map digit).length = 1 ∨
      ((Nat.toDigits 10 n).map digit).head? ≠ some 0 := by
    rcases Nat.eq_zero_or_pos n with rfl | positive
    · exact Or.inl rfl
    · exact Or.inr (head?_toDigits_ne_zero positive)
  have allowed := (Option.guard_eq_some' ()).mpr unpadded
  simp only [readMagnitude, readDigits_toDigits, Option.bind_eq_bind, Option.bind_some, allowed,
    readFraction_delimited delimited_nil, readExponent_delimited delimited_nil, pure]

/-- Every integer that is kept exact is read back. -/
theorem readNumber_writeInt {i : Int} (least : leastInteger ≤ i) (greatest : i ≤ greatestInteger) :
    readNumber (writeInt i) = some (some (.integer i), []) := by
  cases i with
  | ofNat n =>
    have unsigned : ∀ cs, writeInt (.ofNat n) ≠ '-' :: cs := by
      intro cs eq
      obtain ⟨d, ds, digits, isDigit⟩ := exists_toDigits_eq_cons n
      rw [writeInt, digits] at eq
      rw [(List.cons.inj eq).1] at isDigit
      cases isDigit
    rw [readNumber]
    · rw [writeInt, readMagnitude_toDigits false n]
      have exact_number : numberOf false ((Nat.toDigits 10 n).map digit) [] none =
          some (.integer (.ofNat n)) := by
        have bounds : leastInteger ≤ (n : Int) ∧ (n : Int) ≤ greatestInteger := ⟨least, greatest⟩
        simp [numberOf, integerOf_toDigits, bounds]
      rw [exact_number]
    · exact unsigned
  | negSucc n =>
    rw [writeInt, readNumber, readMagnitude_toDigits true (n + 1)]
    have exact_number : numberOf true ((Nat.toDigits 10 (n + 1)).map digit) [] none =
        some (.integer (.negSucc n)) := by
      have bounds : leastInteger ≤ -((n + 1 : Nat) : Int) ∧
          -((n + 1 : Nat) : Int) ≤ greatestInteger := ⟨least, greatest⟩
      simp only [numberOf, integerOf_toDigits, if_true, bounds, List.isEmpty_nil,
        Option.isNone_none, Nat.succ_ne_zero, and_false, not_false_eq_true, and_self]
      rfl
    rw [exact_number]

/-! ## The characters of numbers -/

/-- The characters that numbers are written in. -/
def NumberChar (c : Char) : Prop :=
  c.isDigit = true ∨ c ∈ ['-', '+', '.', 'e']

theorem NumberChar.ne {c d : Char} (number : NumberChar c)
    (other : d.isDigit = false ∧ d ∉ ['-', '+', '.', 'e']) : c ≠ d := by
  rintro rfl
  rcases number with isDigit | mark
  · rw [other.1] at isDigit
    cases isDigit
  · exact other.2 mark

theorem NumberChar.solid {c : Char} (number : NumberChar c) : isSpace c = false := by
  have blank : c ≠ ' ' := number.ne (by decide)
  have lineFeed : c ≠ '\n' := number.ne (by decide)
  have tab : c ≠ '\t' := number.ne (by decide)
  have carriageReturn : c ≠ '\r' := number.ne (by decide)
  simp [isSpace, blank, lineFeed, tab, carriageReturn]

theorem NumberChar.scalar {c : Char} (number : NumberChar c) : c ∉ ['[', '\x7b', '"'] := by
  have bracket : c ≠ '[' := number.ne (by decide)
  have brace : c ≠ '\x7b' := number.ne (by decide)
  have quote : c ≠ '"' := number.ne (by decide)
  simp [bracket, brace, quote]

theorem numberChar_toDigits (n : Nat) : ∀ c ∈ Nat.toDigits 10 n, NumberChar c :=
  fun _ mem => .inl (isDigit_of_mem_toDigits mem)

theorem numberChar_writeInt (i : Int) : ∀ c ∈ writeInt i, NumberChar c := by
  cases i with
  | ofNat n => exact numberChar_toDigits n
  | negSucc n => exact List.forall_mem_cons.mpr ⟨.inr (by decide), numberChar_toDigits _⟩

open Binary64 in
theorem numberChar_layout {digits : List Char} (numeral : ∀ c ∈ digits, NumberChar c)
    (exponent : Int) : ∀ c ∈ layout digits exponent, NumberChar c := by
  have zero : NumberChar '0' := .inl rfl
  have point : NumberChar '.' := .inr (by decide)
  have letter : NumberChar 'e' := .inr (by decide)
  have zeros : ∀ n, ∀ c ∈ List.replicate n '0', NumberChar c := by
    intro n c mem
    exact (List.mem_replicate.mp mem).2 ▸ zero
  simp only [layout]
  split
  · have sign : NumberChar (if exponent < 0 then '-' else '+') := by
      split
      · exact .inr (by decide)
      · exact .inr (by decide)
    have tail : ∀ c ∈ 'e' :: (if exponent < 0 then '-' else '+') ::
        Nat.toDigits 10 exponent.natAbs, NumberChar c :=
      List.forall_mem_cons.mpr ⟨letter, List.forall_mem_cons.mpr ⟨sign, numberChar_toDigits _⟩⟩
    rcases digits with _ | ⟨d, _ | ⟨d', ds⟩⟩
    · exact tail
    · exact List.forall_mem_cons.mpr ⟨numeral d List.mem_cons_self, tail⟩
    · obtain ⟨first, more⟩ := List.forall_mem_cons.mp numeral
      have fraction := List.forall_mem_append.mpr ⟨more, tail⟩
      exact List.forall_mem_cons.mpr ⟨first, List.forall_mem_cons.mpr ⟨point, fraction⟩⟩
  · cases exponent with
    | ofNat e =>
      have whole : ∀ c ∈ digits.take (e + 1), NumberChar c :=
        fun c mem => numeral c (List.mem_of_mem_take mem)
      have fraction : ∀ c ∈ (if (digits.drop (e + 1)).isEmpty then ['0'] else digits.drop (e + 1)),
          NumberChar c := by
        split
        · simpa using zero
        · exact fun c mem => numeral c (List.mem_of_mem_drop mem)
      have front := List.forall_mem_append.mpr
        ⟨whole, zeros (e + 1 - (digits.take (e + 1)).length)⟩
      exact List.forall_mem_append.mpr ⟨front, List.forall_mem_cons.mpr ⟨point, fraction⟩⟩
    | negSucc e =>
      have fraction := List.forall_mem_append.mpr ⟨zeros e, numeral⟩
      exact List.forall_mem_cons.mpr ⟨zero, List.forall_mem_cons.mpr ⟨point, fraction⟩⟩

theorem numberChar_toChars (x : Binary64) : ∀ c ∈ x.toChars, NumberChar c := by
  have magnitude : ∀ c ∈ (if x.isZero then ['0', '.', '0'] else
      Binary64.layout (Binary64.dropTrailingZeros (Nat.toDigits 10 x.shortest.1))
        (x.shortest.2 + (Nat.toDigits 10 x.shortest.1).length - 1)), NumberChar c := by
    split
    · simp [NumberChar]
    · refine numberChar_layout (fun c mem => ?_) _
      rw [Binary64.dropTrailingZeros, List.mem_reverse] at mem
      have kept := (List.dropWhile_sublist _).mem mem
      exact numberChar_toDigits _ c (List.mem_reverse.mp kept)
  rw [Binary64.toChars]
  split
  · exact List.forall_mem_cons.mpr ⟨.inr (by decide), magnitude⟩
  · exact magnitude

end CodeGrading.Json
