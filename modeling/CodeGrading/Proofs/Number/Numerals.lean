import CodeGrading.Number.Bounded
import CodeGrading.Proofs.Text.Trimming

/-!
Which texts denote a number. A decimal is a run of digits, zeros in front included; it may have a
plus sign before it and blanks around it, and nothing else (`Denotes`). `natBelow?_eq_some`: these
texts are read, as the numbers that they denote, as long as these are below the bound.
-/

namespace CodeGrading

/-- A run of digits denotes a number: another digit at its end makes the number ten times as large
and is added to it. -/
inductive Decimal : List Char → Nat → Prop where
  | digit {d : Nat} (small : d < 10) : Decimal [d.digitChar] d
  | append {cs : List Char} {n d : Nat} (decimal : Decimal cs n) (small : d < 10) :
      Decimal (cs ++ [d.digitChar]) (10 * n + d)

/-- A decimal, perhaps after a plus sign. -/
inductive Numeral : List Char → Nat → Prop where
  | unsigned {cs : List Char} {n : Nat} (decimal : Decimal cs n) : Numeral cs n
  | signed {cs : List Char} {n : Nat} (decimal : Decimal cs n) : Numeral ('+' :: cs) n

/-- A text denotes a number when it is a numeral between blanks. -/
def Denotes (text : String) (n : Nat) : Prop :=
  ∃ front cs back, (∀ c ∈ front, Text.isBlank c = true) ∧ (∀ c ∈ back, Text.isBlank c = true) ∧
    text.toList = front ++ cs ++ back ∧ Numeral cs n

variable {cs : List Char} {n : Nat}

/-! ## Decimals -/

theorem exists_digit_of_isDigit {c : Char} (isDigit : c.isDigit = true) :
    ∃ d < 10, c = d.digitChar := by
  have range : 48 ≤ c.toNat ∧ c.toNat ≤ 57 := Char.isDigit_iff_toNat.mp isDigit
  have small : c.toNat - 48 < 10 := by omega
  refine ⟨c.toNat - 48, small, ?_⟩
  apply Char.toNat_inj.mp
  rw [Nat.toNat_digitChar_of_lt_ten small]
  omega

theorem ofDigitChars_concat (cs : List Char) {d : Nat} (small : d < 10) :
    Nat.ofDigitChars 10 (cs ++ [d.digitChar]) 0 = 10 * Nat.ofDigitChars 10 cs 0 + d := by
  rw [Nat.ofDigitChars_append, Nat.ofDigitChars_cons_digitChar_of_lt_ten small,
    Nat.ofDigitChars_nil]

theorem Decimal.ne_nil (decimal : Decimal cs n) : cs ≠ [] := by
  cases decimal <;> simp

theorem Decimal.isDigit (decimal : Decimal cs n) : ∀ c ∈ cs, c.isDigit = true := by
  induction decimal with
  | digit small => simp [small]
  | append _ small ih =>
    intro c mem
    rcases List.mem_append.mp mem with mem | mem
    · exact ih c mem
    · simp [List.mem_singleton.mp mem, small]

theorem Decimal.ofDigitChars_eq (decimal : Decimal cs n) : Nat.ofDigitChars 10 cs 0 = n := by
  induction decimal with
  | digit small => simpa using ofDigitChars_concat [] small
  | append _ small ih => rw [ofDigitChars_concat _ small, ih]

/-- Every run of digits denotes the number that reading it digit by digit gives. -/
theorem decimal_ofDigitChars (nonempty : cs ≠ []) (digits : ∀ c ∈ cs, c.isDigit = true) :
    Decimal cs (Nat.ofDigitChars 10 cs 0) := by
  -- a decimal grows at its end, so the induction takes the last digit off
  induction cs using List.reverseRecOn with
  | nil => exact absurd rfl nonempty
  | append_singleton cs c ih =>
    obtain ⟨d, small, rfl⟩ := exists_digit_of_isDigit (digits c (by simp))
    rw [ofDigitChars_concat cs small]
    by_cases first : cs = []
    · subst first
      simpa using Decimal.digit small
    · exact .append (ih first fun c mem => digits c (List.mem_append_left _ mem)) small

theorem decimal_iff :
    Decimal cs n ↔ cs ≠ [] ∧ (∀ c ∈ cs, c.isDigit = true) ∧ Nat.ofDigitChars 10 cs 0 = n := by
  constructor
  · intro decimal
    exact ⟨decimal.ne_nil, decimal.isDigit, decimal.ofDigitChars_eq⟩
  · rintro ⟨nonempty, digits, rfl⟩
    exact decimal_ofDigitChars nonempty digits

/-- Zeros in front of the decimal text of a number make no difference. -/
theorem decimal_padded (zeros n : Nat) :
    Decimal (List.replicate zeros '0' ++ (toString n).toList) n := by
  rw [Nat.toString_eq_repr, Nat.toList_repr]
  refine decimal_iff.mpr ⟨?_, ?_, ?_⟩
  · simp [Nat.toDigits_ne_nil]
  · intro c mem
    rcases List.mem_append.mp mem with mem | mem
    · rw [List.eq_of_mem_replicate mem]
      rfl
    · exact Nat.isDigit_of_mem_toDigits (by decide) (by decide) mem
  · rw [Nat.ofDigitChars_append, Nat.ofDigitChars_replicate_zero, Nat.mul_zero,
      Nat.ofDigitChars_ten_toDigits]

/-! ## Numerals -/

theorem digits_eq_some :
    (if cs.isEmpty || !cs.all Char.isDigit then none else some (Nat.ofDigitChars 10 cs 0)) =
      some n ↔ Decimal cs n := by
  rw [decimal_iff]
  by_cases nonempty : cs = []
  · simp [nonempty]
  · by_cases digits : ∀ c ∈ cs, c.isDigit = true <;> simp [nonempty, digits]

theorem Decimal.not_signed {ds : List Char} : ¬ Decimal ('+' :: ds) n := by
  intro decimal
  have plus : '+'.isDigit = true := decimal.isDigit '+' List.mem_cons_self
  cases plus

theorem numeral?_eq_some : numeral? cs = some n ↔ Numeral cs n := by
  unfold numeral?
  split
  · rename_i ds
    rw [digits_eq_some]
    constructor
    · exact .signed
    · rintro (decimal | decimal)
      · exact absurd decimal Decimal.not_signed
      · exact decimal
  · rename_i unsigned
    rw [digits_eq_some]
    constructor
    · exact .unsigned
    · rintro (decimal | _)
      · exact decimal
      · exact absurd rfl (unsigned _)

theorem isBlank_of_isDigit {c : Char} (isDigit : c.isDigit = true) : Text.isBlank c = false := by
  have blank : ∀ d < 10, Text.isBlank d.digitChar = false := by decide
  obtain ⟨d, small, rfl⟩ := exists_digit_of_isDigit isDigit
  exact blank d small

/-- There is no blank in a numeral, so trimming does not change it. -/
theorem Numeral.trimChars_eq (numeral : Numeral cs n) : Text.trimChars cs = cs := by
  have solid : ∀ c ∈ cs, Text.isBlank c = false := by
    cases numeral with
    | unsigned decimal => exact fun c mem => isBlank_of_isDigit (decimal.isDigit c mem)
    | signed decimal =>
      exact List.forall_mem_cons.mpr
        ⟨by decide, fun c mem => isBlank_of_isDigit (decimal.isDigit c mem)⟩
  refine Text.trimChars_eq_self.mpr ⟨?_, ?_⟩
  · exact fun c first => solid c (List.mem_of_mem_head? first)
  · exact fun c last => solid c (List.mem_of_getLast? last)

/-! ## Texts -/

theorem denotes_iff {text : String} :
    Denotes text n ↔ Numeral (Text.trimChars text.toList) n := by
  constructor
  · rintro ⟨front, cs, back, blankFront, blankBack, eq, numeral⟩
    rw [eq, Text.trimChars_blanks blankFront blankBack, numeral.trimChars_eq]
    exact numeral
  · intro numeral
    obtain ⟨front, back, blankFront, blankBack, eq⟩ := Text.exists_blanks text.toList
    exact ⟨front, _, back, blankFront, blankBack, eq, numeral⟩

/-- **Which texts are read as numbers.** -/
theorem natBelow?_eq_some {bound : Nat} {text : String} :
    natBelow? bound text = some n ↔ Denotes text n ∧ n < bound := by
  rw [natBelow?, Option.filter_eq_some_iff, numeral?_eq_some, denotes_iff, decide_eq_true_eq]

/-- A text denotes one number at most. -/
theorem Denotes.unique {text : String} {m : Nat} (first : Denotes text m)
    (second : Denotes text n) : m = n := by
  rw [denotes_iff, ← numeral?_eq_some] at first second
  exact Option.some.inj (first.symm.trans second)

end CodeGrading
