import CodeGrading.Proofs.Number.Numerals
import CodeGrading.Settings

/-!
The settings that are numbers. `numbers_loaded`: loading gives to each the number that the text of
its variable denotes, if the setting can hold it, and its default in every other case. A variable
that is set is not changed by the file of variables (`fullEnvironment_of_set`).
-/

namespace CodeGrading

/-! ## Variables that are set -/

namespace Environment

variable {env : Environment} {name text : String}

theorem setMissing_of_set (held : env name = some text) (key value : String) :
    env.setMissing key value name = some text := by
  cases earlier : env key with
  | some _ => simpa only [setMissing, earlier] using held
  | none =>
    have other : name ≠ key := by
      rintro rfl
      rw [held] at earlier
      cases earlier
    simpa only [setMissing, earlier, Environment.set, if_neg other] using held

/-- No line of a file changes a variable that is set. -/
theorem addLines_of_set (held : env name = some text) (lines : List (List Char)) :
    env.addLines lines name = some text := by
  induction lines generalizing env with
  | nil => exact held
  | cons line lines ih =>
    cases said : Dotenv.line env line with
    | nothing => simpa only [addLines, said] using ih held
    | binding key value => simpa only [addLines, said] using ih (setMissing_of_set held key value)
    | malformed => simpa only [addLines, said] using held

theorem addFile_of_set (held : env name = some text) (contents : String) :
    env.addFile contents name = some text :=
  addLines_of_set held _

end Environment

namespace Settings

theorem Store.fullEnvironment_of_set {s : Store} {name text : String}
    (held : s.environment name = some text) : s.fullEnvironment name = some text := by
  cases file : s.file with
  | some contents =>
    simpa only [Store.fullEnvironment, file] using Environment.addFile_of_set held contents
  | none => simpa only [Store.fullEnvironment, file] using held

/-! ## Single numbers -/

section Number

variable {env : Environment} {name text : String} {bound default n : Nat}

theorem number_of_denoted (held : env name = some text) (denotes : Denotes text n)
    (below : n < bound) : number env name bound default = n := by
  have read : natBelow? bound text = some n := natBelow?_eq_some.mpr ⟨denotes, below⟩
  rw [number, held, Option.bind_some, read, Option.getD_some]

theorem number_of_undenoted
    (undenoted : ∀ text n, env name = some text → Denotes text n → bound ≤ n) :
    number env name bound default = default := by
  have unread : (env name).bind (natBelow? bound) = none := by
    apply Option.bind_eq_none_iff.mpr
    intro text held
    apply Option.eq_none_iff_forall_ne_some.mpr
    intro n read
    obtain ⟨denotes, below⟩ := natBelow?_eq_some.mp read
    exact absurd (undenoted text n held denotes) (by omega)
  rw [number, unread, Option.getD_none]

/-- What is read for a number is below the bound, so it is kept as it is. -/
theorem number_lt (allowed : default < bound) : number env name bound default < bound := by
  unfold number
  cases read : (env name).bind (natBelow? bound) with
  | none => exact allowed
  | some n =>
    obtain ⟨text, _, read⟩ := Option.bind_eq_some_iff.mp read
    exact (natBelow?_eq_some.mp read).2

end Number

/-- What is loaded for a variable: the number that its text denotes, if that is at most the
greatest one, and else the default. So zeros and blanks around the decimal text of a number do not
change what is loaded. -/
structure NumberLoaded (env : Environment) (name : String) (greatest default loaded : Nat) :
    Prop where
  denoted : ∀ text n, env name = some text → Denotes text n → n ≤ greatest → loaded = n
  padded : ∀ n ≤ greatest, ∀ zeros front back, (∀ c ∈ front, Text.isBlank c = true) →
    (∀ c ∈ back, Text.isBlank c = true) →
    env name = some (String.ofList
      (front ++ (List.replicate zeros '0' ++ (toString n).toList) ++ back)) → loaded = n
  otherwise : (∀ text n, env name = some text → Denotes text n → greatest < n) → loaded = default

theorem numberLoaded_number (env : Environment) (name : String) (greatest default : Nat) :
    NumberLoaded env name greatest default (number env name (greatest + 1) default) where
  denoted _ _ held denotes le := number_of_denoted held denotes (Nat.lt_succ_of_le le)
  padded n le zeros front back blankFront blankBack held :=
    number_of_denoted held
      ⟨front, _, back, blankFront, blankBack, String.toList_ofList,
        .unsigned (decimal_padded zeros n)⟩
      (Nat.lt_succ_of_le le)
  otherwise undenoted := number_of_undenoted undenoted

namespace Store

/-- **Which numbers are loaded.** Loading always gives settings, and in them the port and the time
limit that the variables denote, or else their defaults. A variable that is set is read as it is
set, whatever the file says. -/
theorem numbers_loaded (s : Store) :
    (∀ name text, s.environment name = some text → s.fullEnvironment name = some text) ∧
      ∃ c, s.load.current = some c ∧
        NumberLoaded s.fullEnvironment "CODE_RUNNER_PORT" 65535 5000 c.port.toNat ∧
        NumberLoaded s.fullEnvironment "CODE_RUNNER_TIMEOUT_SECS" 18446744073709551615 60
          c.timeoutSeconds.toNat := by
  refine ⟨fun _ _ => fullEnvironment_of_set, ofEnvironment s.fullEnvironment, rfl, ?_, ?_⟩
  · have port : (ofEnvironment s.fullEnvironment).port.toNat =
        number s.fullEnvironment "CODE_RUNNER_PORT" UInt16.size 5000 :=
      UInt16.toNat_ofNat_of_lt' (number_lt (by decide))
    rw [port]
    exact numberLoaded_number _ _ _ _
  · have timeout : (ofEnvironment s.fullEnvironment).timeoutSeconds.toNat =
        number s.fullEnvironment "CODE_RUNNER_TIMEOUT_SECS" UInt64.size 60 :=
      UInt64.toNat_ofNat_of_lt' (number_lt (by decide))
    rw [timeout]
    exact numberLoaded_number _ _ _ _

/-- The greatest port after zeros and between blanks, and a time limit that is one too great for
its setting. The file would change both. -/
def overflowing : Store :=
  fresh
    ((Environment.empty.set "CODE_RUNNER_PORT" "\u3000 00065535\t").set "CODE_RUNNER_TIMEOUT_SECS"
      "+18446744073709551616")
    (some "CODE_RUNNER_PORT=81\nCODE_RUNNER_TIMEOUT_SECS=5\n")

theorem overflowing_loaded :
    ∃ c, overflowing.load.current = some c ∧ c.port.toNat = 65535 ∧
      c.timeoutSeconds.toNat = 60 := by
  obtain ⟨asSet, c, loaded, port, timeout⟩ := numbers_loaded overflowing
  refine ⟨c, loaded, ?_, ?_⟩
  · exact port.padded 65535 le_rfl 3 ['\u3000', ' '] ['\t'] (by simp [Text.isBlank])
      (by simp [Text.isBlank]) (asSet _ _ (by decide))
  · apply timeout.otherwise
    intro text n held denotes
    have tooGreat : Denotes "+18446744073709551616" 18446744073709551616 :=
      ⟨[], _, [], List.forall_mem_nil _, List.forall_mem_nil _, rfl,
        .signed (decimal_padded 0 18446744073709551616)⟩
    obtain rfl : text = "+18446744073709551616" :=
      Option.some.inj (held.symm.trans (asSet _ _ (by decide)))
    rw [denotes.unique tooGreat]
    decide

end Store

end Settings

end CodeGrading
