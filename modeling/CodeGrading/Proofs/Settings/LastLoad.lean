import CodeGrading.Settings
import Mathlib.Data.List.Induction

/-!
The settings that are read. Settings are loaded by the first action that needs them and by every
reset after that; `read_from_last_load` says that what is read of a setting is the value last
assigned to it since the last load, or else the one that the environment gave at that load.
-/

namespace CodeGrading.Settings

/-! ## Single settings -/

/-- A setting without its value. -/
inductive Field where
  | env
  | projectName
  | logLevel
  | logFile
  | logToStdout
  | host
  | port
  | timeoutSeconds
  deriving DecidableEq, Repr

/-- The values of a setting. -/
@[reducible] def Field.Value : Field → Type
  | .env | .projectName | .logLevel | .logFile | .host => String
  | .logToStdout => Bool
  | .port => UInt16
  | .timeoutSeconds => UInt64

def get (s : Settings) : (f : Field) → f.Value
  | .env => s.env
  | .projectName => s.projectName
  | .logLevel => s.logLevel
  | .logFile => s.logFile
  | .logToStdout => s.logToStdout
  | .host => s.host
  | .port => s.port
  | .timeoutSeconds => s.timeoutSeconds

/-- The value that an assignment gives to a setting; none if it is an assignment to another one. -/
def Assignment.valueOf? : Assignment → (f : Field) → Option f.Value
  | .env v, .env => some v
  | .projectName v, .projectName => some v
  | .logLevel v, .logLevel => some v
  | .logFile v, .logFile => some v
  | .logToStdout v, .logToStdout => some v
  | .host v, .host => some v
  | .port v, .port => some v
  | .timeoutSeconds v, .timeoutSeconds => some v
  | _, _ => none

theorem get_assign (s : Settings) (a : Assignment) (f : Field) :
    (s.assign a).get f = (a.valueOf? f).getD (s.get f) := by
  cases a <;> cases f <;> rfl

namespace Store

/-! ## Histories -/

/-- The action is done to the settings themselves, so they must have been loaded. -/
def Action.needsSettings : Action → Bool
  | .read | .assign _ => true
  | .reset | .setVariable _ _ | .unsetVariable _ | .writeFile _ => false

/-- The value that an action gives to a setting. -/
def Action.valueOf? (f : Field) : Action → Option f.Value
  | .assign a => a.valueOf? f
  | _ => none

/-- The value that the last assignment to a setting gives to it. -/
def lastValue? (f : Field) (actions : List Action) : Option f.Value :=
  (actions.filterMap (·.valueOf? f)).getLast?

/-- What an action makes of the environment, where there is no file of variables. -/
def Action.change (env : Environment) : Action → Environment
  | .setVariable name value => env.set name value
  | .unsetVariable name => env.unset name
  | _ => env

def environmentAfter (env : Environment) (actions : List Action) : Environment :=
  actions.foldl Action.change env

/-- After some actions, another one loads the settings: the first that needs them, and every reset
once they have been needed. -/
inductive Loads (before : List Action) : Action → Prop where
  | first {a : Action} (needs : a.needsSettings = true)
      (unneeded : ∀ b ∈ before, b.needsSettings = false) : Loads before a
  | reset (needed : ∃ b ∈ before, b.needsSettings = true) : Loads before .reset

/-- A history with its last load, and the actions before and after it. Another reset would load
again. -/
structure LastLoad (history before : List Action) (load : Action) (after : List Action) :
    Prop where
  eq : history = before ++ load :: after
  loads : Loads before load
  last : .reset ∉ after

/-- A history in which the settings are needed has a last load. -/
theorem exists_lastLoad {history : List Action}
    (needed : ∃ a ∈ history, a.needsSettings = true) :
    ∃ before load after, LastLoad history before load after := by
  -- the last action loads, or the last load is the one of the actions before it
  induction history using List.reverseRecOn with
  | nil =>
    obtain ⟨_, mem, _⟩ := needed
    cases mem
  | append_singleton history a ih =>
    by_cases earlier : ∃ b ∈ history, b.needsSettings = true
    · by_cases reset : a = .reset
      · subst reset
        exact ⟨history, .reset, [], rfl, .reset earlier, List.not_mem_nil⟩
      · obtain ⟨before, load, after, rfl, loads, last⟩ := ih earlier
        refine ⟨before, load, after ++ [a], by simp, loads, ?_⟩
        simp [last, Ne.symm reset]
    · have unneeded : ∀ b ∈ history, b.needsSettings = false := by simpa using earlier
      obtain ⟨b, mem, needs⟩ := needed
      rcases List.mem_append.mp mem with mem | mem
      · exact absurd ⟨b, mem, needs⟩ earlier
      · obtain rfl := List.mem_singleton.mp mem
        exact ⟨history, b, [], rfl, .first needs unneeded, List.not_mem_nil⟩

/-! ## Single actions -/

variable {s : Store} {c : Settings} {env : Environment} {file : Option String}

theorem settings_of_current (loaded : s.current = some c) : s.settings = c := by
  simp [settings, loaded]

theorem isSome_current_act (s : Store) (a : Action) :
    (s.act a).current.isSome = (s.current.isSome || a.needsSettings) := by
  cases a <;> cases current : s.current <;>
    simp [act, loaded, load, current, Action.needsSettings]

theorem current_act_read (s : Store) : (s.act .read).current = some s.settings := by
  cases current : s.current <;> simp [act, loaded, load, settings, current]

theorem settings_act_assign (s : Store) (a : Assignment) :
    (s.act (.assign a)).settings = s.settings.assign a := rfl

/-- A reset discards what was assigned. Where nothing was loaded there is nothing to discard. -/
theorem settings_act_reset (s : Store) :
    (s.act .reset).settings = ofEnvironment s.fullEnvironment := by
  cases current : s.current <;> simp [act, load, settings, current]

/-- Once the settings are loaded, an action other than a reset changes what it assigns to. -/
theorem current_act_of_loaded (loaded : s.current = some c) {a : Action} (kept : a ≠ .reset) :
    ∃ c', (s.act a).current = some c' ∧ ∀ f, c'.get f = (a.valueOf? f).getD (c.get f) := by
  cases a with
  | reset => exact absurd rfl kept
  | assign a =>
    refine ⟨c.assign a, ?_, get_assign c a⟩
    simp only [act, settings_of_current loaded]
  | read => exact ⟨c, by rw [current_act_read, settings_of_current loaded], fun _ => rfl⟩
  | setVariable | unsetVariable | writeFile => exact ⟨c, loaded, fun _ => rfl⟩

/-- The action that loads has the settings of the environment, and may assign to one of them. -/
theorem current_act_of_unloaded (unloaded : s.current = none) {a : Action}
    (needs : a.needsSettings = true) :
    ∃ c, (s.act a).current = some c ∧
      ∀ f, c.get f = (a.valueOf? f).getD ((ofEnvironment s.fullEnvironment).get f) := by
  have settings : s.settings = ofEnvironment s.fullEnvironment := by
    simp [Store.settings, unloaded]
  cases a with
  | read => exact ⟨_, by rw [current_act_read, settings], fun _ => rfl⟩
  | assign a => exact ⟨_, by simp only [act, settings], get_assign _ a⟩
  | reset | setVariable | unsetVariable | writeFile => cases needs

theorem current_act_reset (loaded : s.current = some c) :
    (s.act .reset).current = some (ofEnvironment s.fullEnvironment) := by
  simp [act, loaded, load]

/-! ## Runs -/

theorem run_append (s : Store) (xs ys : List Action) : run s (xs ++ ys) = run (run s xs) ys :=
  List.foldl_append

theorem isSome_current_run (s : Store) (actions : List Action) :
    (run s actions).current.isSome = (s.current.isSome || actions.any (·.needsSettings)) := by
  induction actions generalizing s with
  | nil => simp [run]
  | cons a as ih =>
    have step : run s (a :: as) = run (s.act a) as := rfl
    rw [step, ih, isSome_current_act, List.any_cons, Bool.or_assoc]

/-- The settings have been loaded when they have been needed, and not before. -/
theorem loaded_iff_needed {actions : List Action} :
    (∃ c, (run (fresh env file) actions).current = some c) ↔
      ∃ a ∈ actions, a.needsSettings = true := by
  rw [← Option.isSome_iff_exists, isSome_current_run, fresh, Option.isSome_none, Bool.false_or,
    List.any_eq_true]

theorem lastValue?_cons (f : Field) (a : Action) (as : List Action) :
    lastValue? f (a :: as) = (lastValue? f as).or (a.valueOf? f) := by
  cases value : a.valueOf? f with
  | none => simp [lastValue?, value]
  | some v => simp [lastValue?, value, List.getLast?_cons]

/-- As long as nothing is loaded again, a setting keeps what was last assigned to it. -/
theorem current_run_of_loaded {actions : List Action} (loaded : s.current = some c)
    (kept : .reset ∉ actions) :
    ∃ c', (run s actions).current = some c' ∧
      ∀ f, c'.get f = (lastValue? f actions).getD (c.get f) := by
  induction actions generalizing s c with
  | nil => exact ⟨c, loaded, fun _ => rfl⟩
  | cons a as ih =>
    obtain ⟨ne, kept⟩ := List.ne_and_not_mem_of_not_mem_cons kept
    obtain ⟨c₁, loaded₁, first⟩ := current_act_of_loaded loaded ne.symm
    obtain ⟨c₂, loaded₂, later⟩ := ih loaded₁ kept
    refine ⟨c₂, loaded₂, fun f => ?_⟩
    rw [later, first, lastValue?_cons]
    cases lastValue? f as <;> rfl

/-- The settings are loaded from the environment that there is at the load. -/
theorem current_run_of_lastLoad (env : Environment) (file : Option String)
    {history before after : List Action} {load : Action} (h : LastLoad history before load after) :
    ∃ c, (run (fresh env file) history).current = some c ∧
      ∀ f, c.get f = (lastValue? f (load :: after)).getD
        ((ofEnvironment (run (fresh env file) before).fullEnvironment).get f) := by
  obtain ⟨rfl, loads, last⟩ := h
  obtain ⟨c₁, loaded₁, first⟩ :
      ∃ c₁, ((run (fresh env file) before).act load).current = some c₁ ∧
        ∀ f, c₁.get f = (load.valueOf? f).getD
          ((ofEnvironment (run (fresh env file) before).fullEnvironment).get f) := by
    cases loads with
    | first needs unneeded =>
      have unloaded : (run (fresh env file) before).current = none := by
        apply Option.eq_none_iff_forall_ne_some.mpr
        intro c loaded
        obtain ⟨b, mem, needs⟩ := loaded_iff_needed.mp ⟨c, loaded⟩
        exact absurd needs (by simp [unneeded b mem])
      exact current_act_of_unloaded unloaded needs
    | reset needed =>
      obtain ⟨c, loaded⟩ := loaded_iff_needed.mpr needed
      exact ⟨_, current_act_reset loaded, fun _ => rfl⟩
  obtain ⟨c₂, loaded₂, later⟩ := current_run_of_loaded loaded₁ last
  refine ⟨c₂, by rw [run_append]; exact loaded₂, fun f => ?_⟩
  rw [later, first, lastValue?_cons]
  cases lastValue? f after <;> rfl

/-- Without a file, loading leaves the environment as it is. -/
theorem act_of_fileless (fileless : s.file = none) {a : Action}
    (unwritten : ∀ text, a ≠ .writeFile (some text)) :
    (s.act a).file = none ∧ (s.act a).environment = a.change s.environment := by
  have full : s.fullEnvironment = s.environment := by simp [fullEnvironment, fileless]
  cases a with
  | writeFile text =>
    cases text with
    | none => exact ⟨rfl, rfl⟩
    | some text => exact absurd rfl (unwritten text)
  | read | assign | reset =>
    cases current : s.current <;>
      simp [act, loaded, load, current, fileless, full, Action.change]
  | setVariable | unsetVariable => exact ⟨fileless, rfl⟩

theorem fullEnvironment_run {actions : List Action}
    (fileless : ∀ text, .writeFile (some text) ∉ actions) :
    (run (fresh env none) actions).fullEnvironment = environmentAfter env actions := by
  have go (s : Store) (file : s.file = none) :
      (run s actions).file = none ∧
        (run s actions).environment = environmentAfter s.environment actions := by
    induction actions generalizing s with
    | nil => exact ⟨file, rfl⟩
    | cons a as ih =>
      have unwritten (text : String) : a ≠ .writeFile (some text) := fun eq =>
        fileless text (eq ▸ List.mem_cons_self)
      obtain ⟨file, environment⟩ := act_of_fileless file unwritten
      have later := ih (fun text mem => fileless text (List.mem_cons_of_mem _ mem)) _ file
      rw [environment] at later
      exact later
  obtain ⟨file, environment⟩ := go (fresh env none) rfl
  simp only [fullEnvironment, file, environment]
  rfl

/-! ## What is read -/

/-- The settings that are read after some actions, where there was no file of variables at first. -/
def readAfter (env : Environment) (actions : List Action) : Settings :=
  (run (fresh env none) actions).settings

theorem readAfter_concat (env : Environment) (actions : List Action) (a : Action) :
    readAfter env (actions ++ [a]) = ((run (fresh env none) actions).act a).settings := by
  rw [readAfter, run_append]
  rfl

/-- **What is read of the settings.** Every reading has a last load, and of each setting it gives
the value last assigned to it since then, or else the one that the environment gave at the load. So
an assignment changes its own setting only, a reset discards every assignment, and what happens to
the environment is not seen before the next load. -/
theorem read_from_last_load (env : Environment) {actions : List Action}
    (fileless : ∀ text, .writeFile (some text) ∉ actions) :
    (∃ before load after, LastLoad (actions ++ [.read]) before load after) ∧
      (∀ before load after, LastLoad (actions ++ [.read]) before load after → ∀ f,
        (readAfter env actions).get f = (lastValue? f (load :: after)).getD
          ((ofEnvironment (environmentAfter env before)).get f)) ∧
      (∀ a f, a.valueOf? f = none →
        (readAfter env (actions ++ [.assign a])).get f = (readAfter env actions).get f) ∧
      readAfter env (actions ++ [.reset]) = ofEnvironment (environmentAfter env actions) ∧
      ((∃ a ∈ actions, a.needsSettings = true) → ∀ name value,
        readAfter env (actions ++ [.setVariable name value]) = readAfter env actions ∧
          readAfter env (actions ++ [.unsetVariable name]) = readAfter env actions) := by
  refine ⟨exists_lastLoad ⟨.read, by simp, rfl⟩, ?_, ?_, ?_, ?_⟩
  · intro before load after h f
    obtain ⟨c, loaded, values⟩ := current_run_of_lastLoad env none h
    have read : (run (fresh env none) (actions ++ [.read])).current =
        some (readAfter env actions) := by
      rw [run_append]
      exact current_act_read _
    have fileless_before (text : String) : .writeFile (some text) ∉ before := fun mem => by
      have mem : .writeFile (some text) ∈ actions ++ [.read] :=
        h.eq ▸ List.mem_append_left _ mem
      exact fileless text (by simpa using mem)
    obtain rfl := Option.some.inj (read.symm.trans loaded)
    rw [values, fullEnvironment_run fileless_before]
  · intro a f other
    rw [readAfter_concat, settings_act_assign, get_assign, other]
    rfl
  · rw [readAfter_concat, settings_act_reset, fullEnvironment_run fileless]
  · intro needed name value
    obtain ⟨c, loaded⟩ := loaded_iff_needed.mpr needed
    have read : readAfter env actions = c := settings_of_current loaded
    rw [readAfter_concat, readAfter_concat, read]
    exact ⟨settings_of_current loaded, settings_of_current loaded⟩

/-- A run with a reset before anything is loaded, an assignment that loads, and a reset that
discards two assignments. -/
def overridden : List Action :=
  [.reset, .setVariable "CODE_RUNNER_HOST" "first", .assign (.port 81), .assign (.logLevel "debug"),
    .setVariable "CODE_RUNNER_HOST" "second", .read, .reset,
    .setVariable "CODE_RUNNER_HOST" "third", .assign (.port 82), .assign (.port 83)]

theorem overridden_read :
    (∀ text, .writeFile (some text) ∉ overridden) ∧
      LastLoad (overridden ++ [.read]) (overridden.take 6) .reset (overridden.drop 7 ++ [.read]) ∧
      (readAfter .empty overridden).get .host = "second" ∧
      (readAfter .empty overridden).get .port = 83 ∧
      (readAfter .empty overridden).get .logLevel = "grader=info" := by
  have fileless : ∀ text, .writeFile (some text) ∉ overridden := by simp [overridden]
  have lastLoad : LastLoad (overridden ++ [.read]) (overridden.take 6) .reset
      (overridden.drop 7 ++ [.read]) :=
    ⟨rfl, .reset ⟨.read, by decide, rfl⟩, by decide⟩
  have read := (read_from_last_load .empty fileless).2.1 _ _ _ lastLoad
  exact ⟨fileless, lastLoad, (read .host).trans (by decide), (read .port).trans (by decide),
    (read .logLevel).trans (by decide)⟩

end Store

end CodeGrading.Settings
