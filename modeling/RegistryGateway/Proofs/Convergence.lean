import RegistryGateway.Logging
import Mathlib.Data.List.Basic

/-! Logging that is set up again and again.  A set-up whose text names a level puts the root at that
level, leaves it the handler of the service alone, and quiets the loggers that add noise, whatever
was there before; one whose text names no level fails and changes nothing.  So after any set-ups
logging is as the last one that succeeded left it, and no record is written twice or lost for
lack of a handler. -/

namespace RegistryGateway

/-- The names of a level: its own, and of two levels another one. -/
inductive Level.HasName : Level → String → Prop
  | own (level : Level) : HasName level level.name
  | warn : HasName .warning "WARN"
  | fatal : HasName .critical "FATAL"

theorem Level.ofName?_eq_some_iff (name : String) (level : Level) :
    ofName? name = some level ↔ level.HasName name := by
  constructor
  · intro h
    unfold ofName? at h
    split at h <;> cases h
    · exact .own .critical
    · exact .fatal
    · exact .own .error
    · exact .warn
    · exact .own .warning
    · exact .own .info
    · exact .own .debug
    · exact .own .notSet
  · rintro (_ | _ | _)
    · cases level <;> rfl
    · rfl
    · rfl

theorem Assoc.get?_foldl_put {α : Type} (names : List String) (value : α) (m : Assoc α)
    (key : String) :
    get? (names.foldl (fun m name => m.put name value) m) key =
      if key ∈ names then some value else m.get? key := by
  induction names generalizing m with
  | nil => simp
  | cons name rest ih =>
    rw [List.foldl_cons, ih, get?_put]
    by_cases hrest : key ∈ rest
    · simp [hrest]
    · by_cases hname : name = key
      · simp [hname]
      · simp [hrest, hname, Ne.symm hname]

namespace Logging

variable {settings : Settings} {level : Option String} {named : Level} {l l' : Logging}

/-- The name of a level that a set-up asks for, in capitals. -/
inductive Asks (settings : Settings) : Option String → String → Prop
  | argument {text : String} : text ≠ "" → Asks settings (some text) (upper text)
  | empty : Asks settings (some "") (upper settings.logLevel)
  | missing : Asks settings none (upper settings.logLevel)

/-- The level that a set-up names. -/
def Names (settings : Settings) (level : Option String) (named : Level) : Prop :=
  ∃ name, Asks settings level name ∧ named.HasName name

theorem asks_iff (settings : Settings) (level : Option String) (name : String) :
    Asks settings level name ↔ name = levelText settings level := by
  constructor
  · rintro (hne | _ | _)
    · rw [levelText, if_neg hne]
    · rfl
    · rfl
  · rintro rfl
    cases level with
    | none => exact .missing
    | some text =>
      by_cases hempty : text = ""
      · subst hempty
        exact .empty
      · rw [levelText, if_neg hempty]
        exact .argument hempty

theorem names_iff (settings : Settings) (level : Option String) (named : Level) :
    Names settings level named ↔ Level.ofName? (levelText settings level) = some named := by
  simp only [Names, asks_iff, exists_eq_left, Level.ofName?_eq_some_iff]

/-! ### One set-up -/

theorem apply_bind_of_ok {first : Change} {next : Unit → Change}
    (h : first.apply l = (.ok (), l')) : Change.apply (first >>= next) l = (next ()).apply l' := by
  have hrun : first.run.run l = (.ok (), l') := h
  rw [Change.apply, ExceptT.run_bind, StateT.run_bind, hrun]
  rfl

theorem apply_removeHandlers (found : List Handler) (l : Logging) :
    Change.apply (found.forM removeHandler) l =
      (.ok (), { l with handlers := found.foldl List.erase l.handlers }) := by
  induction found generalizing l with
  | nil => rfl
  | cons handler rest ih => exact (apply_bind_of_ok rfl).trans (ih _)

/-- What was found is removed, a handler that was found more than once included. -/
theorem foldl_erase_self (found : List Handler) : found.foldl List.erase found = [] := by
  induction found with
  | nil => rfl
  | cons handler rest ih => rw [List.foldl_cons, List.erase_cons_head, ih]

/-- Logging as a set-up at a level leaves it. -/
def quieted (named : Level) (l : Logging) : Logging where
  rootLevel := named.threshold
  handlers := [.standardOutput]
  levels := quietLoggers.foldl (fun m name => m.put name Level.warning.threshold) l.levels

theorem apply_setUp_of_names (h : Names settings level named) (l : Logging) :
    (setUp settings level).apply l = (.ok (), l.quieted named) := by
  rw [names_iff] at h
  have hlevel : (setRootLevel (levelText settings level)).apply l =
      (.ok (), { l with rootLevel := named.threshold }) := by
    rw [setRootLevel, h]
    rfl
  rw [setUp, apply_bind_of_ok hlevel]
  refine (apply_bind_of_ok (apply_removeHandlers l.handlers _)).trans ?_
  rw [foldl_erase_self]
  rfl

/-- The level is looked at before anything is changed. -/
theorem apply_setUp_of_not_names (h : ∀ named, ¬Names settings level named) (l : Logging) :
    (setUp settings level).apply l = (.error ⟨levelText settings level⟩, l) := by
  simp only [names_iff] at h
  rw [setUp, setRootLevel, Option.eq_none_iff_forall_ne_some.mpr h]
  rfl

theorem levelOf_quieted (named : Level) (l : Logging) (name : String) :
    (l.quieted named).levelOf name =
      if name ∈ quietLoggers then Level.warning.threshold else l.levelOf name := by
  rw [levelOf, quieted, Assoc.get?_foldl_put]
  split <;> rfl

/-- Logging is set up for the service at a level. -/
structure SetUpAt (named : Level) (l : Logging) : Prop where
  level : l.rootLevel = named.threshold
  handlers : l.handlers = [.standardOutput]
  quiet : ∀ name ∈ quietLoggers, l.levelOf name = Level.warning.threshold
  /-- A record that is passed on is written once. -/
  once : ∀ now r, l.write now r = if l.passes r then line now r else ""

theorem setUpAt_quieted (named : Level) (l : Logging) : SetUpAt named (l.quieted named) where
  level := rfl
  handlers := rfl
  quiet name hname := by rw [levelOf_quieted, if_pos hname]
  once now r := by
    have hone : (l.quieted named).handlers.count .standardOutput = 1 := rfl
    have hjoin : String.join [line now r] = line now r := by simp [String.join]
    rw [write, hone, List.replicate_one, hjoin]

/-- What a set-up may do to logging. -/
structure Settles (settings : Settings) (level : Option String) (before : Logging)
    (outcome : Except UnknownLevel Unit) (after : Logging) : Prop where
  succeeds : ∀ named, Names settings level named → outcome = .ok () ∧ SetUpAt named after
  fails : (∀ named, ¬Names settings level named) →
    (∃ name, Asks settings level name ∧ outcome = .error ⟨name⟩) ∧ after = before
  others : ∀ name ∉ quietLoggers, after.levelOf name = before.levelOf name

theorem setUp_settles (settings : Settings) (level : Option String) (l : Logging) :
    Settles settings level l ((setUp settings level).apply l).1
      ((setUp settings level).apply l).2 := by
  by_cases h : ∃ named, Names settings level named
  · obtain ⟨named, hnamed⟩ := h
    rw [apply_setUp_of_names hnamed]
    refine ⟨fun other hother => ?_, fun hnone => absurd hnamed (hnone named), fun name hname => ?_⟩
    · rw [names_iff] at hnamed hother
      obtain rfl := Option.some.inj (hother.symm.trans hnamed)
      exact ⟨rfl, setUpAt_quieted _ l⟩
    · rw [levelOf_quieted, if_neg hname]
  · rw [not_exists] at h
    rw [apply_setUp_of_not_names h]
    exact ⟨fun named hnamed => absurd hnamed (h named),
      fun _ => ⟨⟨_, (asks_iff _ _ _).mpr rfl, rfl⟩, rfl⟩, fun _ _ => rfl⟩

/-! ### A run of set-ups -/

/-- Logging after some set-ups in turn, of which any may fail. -/
def afterAll (settings : Settings) (levels : List (Option String)) (l : Logging) : Logging :=
  levels.foldl (fun l level => ((setUp settings level).apply l).2) l

theorem afterAll_cons (settings : Settings) (level : Option String) (rest : List (Option String))
    (l : Logging) :
    afterAll settings (level :: rest) l =
      afterAll settings rest ((setUp settings level).apply l).2 := rfl

theorem afterAll_append (settings : Settings) (first second : List (Option String)) (l : Logging) :
    afterAll settings (first ++ second) l = afterAll settings second (afterAll settings first l) :=
  List.foldl_append

theorem afterAll_of_not_names {levels : List (Option String)}
    (h : ∀ level ∈ levels, ∀ named, ¬Names settings level named) (l : Logging) :
    afterAll settings levels l = l := by
  induction levels with
  | nil => rfl
  | cons level rest ih =>
    rw [List.forall_mem_cons] at h
    rw [afterAll_cons, apply_setUp_of_not_names h.1]
    exact ih h.2

/-- What some set-ups in turn make of logging. -/
structure Converges (settings : Settings) (initial : Logging) (levels : List (Option String)) :
    Prop where
  /-- Each does what it does on its own, wherever it stands in the run. -/
  each : ∀ earlier level later, levels = earlier ++ level :: later →
    Settles settings level (afterAll settings earlier initial)
      ((setUp settings level).apply (afterAll settings earlier initial)).1
      (afterAll settings (earlier ++ [level]) initial)
  /-- The last one that succeeds decides. -/
  last : ∀ earlier level later named, levels = earlier ++ level :: later →
    Names settings level named → (∀ level ∈ later, ∀ named, ¬Names settings level named) →
    SetUpAt named (afterAll settings levels initial)
  untouched : (∀ level ∈ levels, ∀ named, ¬Names settings level named) →
    afterAll settings levels initial = initial

/-- From any state on, set-ups leave logging as the last that succeeded demands. -/
theorem setUp_converges (settings : Settings) (initial : Logging) (levels : List (Option String)) :
    Converges settings initial levels where
  each earlier level later _ := by
    rw [afterAll_append]
    exact setUp_settles settings level _
  last earlier level later named hlevels hnamed hlater := by
    rw [hlevels, afterAll_append, afterAll_cons, apply_setUp_of_names hnamed,
      afterAll_of_not_names hlater]
    exact setUpAt_quieted named _
  untouched hfail := afterAll_of_not_names hfail initial

/-- A handler that is installed twice goes both times, and a level that no one knows changes
nothing. -/
example : afterAll .default [some "warn", some "loud"]
    ⟨⟨5⟩, [.foreign "host", .standardOutput, .foreign "host"], [("httpx", ⟨7⟩)]⟩ =
    ⟨⟨30⟩, [.standardOutput], [("httpx", ⟨30⟩), ("uvicorn.access", ⟨30⟩), ("httpcore", ⟨30⟩)]⟩ :=
  rfl

end Logging

end RegistryGateway
