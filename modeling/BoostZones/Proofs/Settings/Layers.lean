import BoostZones.Proofs.Sequence.Loops
import BoostZones.Settings.File

/-! The layers of settings. The environment is laid over a file or the defaults key by key; each key
decides one thing and leaves the rest, so what is loaded is told by the uppermost layer that speaks
of it, and the first value that means nothing is the one that is reported.
-/

namespace BoostZones.Settings

-------------------------------------------------------------------------------
-- Keys
-------------------------------------------------------------------------------

/-- The keys of the environment. -/
inductive Key where
  | zone
  | objective
  | fallback
deriving DecidableEq

namespace Key

/-- The keys in the order in which their values are read. -/
def all : List Key :=
  [.zone, .objective, .fallback]

def name : Key → String
  | .zone => zoneKey
  | .objective => objectiveKey
  | .fallback => fallbackKey

def change : Key → String → Settings → Except String Settings
  | .zone => overrideZone
  | .objective => overrideObjective
  | .fallback => overrideFallback

/-- The value means nothing under the key, and why. -/
def Refuses : Key → (value reason : String) → Prop
  | .zone, value, reason => ∃ e, Selection.parse value = .error e ∧ e.message = reason
  | .objective, value, reason => ∃ e, Objective.parse value = .error e ∧ e.message = reason
  | .fallback, value, reason => readSwitch? value = none ∧ "esperado true/false" = reason

/-- The environment has no value under the key that means nothing. -/
def ReadableIn (environment : Environment) (key : Key) : Prop :=
  ∀ value ∈ environment key.name, ∀ reason, ¬ key.Refuses value reason

theorem mem_all (key : Key) : key ∈ all := by
  cases key <;> decide

/-- Whether a value is refused does not depend on the settings that it is laid over. -/
theorem change_eq_error_iff {key : Key} {value reason : String} {s : Settings}
    : key.change value s = .error reason ↔ key.Refuses value reason := by
  cases key with
  | zone => simp only [change, overrideZone, Refuses, map_mapError_eq_error_iff]
  | objective => simp only [change, overrideObjective, Refuses, map_mapError_eq_error_iff]
  | fallback =>
      unfold Refuses
      cases read : readSwitch? value <;> simp [change, overrideFallback, read]

end Key

theorem override_eq_ok_iff {environment : Environment} {key : String}
    {change : String → Settings → Except String Settings} {s t : Settings}
    : override environment key change s = .ok t
      ↔ (environment key).elim (s = t) fun value => change value s = .ok t := by
  unfold override
  cases environment key with
  | none => simp
  | some value => exact mapError_eq_ok_iff

theorem override_eq_error_iff (key : Key) {environment : Environment} {s : Settings}
    {e : SettingsError}
    : override environment key.name key.change s = .error e
      ↔ ∃ value ∈ environment key.name,
          ∃ reason, key.Refuses value reason ∧ .invalidValue key.name value reason = e := by
  unfold override
  cases environment key.name with
  | none => simp
  | some value =>
      simp only [mapError_eq_error_iff, Key.change_eq_error_iff, Option.mem_some_iff,
        exists_eq_left']

theorem exists_override_iff (key : Key) {environment : Environment} {s : Settings}
    : (∃ t, override environment key.name key.change s = .ok t) ↔ key.ReadableIn environment := by
  cases laid : override environment key.name key.change s with
  | ok t =>
      refine iff_of_true ⟨t, rfl⟩ ?_
      intro value held reason refused
      have failed
          : override environment key.name key.change s
            = .error (.invalidValue key.name value reason) :=
        (override_eq_error_iff key).2 ⟨value, held, reason, refused, rfl⟩
      cases laid.symm.trans failed
  | error e =>
      refine iff_of_false nofun ?_
      intro readable
      obtain ⟨value, held, reason, refused, -⟩ := (override_eq_error_iff key).1 laid
      exact readable value held reason refused

/-- The keys are laid over the settings one after the other. -/
theorem overlay_eq_foldlM (environment : Environment) (s : Settings)
    : s.overlay environment
      = Key.all.foldlM (fun s key => override environment key.name key.change s) s := by
  unfold overlay Key.all
  simp only [List.foldlM_cons, List.foldlM_nil, bind_pure]
  rfl

theorem exists_overlay_iff {environment : Environment} {s : Settings}
    : (∃ t, s.overlay environment = .ok t) ↔ ∀ key : Key, key.ReadableIn environment := by
  rw [overlay_eq_foldlM]
  constructor
  · intro ended key
    obtain ⟨t, ended⟩ := ended
    obtain ⟨u, v, laid⟩ := exists_step_of_foldlM_eq_ok ended key.mem_all
    exact (exists_override_iff key).1 ⟨v, laid⟩
  · intro readable
    exact exists_foldlM_eq_ok (fun s key _ => (exists_override_iff key).2 (readable key)) s

/-- The first key whose value means nothing is the one that is reported. -/
theorem overlay_eq_error_of_first {environment : Environment} {before after : List Key} {key : Key}
    {value reason : String} (order : Key.all = before ++ key :: after)
    (readable : ∀ earlier ∈ before, earlier.ReadableIn environment)
    (held : environment key.name = some value) (refused : key.Refuses value reason) (s : Settings)
    : s.overlay environment = .error (.invalidValue key.name value reason) := by
  rw [overlay_eq_foldlM, order]
  apply foldlM_eq_error_of_first
  · intro s earlier member
    exact (exists_override_iff earlier).2 (readable earlier member)
  · intro s
    exact (override_eq_error_iff key).2 ⟨value, held, reason, refused, rfl⟩

-------------------------------------------------------------------------------
-- What is learned
-------------------------------------------------------------------------------

/-- An objective that is read can be used: the class count in its name is checked at once. -/
theorem validate_of_parse {text : String} {o : Objective} (parsed : Objective.parse text = .ok o)
    : o.validate = .ok () := by
  unfold Objective.parse Objective.parseName at parsed
  split at parsed
  · split at parsed
    · obtain ⟨_, valid, ended⟩ := bind_eq_ok_iff.1 parsed
      cases ended
      exact valid
    · cases parsed
  · split at parsed
    · cases parsed
      rfl
    split at parsed
    · cases parsed
      rfl
    split at parsed
    · cases parsed
      rfl
    · cases parsed

/-- Settings that an objective is written to name that objective again. -/
theorem learned_withObjective {o : Objective} (valid : o.validate = .ok ()) (s : Settings)
    : (s.withObjective o).learned = .ok o := by
  unfold learned
  cases o with
  | rmse =>
      have parsed : Objective.parse "rmse" = .ok .rmse := rfl
      exact bind_eq_ok_iff.2 ⟨.rmse, parsed, rfl⟩
  | poissonDeviance =>
      have parsed : Objective.parse "poisson_deviance" = .ok .poissonDeviance := rfl
      exact bind_eq_ok_iff.2 ⟨.poissonDeviance, parsed, rfl⟩
  | logLoss classes =>
      have named : (s.withObjective (.logLoss classes)).objective.name = "log_loss" := rfl
      have parsed : Objective.parse "log_loss" = .ok .binary := rfl
      -- The name has no brackets, so the class count is that of the settings.
      have plain : "log_loss".toList.contains '[' = false := by decide
      rw [named]
      refine bind_eq_ok_iff.2 ⟨.binary, parsed, ?_⟩
      simp only [Objective.binary, plain, Bool.false_eq_true, if_false]
      exact bind_eq_ok_iff.2 ⟨(), valid, rfl⟩

/-- What is learned is told by the objective's part of the settings. -/
theorem learned_of_objective {s t : Settings} (same : s.objective = t.objective)
    : s.learned = t.learned := by
  unfold learned
  rw [same]

-------------------------------------------------------------------------------
-- What the environment decides
-------------------------------------------------------------------------------

/-- Settings after an environment is laid over a base: each part is told by the value of its key, or
stays without one.
-/
structure Layered (base : Settings) (environment : Environment) (s : Settings) : Prop where
  selection
    : (environment zoneKey).elim (.ok base.zone.selection) Selection.parse = .ok s.zone.selection
  learned : s.learned = (environment objectiveKey).elim base.learned Objective.parse
  objective : environment objectiveKey = none → s.objective = base.objective
  fallback
    : (environment fallbackKey).elim (some base.zone.fallback) readSwitch? = some s.zone.fallback

section Overlay
variable {environment : Environment} {s t : Settings}

theorem zone_of_override (laid : override environment zoneKey overrideZone s = .ok t)
    : (environment zoneKey).elim (.ok s.zone.selection) Selection.parse = .ok t.zone.selection
      ∧ t.zone.fallback = s.zone.fallback
      ∧ t.objective = s.objective := by
  rw [override_eq_ok_iff] at laid
  cases held : environment zoneKey with
  | none =>
      rw [held, Option.elim_none] at laid
      subst laid
      exact ⟨rfl, rfl, rfl⟩
  | some value =>
      rw [held, Option.elim_some, overrideZone] at laid
      obtain ⟨selection, parsed, rfl⟩ := map_mapError_eq_ok_iff.1 laid
      refine ⟨?_, rfl, rfl⟩
      rw [Option.elim_some, parsed]
      rfl

theorem objective_of_override
    (laid : override environment objectiveKey overrideObjective s = .ok t)
    : t.learned = (environment objectiveKey).elim s.learned Objective.parse
      ∧ (environment objectiveKey = none → t.objective = s.objective)
      ∧ t.zone = s.zone := by
  rw [override_eq_ok_iff] at laid
  cases held : environment objectiveKey with
  | none =>
      rw [held, Option.elim_none] at laid
      subst laid
      exact ⟨rfl, fun _ => rfl, rfl⟩
  | some value =>
      rw [held, Option.elim_some, overrideObjective] at laid
      obtain ⟨o, parsed, rfl⟩ := map_mapError_eq_ok_iff.1 laid
      refine ⟨?_, nofun, rfl⟩
      rw [Option.elim_some, parsed, learned_withObjective (validate_of_parse parsed)]

theorem fallback_of_override (laid : override environment fallbackKey overrideFallback s = .ok t)
    : (environment fallbackKey).elim (some s.zone.fallback) readSwitch? = some t.zone.fallback
      ∧ t.zone.selection = s.zone.selection
      ∧ t.objective = s.objective := by
  rw [override_eq_ok_iff] at laid
  cases held : environment fallbackKey with
  | none =>
      rw [held, Option.elim_none] at laid
      subst laid
      exact ⟨rfl, rfl, rfl⟩
  | some value =>
      rw [held, Option.elim_some, overrideFallback] at laid
      cases read : readSwitch? value with
      | none =>
          rw [read] at laid
          cases laid
      | some fallback =>
          rw [read] at laid
          cases laid
          refine ⟨?_, rfl, rfl⟩
          rw [Option.elim_some, read]
          rfl

theorem layered_of_overlay (laid : s.overlay environment = .ok t) : Layered s environment t := by
  obtain ⟨zoned, zoning, laid⟩ := bind_eq_ok_iff.1 laid
  obtain ⟨named, naming, switching⟩ := bind_eq_ok_iff.1 laid
  obtain ⟨selection, fallback, untouched⟩ := zone_of_override zoning
  obtain ⟨learned, objective, zone⟩ := objective_of_override naming
  obtain ⟨switched, selected, kept⟩ := fallback_of_override switching
  constructor
  case selection => rw [selected, zone, selection]
  case learned => rw [learned_of_objective kept, learned, learned_of_objective untouched]
  case objective =>
    intro absent
    rw [kept, objective absent, untouched]
  case fallback => rw [← fallback, ← zone, switched]

/-- Where the environment names an objective, what a base says of the objective is of no account. -/
theorem overlay_eq_of_zone {value : String} (named : environment objectiveKey = some value)
    (same : s.zone = t.zone)
    : s.overlay environment = t.overlay environment := by
  have naming {u v : Settings} (alike : u.zone = v.zone)
      : override environment objectiveKey overrideObjective u
        = override environment objectiveKey overrideObjective v := by
    unfold override overrideObjective withObjective
    simp only [named, alike]
  unfold overlay
  cases laid : override environment zoneKey overrideZone s with
  | error e =>
      have other : override environment zoneKey overrideZone t = .error e :=
        (override_eq_error_iff .zone).2 ((override_eq_error_iff .zone).1 laid)
      rw [other]
  | ok u =>
      obtain ⟨v, other⟩ : ∃ v, override environment zoneKey overrideZone t = .ok v :=
        (exists_override_iff .zone).2 ((exists_override_iff .zone).1 ⟨u, laid⟩)
      obtain ⟨selection, fallback, -⟩ := zone_of_override laid
      obtain ⟨selection', fallback', -⟩ := zone_of_override other
      rw [same, selection', Except.ok.injEq] at selection
      rw [same, ← fallback'] at fallback
      have alike : u.zone = v.zone :=
        calc u.zone
          _ = ⟨u.zone.selection, u.zone.fallback⟩ := rfl
          _ = ⟨v.zone.selection, v.zone.fallback⟩ := by rw [selection, fallback]
          _ = v.zone := rfl
      rw [other]
      exact congrArg (· >>= override environment fallbackKey overrideFallback) (naming alike)

end Overlay

-------------------------------------------------------------------------------
-- Loading
-------------------------------------------------------------------------------

/-- What the environment is laid over: the settings of the file, or the defaults without one. -/
def startFrom (file : Option File) : Except SettingsError Settings :=
  file.elim (.ok default) ofFile

theorem check_eq_ok_iff {s : Settings} : s.check = .ok () ↔ ∃ o, s.learned = .ok o := by
  unfold check
  cases s.learned <;> simp

theorem load_eq (file : Option File) (environment : Environment)
    : load file environment
      = (do
          let base ← startFrom file
          let s ← base.overlay environment
          s.check
          return s) := by
  cases file <;> rfl

section Load
variable {file : Option File} {environment : Environment}

theorem load_eq_ok_iff {s : Settings}
    : load file environment = .ok s
      ↔ ∃ base,
          startFrom file = .ok base
          ∧ base.overlay environment = .ok s
          ∧ ∃ o, s.learned = .ok o := by
  rw [load_eq]
  simp only [bind_eq_ok_iff, ← check_eq_ok_iff]
  constructor
  · intro loaded
    rcases loaded with ⟨base, started, t, laid, _, checked, ⟨⟩⟩
    exact ⟨base, started, laid, checked⟩
  · intro loaded
    obtain ⟨base, started, laid, checked⟩ := loaded
    exact ⟨base, started, s, laid, (), checked, rfl⟩

theorem load_of_startFrom {base : Settings} (started : startFrom file = .ok base)
    : load file environment
      = (do
          let s ← base.overlay environment
          s.check
          return s) := by
  rw [load_eq, started]
  rfl

/-- Settings are loaded when the file is read, every value of the environment means something, and
the uppermost layer that speaks of an objective names one that can be used.
-/
theorem exists_load_iff
    : (∃ s, load file environment = .ok s)
      ↔ ∃ base,
          startFrom file = .ok base
          ∧ (∀ key : Key, key.ReadableIn environment)
          ∧ ∃ o, (environment objectiveKey).elim base.learned Objective.parse = .ok o := by
  constructor
  · intro loaded
    obtain ⟨s, loaded⟩ := loaded
    obtain ⟨base, started, laid, o, learned⟩ := load_eq_ok_iff.1 loaded
    refine ⟨base, started, exists_overlay_iff.1 ⟨s, laid⟩, o, ?_⟩
    rw [← (layered_of_overlay laid).learned, learned]
  · intro layers
    obtain ⟨base, started, readable, o, named⟩ := layers
    obtain ⟨s, laid⟩ := exists_overlay_iff.2 readable
    refine ⟨s, load_eq_ok_iff.2 ⟨base, started, laid, o, ?_⟩⟩
    rw [(layered_of_overlay laid).learned, named]

/-- An objective that cannot be used is reported when nothing else is wrong. -/
theorem load_of_learned_error {base : Settings} {e : ObjectiveError}
    (started : startFrom file = .ok base) (readable : ∀ key : Key, key.ReadableIn environment)
    (absent : environment objectiveKey = none) (unusable : base.learned = .error e)
    : load file environment = .error (.invalidValue nameKey base.objective.name e.message) := by
  obtain ⟨s, laid⟩ := exists_overlay_iff.2 readable
  have layers := layered_of_overlay laid
  have learned : s.learned = .error e := by
    rw [layers.learned, absent, Option.elim_none, unusable]
  have checked : s.check = .error (.invalidValue nameKey s.objective.name e.message) := by
    unfold check
    rw [learned]
  rw [load_of_startFrom started, ← layers.objective absent]
  refine bind_eq_error_iff.2 (Or.inr ⟨s, laid, ?_⟩)
  exact bind_eq_error_iff.2 (Or.inl checked)

end Load

/-- Settings are loaded exactly when their file is read, every value of the environment means
something, and the uppermost layer that speaks of an objective names one that can be used; and each
part of what is loaded is that of the uppermost layer that speaks of it. A file's objective is of no
account where the environment names one. What is wrong with the file is reported first, then the
first value that means nothing, then the objective.
-/
theorem load_layers (file : Option File) (environment : Environment)
    : ((∃ s, load file environment = .ok s)
        ↔ ∃ base,
            startFrom file = .ok base
            ∧ (∀ key : Key, key.ReadableIn environment)
            ∧ ∃ o, (environment objectiveKey).elim base.learned Objective.parse = .ok o)
      ∧ (∀ s,
          load file environment = .ok s
          → ∃ base, startFrom file = .ok base ∧ Layered base environment s)
      ∧ (∀ other base base',
          startFrom file = .ok base
          → startFrom other = .ok base'
          → base.zone = base'.zone
          → (environment objectiveKey).isSome = true
          → load file environment = load other environment)
      ∧ (∀ e, startFrom file = .error e → load file environment = .error e)
      ∧ (∀ base before key after value reason,
          startFrom file = .ok base
          → [Key.zone, .objective, .fallback] = before ++ key :: after
          → (∀ earlier ∈ before, earlier.ReadableIn environment)
          → environment key.name = some value
          → key.Refuses value reason
          → load file environment = .error (.invalidValue key.name value reason))
      ∧ (∀ base e,
          startFrom file = .ok base
          → (∀ key : Key, key.ReadableIn environment)
          → environment objectiveKey = none
          → base.learned = .error e
          → load file environment
            = .error (.invalidValue nameKey base.objective.name e.message)) := by
  refine ⟨exists_load_iff, ?_, ?_, ?_, ?_, fun _ _ => load_of_learned_error⟩
  · intro s loaded
    obtain ⟨base, started, laid, -⟩ := load_eq_ok_iff.1 loaded
    exact ⟨base, started, layered_of_overlay laid⟩
  · intro other base base' started started' same named
    obtain ⟨value, named⟩ := Option.isSome_iff_exists.1 named
    rw [load_of_startFrom started, load_of_startFrom started', overlay_eq_of_zone named same]
  · intro e failed
    rw [load_eq, failed]
    rfl
  · intro base before key after value reason started order readable held refused
    rw [load_of_startFrom started, overlay_eq_error_of_first order readable held refused]
    rfl

/-- A file that names an objective which nobody knows. -/
def unknownObjective : File where
  path := "unknown.toml"
  content := some "[zone]\nselection = \"simd\"\n\n[objective]\nname = \"tweedie\"\n"

/-- A file that names an objective which cannot be used. -/
def oneClass : File where
  path := "one.toml"
  content := some
    "[zone]\nselection = \"simd\"\n\n[objective]\nname = \"log_loss\"\nclasses = 1\n"

/-- An environment with values for the objective and the fallback. -/
def naming (objective fallback : String) : Environment := fun key =>
  if key = objectiveKey then some objective
  else if key = fallbackKey then some fallback
  else none

theorem layers_over_unusable_objectives
    : load (some unknownObjective) (naming "log_loss[3]" "off")
        = load (some oneClass) (naming "log_loss[3]" "off")
      ∧ (∃ s,
          load (some oneClass) (naming "log_loss[3]" "off") = .ok s
          ∧ s.zone = ⟨.fixed .simd, false⟩
          ∧ s.learned = .ok (.logLoss 3))
      ∧ load (some oneClass) (naming "tweedie" "maybe")
        = .error
            (.invalidValue objectiveKey "tweedie" "Objetivo desconhecido: tweedie") := by
  have unknown
      : startFrom (some unknownObjective) = .ok ⟨⟨.fixed .simd, true⟩, ⟨"tweedie", 2⟩⟩ :=
    toOption_eq_some_iff.1 (by decide +kernel)
  have unusable : startFrom (some oneClass) = .ok ⟨⟨.fixed .simd, true⟩, ⟨"log_loss", 1⟩⟩ :=
    toOption_eq_some_iff.1 (by decide +kernel)
  have loaded
      : load (some oneClass) (naming "log_loss[3]" "off")
        = .ok ⟨⟨.fixed .simd, false⟩, ⟨"log_loss", 3⟩⟩ :=
    toOption_eq_some_iff.1 (by decide +kernel)
  refine ⟨?_, ⟨_, loaded, rfl, ?_⟩, ?_⟩
  · exact (load_layers (some unknownObjective) _).2.2.1 _ _ _ unknown unusable rfl rfl
  · obtain ⟨base, -, layered⟩ := (load_layers (some oneClass) _).2.1 _ loaded
    have named : naming "log_loss[3]" "off" objectiveKey = some "log_loss[3]" := rfl
    have parsed : Objective.parse "log_loss[3]" = .ok (.logLoss 3) :=
      toOption_eq_some_iff.1 (by decide +kernel)
    rw [layered.learned, named, Option.elim_some, parsed]
  · have refused : Key.objective.Refuses "tweedie" "Objetivo desconhecido: tweedie" :=
      ⟨.unknownObjective "tweedie", rfl, rfl⟩
    have errors := (load_layers (some oneClass) (naming "tweedie" "maybe")).2.2.2.2.1
    apply errors _ [.zone] .objective [.fallback] _ _ unusable rfl
    · intro earlier member
      rw [List.mem_singleton.1 member]
      intro value held
      cases held
    · rfl
    · exact refused

end BoostZones.Settings
