import BoostZones.Proofs.Registry.Refusals
import BoostZones.Proofs.Session.Choice
import BoostZones.Proofs.Session.Runs
import BoostZones.Settings.File

/-! When an error can arise. No call of a session ends with an error of configuration. What goes
wrong before there is a session is an error of configuration, with one exception: the class count of
an objective is checked again when a session is opened, and there it is not told as one.
-/

namespace BoostZones

-------------------------------------------------------------------------------
-- Zones and their symbols
-------------------------------------------------------------------------------

namespace Registry

theorem Refuses.isConfiguration {r : Registry} {e : Exports} {reason : ZoneError}
    (refuses : r.Refuses e reason)
    : reason.isConfiguration = true := by
  cases refuses with
  | symbol _ _ offends => cases offends <;> rfl
  | zone => rfl
  | repeated => rfl

/-- A row of registrations fails with the refusal of one of them, by induction on the exports. -/
theorem isConfiguration_of_foldlM {exports : List Exports} {r : Registry} {reason : ZoneError}
    (failed : exports.foldlM register r = .error reason)
    : reason.isConfiguration = true := by
  induction exports generalizing r with
  | nil => cases failed
  | cons e rest ih =>
      rcases bind_eq_error_iff.1 failed with refused | ⟨added, -, later⟩
      · exact (register_eq_error_iff.1 refused).isConfiguration
      · exact ih later

theorem Unchosen.isConfiguration {r : Registry} {s : ZoneSettings} {reason : RunError}
    (unchosen : r.Unchosen s reason)
    : reason.isConfiguration = true := by
  cases unchosen <;> rfl

theorem isConfiguration_of_select {r : Registry} {s : ZoneSettings} {reason : RunError}
    (failed : r.select s = .error reason)
    : reason.isConfiguration = true :=
  (select_eq_error_iff.1 failed).isConfiguration

theorem isConfiguration_of_resolveUpdate {r : Registry} {zone : Zone} {reason : ZoneError}
    (failed : r.resolveUpdate zone = .error reason)
    : reason.isConfiguration = true := by
  unfold resolveUpdate at failed
  dsimp only at failed
  split at failed <;> cases failed
  rfl

/-- An absent capability is no error of configuration, but only other zones than the baseline have
it to report.
-/
theorem isConfiguration_of_resolveFinish {r : Registry} {zone : Zone} {reason : ZoneError}
    (finishes : zone.supports .finishMetric = true)
    (failed : r.resolveFinish zone = .error reason)
    : reason.isConfiguration = true := by
  unfold resolveFinish at failed
  rw [if_pos finishes] at failed
  dsimp only at failed
  split at failed <;> cases failed
  rfl

end Registry

theorem isConfiguration_of_bind {r : Registry} {zone : Zone} {d : Descriptor} {reason : ZoneError}
    (scores : d.scoreCount ≠ 0) (failed : bind r zone d = .error reason)
    : reason.isConfiguration = true := by
  unfold bind at failed
  rw [if_neg scores] at failed
  rcases bind_eq_error_iff.1 failed with missing | ⟨update, -, later⟩
  · exact Registry.isConfiguration_of_resolveUpdate missing
  dsimp only at later
  split at later
  · next finishes =>
    rcases bind_eq_error_iff.1 later with missing | ⟨finish, -, done⟩
    · exact Registry.isConfiguration_of_resolveFinish finishes (map_eq_error_iff.1 missing)
    · cases done
  · cases later

-------------------------------------------------------------------------------
-- Objectives
-------------------------------------------------------------------------------

/-- The error of an objective with so few classes. -/
def ObjectiveError.tooFew (classes : UInt64) : ObjectiveError :=
  .invalidParameter ("log_loss exige ao menos 2 classes, recebeu " ++ Text.writeCount classes)

namespace Objective

theorem validate_eq_error_iff {o : Objective} {reason : ObjectiveError}
    : o.validate = .error reason
      ↔ ∃ classes < 2, o = .logLoss classes ∧ reason = .tooFew classes := by
  cases o with
  | rmse => simp [validate]
  | poissonDeviance => simp [validate]
  | logLoss classes =>
      by_cases few : classes < 2
      · simp [validate, few, ObjectiveError.tooFew, eq_comm]
      · simp [validate, few]

theorem not_few_of_validate {o : Objective} (valid : o.validate = .ok ())
    : ¬∃ classes < 2, o = .logLoss classes := by
  intro unusable
  obtain ⟨classes, few, named⟩ := unusable
  have several := (validate_eq_ok_iff o).1 valid classes named
  exact UInt64.not_le.2 few several

theorem descriptor_eq_error_iff {o : Objective} {reason : ObjectiveError}
    : o.descriptor = .error reason ↔ o.validate = .error reason := by
  unfold descriptor
  rw [bind_eq_error_iff]
  constructor
  · intro failed
    rcases failed with invalid | ⟨_, -, done⟩
    · exact invalid
    · cases done
  · exact Or.inl

end Objective

namespace Settings

theorem validate_of_learned {s : Settings} {o : Objective} (learned : s.learned = .ok o)
    : o.validate = .ok () := by
  unfold Settings.learned at learned
  obtain ⟨read, -, later⟩ := bind_eq_ok_iff.1 learned
  dsimp only at later
  obtain ⟨_, valid, done⟩ := bind_eq_ok_iff.1 later
  cases done
  exact valid

/-- What is learned is not known, or it is a classification into too few classes. -/
theorem learned_error_cases {s : Settings} {reason : ObjectiveError}
    (failed : s.learned = .error reason)
    : (∃ text, reason = .unknownObjective text) ∨ ∃ classes < 2, reason = .tooFew classes := by
  have invalid {o : Objective} (wrong : o.validate = .error reason)
      : ∃ classes < 2, reason = .tooFew classes := by
    obtain ⟨classes, few, -, told⟩ := Objective.validate_eq_error_iff.1 wrong
    exact ⟨classes, few, told⟩
  unfold learned at failed
  rcases bind_eq_error_iff.1 failed with unread | ⟨o, -, unusable⟩
  · unfold Objective.parse Objective.parseName at unread
    split at unread
    · split at unread
      · rcases bind_eq_error_iff.1 unread with wrong | ⟨_, -, done⟩
        · exact Or.inr (invalid wrong)
        · cases done
      · cases unread
        exact Or.inl ⟨_, rfl⟩
    · repeat' split at unread
      all_goals cases unread
      exact Or.inl ⟨_, rfl⟩
  · dsimp only at unusable
    rcases bind_eq_error_iff.1 unusable with wrong | ⟨_, -, done⟩
    · exact Or.inr (invalid wrong)
    · cases done

end Settings

-------------------------------------------------------------------------------
-- Opening a session
-------------------------------------------------------------------------------

namespace Session

/-- What keeps a session from being opened is a matter of configuration, except too few classes. -/
theorem isConfiguration_of_create {r : Registry} {zone : Zone} {o : Objective} {reason : RunError}
    (failed : create r zone o = .error reason)
    : reason.isConfiguration = false ↔ ∃ classes < 2, o = .logLoss classes := by
  unfold create at failed
  rcases bind_eq_error_iff.1 failed with undescribed | ⟨d, described, later⟩
  · obtain ⟨wrong, invalid, rfl⟩ := mapError_eq_error_iff.1 undescribed
    rw [Objective.descriptor_eq_error_iff, Objective.validate_eq_error_iff] at invalid
    obtain ⟨classes, few, named, rfl⟩ := invalid
    exact iff_of_true rfl ⟨classes, few, named⟩
  · obtain ⟨valid, rfl⟩ := Objective.descriptor_eq_ok_iff.1 (mapError_eq_ok_iff.1 described)
    rcases bind_eq_error_iff.1 later with failed | ⟨b, -, done⟩
    · obtain ⟨missing, unbound, rfl⟩ := mapError_eq_error_iff.1 failed
      have told : (RunError.zone missing).isConfiguration = true :=
        isConfiguration_of_bind o.scoreCount_ne_zero unbound
      rw [told]
      exact iff_of_false Bool.noConfusion (Objective.not_few_of_validate valid)
    · cases done

/-- What keeps the session of settings from being opened is a matter of configuration, except that a
zone is chosen and what the settings name has too few classes.
-/
theorem isConfiguration_of_ofSettings {r : Registry} {s : Settings} {reason : RunError}
    (failed : ofSettings r s = .error reason)
    : reason.isConfiguration = false
      ↔ (∃ zone, r.select s.zone = .ok zone)
        ∧ ∃ classes < 2, s.learned = .error (.tooFew classes) := by
  unfold ofSettings at failed
  rcases bind_eq_error_iff.1 failed with unchosen | ⟨zone, chosen, later⟩
  · rw [Registry.isConfiguration_of_select unchosen]
    refine iff_of_false Bool.noConfusion ?_
    intro chosen
    obtain ⟨⟨zone, chosen⟩, -⟩ := chosen
    rw [unchosen] at chosen
    cases chosen
  refine Iff.trans ?_ (and_iff_right ⟨zone, chosen⟩).symm
  rcases bind_eq_error_iff.1 later with failed | ⟨o, learned, uncreated⟩
  · obtain ⟨wrong, unlearned, rfl⟩ := mapError_eq_error_iff.1 failed
    rw [unlearned]
    rcases Settings.learned_error_cases unlearned with ⟨text, rfl⟩ | ⟨classes, few, rfl⟩
    · exact iff_of_false Bool.noConfusion nofun
    · exact iff_of_true rfl ⟨classes, few, rfl⟩
  · have learned := mapError_eq_ok_iff.1 learned
    have valid := Settings.validate_of_learned learned
    rw [isConfiguration_of_create uncreated, learned]
    exact iff_of_false (Objective.not_few_of_validate valid) nofun

-------------------------------------------------------------------------------
-- The calls of a session
-------------------------------------------------------------------------------

/-- The error of a result, if it is one. -/
def errorOf? : Except RunError α → Option RunError
  | .error reason => some reason
  | .ok _ => none

theorem errorOf?_eq_some_iff {result : Except RunError α} {reason : RunError}
    : errorOf? result = some reason ↔ result = .error reason := by
  cases result <;> simp [errorOf?]

/-- The error that a call ended with. -/
def Answer.error? : Answer → Option RunError
  | .trainRound _ result => errorOf? result
  | .validate _ result => errorOf? result
  | .finish result => errorOf? result
  | .checkTargets result => errorOf? result

end Session

theorem ZoneError.isConfiguration_of_check {code : Int32} {zone : Zone} {reason : ZoneError}
    (failed : check code zone = .error reason)
    : reason.isConfiguration = false := by
  unfold check at failed
  split at failed <;> cases failed
  all_goals rfl

namespace Binding
variable {binding : Binding} {reason : ZoneError}

theorem isConfiguration_of_applyUpdate {b : Buffers}
    (failed : (binding.applyUpdate b).2 = .error reason)
    : reason.isConfiguration = false := by
  unfold applyUpdate at failed
  split at failed
  · cases failed
    rfl
  · exact ZoneError.isConfiguration_of_check (map_eq_error_iff.1 failed)

theorem isConfiguration_of_finishMetric {mean : Float}
    (failed : binding.finishMetric mean = .error reason)
    : reason.isConfiguration = false := by
  unfold finishMetric at failed
  split at failed
  · cases failed
    rfl
  · dsimp only at failed
    split at failed <;> cases failed
    rfl

end Binding

/-- Only a target is found fault with. -/
theorem Objective.checkTargets_error {o : Objective} {targets : List Float}
    {reason : ObjectiveError} (failed : o.checkTargets targets = .error reason)
    : ∃ index value fault, reason = .invalidTarget index value fault := by
  have scanned (index : Nat) (rest : List Float)
      (failed : checkTargets.go o index rest = .error reason)
      : ∃ index value fault, reason = .invalidTarget index value fault := by
    induction rest generalizing index with
    | nil => cases failed
    | cons target rest ih =>
        unfold checkTargets.go at failed
        split at failed
        · cases failed
          exact ⟨_, _, _, rfl⟩
        · exact ih _ failed
  exact scanned 0 targets failed

namespace Session

theorem isConfiguration_of_checkTotalWeight {weight : Float} {reason : RunError}
    (failed : checkTotalWeight weight = .error reason)
    : reason.isConfiguration = false := by
  unfold checkTotalWeight at failed
  split at failed <;> cases failed
  rfl

section Calls
variable {s : Session} {reason : RunError}

theorem isConfiguration_of_finish {sum weight : Float}
    (failed : s.finish sum weight = .error reason)
    : reason.isConfiguration = false := by
  rcases bind_eq_error_iff.1 failed with weightless | ⟨_, counts, -⟩
  · exact isConfiguration_of_checkTotalWeight weightless
  rw [s.finish_of_counts sum counts] at failed
  cases held : s.finishing? with
  | none =>
      rw [held] at failed
      cases failed
      rfl
  | some b =>
      rw [held] at failed
      obtain ⟨lost, unfinished, rfl⟩ := mapError_eq_error_iff.1 failed
      exact Binding.isConfiguration_of_finishMetric unfinished

theorem isConfiguration_of_validate {b : Buffers} (failed : (s.validate b).2 = .error reason)
    : reason.isConfiguration = false := by
  unfold validate at failed
  split at failed
  · cases failed
    rfl
  dsimp only at failed
  split at failed
  · next weightless =>
    cases failed
    exact isConfiguration_of_checkTotalWeight weightless
  split at failed
  · exact isConfiguration_of_finish failed
  · next refused =>
    cases failed
    exact Binding.isConfiguration_of_applyUpdate refused

theorem isConfiguration_of_trainRound {b : Buffers} (failed : (s.trainRound b).2.2 = .error reason)
    : reason.isConfiguration = false := by
  unfold trainRound at failed
  split at failed
  · cases failed
    rfl
  dsimp only at failed
  split at failed
  · cases failed
  · next refused =>
    cases failed
    exact Binding.isConfiguration_of_applyUpdate refused

theorem isConfiguration_of_checkTargets {targets : List Float}
    (failed : s.checkTargets targets = .error reason)
    : reason.isConfiguration = false := by
  obtain ⟨wrong, outside, rfl⟩ := mapError_eq_error_iff.1 failed
  obtain ⟨index, value, fault, rfl⟩ := Objective.checkTargets_error outside
  rfl

/-- No call ends with an error of configuration. -/
theorem isConfiguration_of_perform {call : Call} (failed : (s.perform call).2.error? = some reason)
    : reason.isConfiguration = false := by
  cases call with
  | trainRound b => exact isConfiguration_of_trainRound (errorOf?_eq_some_iff.1 failed)
  | validate b => exact isConfiguration_of_validate (errorOf?_eq_some_iff.1 failed)
  | finish sum weight => exact isConfiguration_of_finish (errorOf?_eq_some_iff.1 failed)
  | checkTargets targets => exact isConfiguration_of_checkTargets (errorOf?_eq_some_iff.1 failed)

/-- No row of calls has an error of configuration among its answers, by induction on the calls. -/
theorem isConfiguration_of_run {calls : List Call} {answer : Answer}
    (member : answer ∈ (s.run calls).2) (failed : answer.error? = some reason)
    : reason.isConfiguration = false := by
  induction calls generalizing s with
  | nil => cases member
  | cons call rest ih =>
      rcases List.mem_cons.1 member with rfl | later
      · exact isConfiguration_of_perform failed
      · exact ih later

end Calls

/-- Loading settings and choosing a zone fail with errors of configuration only, and no call of a
session does. Opening a session fails with an error of configuration except for an objective with
too few classes, where the error is told as one of a call.
-/
theorem errors_tell_configuration (file : Option Settings.File)
    (environment : Settings.Environment) (r : Registry) (choice : ZoneSettings) (zone : Zone)
    (o : Objective) (settings : Settings) (s : Session) (calls : List Call)
    : (∀ reason,
        Settings.load file environment = .error reason
        → (RunError.settings reason).isConfiguration = true)
      ∧ (∀ reason, r.select choice = .error reason → reason.isConfiguration = true)
      ∧ (∀ reason,
          create r zone o = .error reason
          → (reason.isConfiguration = false ↔ ∃ classes < 2, o = .logLoss classes))
      ∧ (∀ reason,
          ofSettings r settings = .error reason
          → (reason.isConfiguration = false
            ↔ (∃ chosen, r.select settings.zone = .ok chosen)
              ∧ ∃ classes < 2, settings.learned = .error (.tooFew classes)))
      ∧ (∀ reason,
          ofLinked settings = .error reason
          → (∃ linked, linkedZones = .ok linked ∧ ofSettings linked settings = .error reason)
            ∨ reason.isConfiguration = true)
      ∧ ∀ answer ∈ (s.run calls).2,
          ∀ reason ∈ answer.error?, reason.isConfiguration = false := by
  refine ⟨fun _ _ => rfl, ?_, ?_, ?_, ?_, ?_⟩
  · exact fun reason => Registry.isConfiguration_of_select
  · exact fun reason => isConfiguration_of_create
  · exact fun reason => isConfiguration_of_ofSettings
  · intro reason failed
    rcases bind_eq_error_iff.1 failed with unlinked | ⟨linked, found, unopened⟩
    · obtain ⟨wrong, refused, rfl⟩ := mapError_eq_error_iff.1 unlinked
      exact Or.inr (Registry.isConfiguration_of_foldlM refused)
    · exact Or.inl ⟨linked, mapError_eq_ok_iff.1 found, unopened⟩
  · exact fun answer member reason failed => isConfiguration_of_run member failed

/-- A classification into one class, in a registry where the baseline could be bound. -/
theorem oneClass_is_not_told_as_configuration
    : ∃ reason,
        create (Registry.empty.add Zone.cpu.exports) .cpu (.logLoss 1) = .error reason
        ∧ reason.isConfiguration = false := by
  have told := (errors_tell_configuration none (fun _ => none)
    (Registry.empty.add Zone.cpu.exports) ⟨.auto, true⟩ .cpu (.logLoss 1) .default ofLanes
    []).2.2.1 _ rfl
  exact ⟨_, rfl, told.2 ⟨1, by decide, rfl⟩⟩

end Session
end BoostZones
