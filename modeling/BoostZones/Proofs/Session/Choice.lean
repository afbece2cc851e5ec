import BoostZones.Proofs.Objective.Handles
import BoostZones.Proofs.Registry.Answers
import BoostZones.Proofs.Session.Opening

/-! The choice of a zone and the session that follows. The choice looks only at what the zones can
do, and binding only at their symbols; in a registry that is built from complete exports both
speak of the same exports, so whatever is chosen can be bound.
-/

namespace BoostZones

theorem Operation.mem_all (op : Operation) : op ∈ all := by
  cases op <;> decide

theorem Entry.exists_update (entry : Entry) (operation : entry.operation = .applyUpdate)
    : ∃ update, entry = .update update := by
  cases entry with
  | update update => exact ⟨update, rfl⟩
  | finish finish => cases operation

theorem Entry.exists_finish (entry : Entry) (operation : entry.operation = .finishMetric)
    : ∃ finish, entry = .finish finish := by
  cases entry with
  | update update => cases operation
  | finish finish => exact ⟨finish, rfl⟩

/-- Exports with an entry for every operation that a binding to their zone has to find. -/
def Exports.Complete (e : Exports) : Prop :=
  ∀ op ∈ e.zone.required, ∃ symbol ∈ e.symbols, symbol.entry.operation = op

/-- What a zone exports is complete, whether it can work or not. -/
theorem Zone.complete_exportsOn (zone : Zone) (device : Device) (available : Bool)
    : { zone.exportsOn device with available }.Complete := by
  intro op required
  refine ⟨_, List.mem_map_of_mem required, ?_⟩
  cases op <;> rfl

namespace Registry

-------------------------------------------------------------------------------
-- What is chosen
-------------------------------------------------------------------------------

/-- The zone can work, and none of those that are preferred to it can. -/
def FirstAvailable (r : Registry) (zone : Zone) : Prop :=
  r.isAvailable zone = true
  ∧ ∃ before after,
      [Zone.offload, .simd, .cpu] = before ++ zone :: after
      ∧ ∀ other ∈ before, r.isAvailable other = false

/-- The baseline may take the place of a zone that was asked for. -/
def StandsIn (r : Registry) (s : ZoneSettings) (asked : Zone) : Prop :=
  s.fallback = true ∧ asked ≠ Zone.baseline ∧ r.isAvailable Zone.baseline = true

/-- The zone that settings come to. -/
inductive Chosen (r : Registry) (s : ZoneSettings) : Zone → Prop
  | best {zone : Zone} (auto : s.selection = .auto) (first : r.FirstAvailable zone)
    : r.Chosen s zone
  | asked {zone : Zone} (fixed : s.selection = .fixed zone) (able : r.isAvailable zone = true)
    : r.Chosen s zone
  | standIn {zone : Zone} (fixed : s.selection = .fixed zone)
    (unable : r.isAvailable zone = false) (allowed : r.StandsIn s zone)
    : r.Chosen s Zone.baseline

/-- Why settings come to no zone. -/
inductive Unchosen (r : Registry) (s : ZoneSettings) : RunError → Prop
  | nothing (auto : s.selection = .auto) (unable : ∀ zone, r.isAvailable zone = false)
    : r.Unchosen s .noZoneAvailable
  | asked {zone : Zone} (fixed : s.selection = .fixed zone)
    (unable : r.isAvailable zone = false) (alone : ¬ r.StandsIn s zone)
    : r.Unchosen s (.zone (.zoneUnavailable zone))

section Select
variable {r : Registry} {s : ZoneSettings}

theorem best_eq_ok_iff {zone : Zone} : r.best = .ok zone ↔ r.FirstAvailable zone := by
  have first : preference.find? r.isAvailable = some zone ↔ r.FirstAvailable zone := by
    rw [List.find?_eq_some_iff_append]
    simp only [Bool.not_eq_true', preference]
    rfl
  rw [← first]
  unfold best
  cases preference.find? r.isAvailable <;> simp

theorem best_eq_error_iff {reason : RunError}
    : r.best = .error reason
      ↔ reason = .noZoneAvailable ∧ ∀ zone, r.isAvailable zone = false := by
  have every : (∀ zone ∈ preference, r.isAvailable zone = false)
      ↔ ∀ zone, r.isAvailable zone = false := by
    constructor
    · intro unable zone
      apply unable
      cases zone <;> decide
    · exact fun unable zone _ => unable zone
  rw [← every]
  unfold best
  cases found : preference.find? r.isAvailable with
  | none =>
      have unable := List.find?_eq_none.1 found
      simp only [Bool.not_eq_true] at unable
      constructor
      · intro failed
        cases failed
        exact ⟨rfl, unable⟩
      · intro failed
        rw [failed.1]
  | some zone =>
      refine iff_of_false nofun ?_
      intro failed
      have able := List.find?_some found
      rw [failed.2 zone (List.mem_of_find?_eq_some found)] at able
      cases able

theorem Chosen.select {zone : Zone} (chosen : r.Chosen s zone) : r.select s = .ok zone := by
  unfold Registry.select
  cases chosen with
  | best auto first =>
      rw [auto]
      exact best_eq_ok_iff.2 first
  | asked fixed able =>
      rw [fixed]
      exact if_pos able
  | standIn fixed unable allowed =>
      rw [fixed]
      exact (if_neg (Bool.eq_false_iff.1 unable)).trans (if_pos allowed)

theorem Unchosen.select {reason : RunError} (unchosen : r.Unchosen s reason)
    : r.select s = .error reason := by
  unfold Registry.select
  cases unchosen with
  | nothing auto unable =>
      rw [auto]
      exact best_eq_error_iff.2 ⟨rfl, unable⟩
  | asked fixed unable alone =>
      rw [fixed]
      exact (if_neg (Bool.eq_false_iff.1 unable)).trans (if_neg alone)

/-- There is no third way for settings. -/
theorem chosen_or_unchosen (r : Registry) (s : ZoneSettings)
    : (∃ zone, r.Chosen s zone) ∨ ∃ reason, r.Unchosen s reason := by
  cases selection : s.selection with
  | auto =>
      cases best : r.best with
      | ok zone => exact Or.inl ⟨zone, .best selection (best_eq_ok_iff.1 best)⟩
      | error reason =>
          obtain ⟨rfl, unable⟩ := best_eq_error_iff.1 best
          exact Or.inr ⟨_, .nothing selection unable⟩
  | fixed asked =>
      cases able : r.isAvailable asked with
      | true => exact Or.inl ⟨asked, .asked selection able⟩
      | false =>
          by_cases allowed : r.StandsIn s asked
          · exact Or.inl ⟨_, .standIn selection able allowed⟩
          · exact Or.inr ⟨_, .asked selection able allowed⟩

theorem select_eq_ok_iff {zone : Zone} : r.select s = .ok zone ↔ r.Chosen s zone := by
  refine ⟨?_, Chosen.select⟩
  intro selected
  rcases chosen_or_unchosen r s with ⟨other, chosen⟩ | ⟨reason, unchosen⟩
  · cases selected.symm.trans chosen.select
    exact chosen
  · cases selected.symm.trans unchosen.select

theorem select_eq_error_iff {reason : RunError}
    : r.select s = .error reason ↔ r.Unchosen s reason := by
  refine ⟨?_, Unchosen.select⟩
  intro failed
  rcases chosen_or_unchosen r s with ⟨zone, chosen⟩ | ⟨other, unchosen⟩
  · cases failed.symm.trans chosen.select
  · cases failed.symm.trans unchosen.select
    exact unchosen

/-- Only a zone that can work is chosen. -/
theorem Chosen.isAvailable {zone : Zone} (chosen : r.Chosen s zone)
    : r.isAvailable zone = true := by
  cases chosen with
  | best auto first => exact first.1
  | asked fixed able => exact able
  | standIn fixed unable allowed => exact allowed.2.2

end Select

-------------------------------------------------------------------------------
-- What is opened
-------------------------------------------------------------------------------

theorem isRegistered_of_isAvailable {r : Registry} {zone : Zone}
    (able : r.isAvailable zone = true)
    : r.isRegistered zone = true := by
  unfold isAvailable at able
  unfold isRegistered
  cases capable : r.capability? zone with
  | none =>
      rw [capable] at able
      cases able
  | some able' => rfl

section Built
variable {exports : List Exports} {r : Registry}
variable (complete : ∀ e ∈ exports, e.Complete) (built : build exports = .ok r)
include complete built

/-- In a registry that is built from complete exports, every registered zone has the entries that
a binding to it has to find.
-/
theorem resolves_of_isRegistered {zone : Zone} (registered : r.isRegistered zone = true)
    : (∃ update, r.resolveUpdate zone = .ok update)
      ∧ (zone.supports .finishMetric = true → ∃ finish, r.resolveFinish zone = .ok finish) := by
  obtain ⟨rfl, compatible⟩ := made_of_build built
  have answers := compatible.answersBy zone
  rw [isRegistered, capability?_ofExports, Option.isSome_map] at registered
  obtain ⟨e, first⟩ := Option.isSome_iff_exists.1 registered
  have held (op : Operation) (supported : zone.supports op = true)
      : ∃ symbol ∈ e.symbols, symbol.entry.operation = op := by
    apply complete e (List.mem_of_find?_eq_some first)
    rw [key_of_find? first]
    exact List.mem_filter.2 ⟨op.mem_all, supported⟩
  constructor
  · obtain ⟨symbol, inside, operation⟩ := held .applyUpdate rfl
    obtain ⟨update, entry⟩ := symbol.entry.exists_update operation
    exact ⟨update, (answers.update update).2 ⟨e, first, symbol, inside, entry⟩⟩
  · intro finishes
    obtain ⟨symbol, inside, operation⟩ := held .finishMetric finishes
    obtain ⟨finish, entry⟩ := symbol.entry.exists_finish operation
    exact ⟨finish, (answers.finish finish).2 ⟨e, first, symbol, inside, entry⟩⟩

/-- A valid objective has a session in every registered zone of such a registry. -/
theorem exists_session {zone : Zone} (registered : r.isRegistered zone = true) {o : Objective}
    (valid : o.validate = .ok ())
    : ∃ session,
        Session.create r zone o = .ok session
        ∧ session.zone = zone
        ∧ session.objective = o := by
  obtain ⟨⟨update, updates⟩, finishes⟩ := resolves_of_isRegistered complete built registered
  obtain ⟨d, described, scores⟩ : ∃ d, o.descriptor = .ok d ∧ d.scoreCount = o.scoreCount :=
    ⟨_, Objective.descriptor_eq_ok_iff.2 ⟨valid, rfl⟩, rfl⟩
  obtain ⟨b, bound⟩ := exists_bind (scores ▸ o.scoreCount_ne_zero) updates finishes
  have created : Session.create r zone o = .ok ⟨o, b, Session.finisherFor r zone d, 0⟩ :=
    Session.create_eq_ok_iff.2 ⟨d, described, bound, rfl, rfl, rfl⟩
  exact ⟨_, created, Session.zone_of_create created, rfl⟩

/-- Settings come to a zone, or to none, as they are said to, and a zone that they come to is
registered, can work and has a session for every valid objective.
-/
theorem select_opens_session {o : Objective} (valid : o.validate = .ok ()) (s : ZoneSettings)
    : (∀ zone, r.select s = .ok zone ↔ r.Chosen s zone)
      ∧ (∀ reason, r.select s = .error reason ↔ r.Unchosen s reason)
      ∧ ∀ zone,
          r.select s = .ok zone
          → r.isRegistered zone = true
            ∧ r.isAvailable zone = true
            ∧ ∃ session,
                Session.create r zone o = .ok session
                ∧ session.zone = zone
                ∧ session.objective = o := by
  refine ⟨fun zone => select_eq_ok_iff, fun reason => select_eq_error_iff, ?_⟩
  intro zone selected
  have able := (select_eq_ok_iff.1 selected).isAvailable
  have registered := isRegistered_of_isAvailable able
  exact ⟨registered, able, exists_session complete built registered valid⟩

end Built

/-- The staged zone, which cannot work here, and after it the baseline. -/
def unstaged : List Exports :=
  [{ Zone.offload.exports with available := false }, Zone.cpu.exports]

theorem complete_unstaged : ∀ e ∈ unstaged, e.Complete := by
  intro e member
  rcases List.mem_pair.1 member with rfl | rfl
  · exact Zone.complete_exportsOn .offload .host false
  · exact Zone.complete_exportsOn .cpu .host true

theorem unstaged_opens_baseline_session
    : build unstaged = .ok (ofExports unstaged)
      ∧ (∀ e ∈ unstaged, e.Complete)
      ∧ (Objective.logLoss 3).validate = .ok ()
      ∧ (ofExports unstaged).select ⟨.fixed .offload, true⟩ = .ok .cpu
      ∧ ∃ session,
          Session.create (ofExports unstaged) .cpu (.logLoss 3) = .ok session
          ∧ session.zone = .cpu
          ∧ session.objective = .logLoss 3 := by
  have built : build unstaged = .ok (ofExports unstaged) := rfl
  have valid : (Objective.logLoss 3).validate = .ok () := rfl
  have opens := select_opens_session complete_unstaged built valid ⟨.fixed .offload, true⟩
  have selected : (ofExports unstaged).select ⟨.fixed .offload, true⟩ = .ok .cpu :=
    (opens.1 .cpu).2 (.standIn rfl rfl ⟨rfl, nofun, rfl⟩)
  exact ⟨built, complete_unstaged, valid, selected, (opens.2.2 .cpu selected).2.2⟩

end Registry
end BoostZones
