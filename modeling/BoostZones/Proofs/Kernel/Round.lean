import BoostZones.Kernel.Job
import BoostZones.Proofs.Objective.Samples
import BoostZones.Proofs.Sequence.Loops
import BoostZones.Proofs.View.Shape

/-!
The round that a job describes, sample by sample: the new scores of a sample are its old ones
plus the update of its bin, and its slot of gradients and its metric term are functions of the
new scores. Nothing is said here about the order in which samples are carried out; what a
traversal has done after the first samples is told by the number of them.
-/

namespace BoostZones.Kernel.Job

def oldRow (job : Job) (i : Nat) : List Float :=
  rowAt job.view.scores.toList job.view.scoreCount i

/-- What the update has for the bin of sample `i`. -/
def added (job : Job) (i : Nat) : List Float :=
  rowAt job.view.update.toList job.view.scoreCount (job.view.bins.binAt i)

def newRow (job : Job) (i : Nat) : List Float :=
  addDelta (job.oldRow i) (job.added i)

def gradients? (job : Job) (i : Nat) (scores : List Float) : Option (List Float) :=
  job.view.targets[i]?.bind fun target =>
    (job.objective.gradientTerms? scores target job.view.hessian).map
      (Objective.scaleBy job.gradientConstant)

def newSlot (job : Job) (i : Nat) : List Float :=
  (job.gradients? i (job.newRow i)).getD []

def newTerm (job : Job) (i : Nat) : Float :=
  (job.term? i (job.newRow i)).getD 0

def scoresAfter (job : Job) (k : Nat) : Array Float :=
  refill job.view.scores job.view.scoreCount job.newRow k

def gradientsAfter (job : Job) (k : Nat) : Option (Array Float) :=
  job.view.gradients.map fun gradients => refill gradients job.view.stride job.newSlot k

/-- The buffers after all samples, with the metric that a traversal comes to. -/
def outcome (job : Job) (metric : Float) : Progress where
  scores := job.scoresAfter job.view.sampleCount
  gradients := job.gradientsAfter job.view.sampleCount
  metric := metric

-------------------------------------------------------------------------------
-- Jobs that can be carried out
-------------------------------------------------------------------------------

/-- Everything that a traversal reads is there. -/
structure Ready (job : Job) : Prop where
  shaped : job.view.Shaped
  scoreCount : job.objective.scoreCount.toNat = job.view.scoreCount
  domain : ∀ target ∈ job.view.targets, job.objective.targetFault? target = none

/-- A call is accepted exactly when the handle, the record and the targets are. -/
theorem accept_eq_ok_iff (h : Handle) (t : Transfer) (job : Job)
    : accept h t = .ok job
      ↔ Objective.ofHandle h = .ok job.objective
        ∧ t.view h = .ok job.view
        ∧ job.objective.checkTargets job.view.targets.toList = .ok ()
        ∧ job.gradientConstant = h.gradientConstant := by
  obtain ⟨objective, constant, view⟩ := job
  unfold accept
  simp only [bind_eq_ok_iff, mapError_eq_ok_iff]
  constructor
  · rintro ⟨o, known, v, viewed, _, valid, ⟨⟩⟩
    exact ⟨known, viewed, valid, rfl⟩
  · rintro ⟨known, viewed, valid, rfl⟩
    exact ⟨objective, known, view, viewed, (), valid, rfl⟩

theorem ready_of_accept {h : Handle} {t : Transfer} {job : Job} (backed : t.Backed)
    (accepted : accept h t = .ok job)
    : job.Ready := by
  obtain ⟨known, viewed, valid, -⟩ := (accept_eq_ok_iff h t job).1 accepted
  constructor
  case shaped => exact Transfer.shaped_of_view backed viewed
  case scoreCount =>
    obtain ⟨free, seen⟩ := (Transfer.view_eq_ok_iff h t job.view).1 viewed
    have same := ((Transfer.objection?_eq_none_iff h t).1 free).sameScores
    rw [Objective.scoreCount_of_ofHandle known, ← same, ← seen]
    rfl
  case domain =>
    intro target member
    exact (job.objective.checkTargets_eq_ok_iff _).1 valid target (Array.mem_toList_iff.2 member)

namespace Ready
variable {job : Job}

theorem delta?_eq (ready : job.Ready) {i : Nat} (below : i < job.view.sampleCount)
    : job.delta? i = some (job.added i) := by
  rw [delta?, PackedBins.bin?_eq_binAt ready.shaped.covered below, Option.bind_some,
    ready.shaped.updateOfBin? (ready.shaped.bins i below)]
  rfl

theorem length_oldRow (ready : job.Ready) {i : Nat} (below : i < job.view.sampleCount)
    : (job.oldRow i).length = job.view.scoreCount := by
  apply length_rowAt
  rw [Array.length_toList, ready.shaped.scores]
  exact Nat.mul_le_mul_right _ below

theorem length_added (ready : job.Ready) {i : Nat} (below : i < job.view.sampleCount)
    : (job.added i).length = job.view.scoreCount :=
  ready.shaped.length_update (ready.shaped.bins i below)

theorem length_newRow (ready : job.Ready) {i : Nat} (below : i < job.view.sampleCount)
    : (job.newRow i).length = job.view.scoreCount := by
  rw [newRow, addDelta, List.length_zipWith, ready.length_oldRow below,
    ready.length_added below, Nat.min_self]

theorem exists_target (ready : job.Ready) {i : Nat} (below : i < job.view.sampleCount)
    : ∃ target,
        job.view.targets[i]? = some target ∧ job.objective.targetFault? target = none := by
  obtain ⟨target, held⟩ := ready.shaped.exists_target below
  exact ⟨target, held, ready.domain target (Array.mem_of_getElem? held)⟩

/-- Every sample has gradients, and they fill a slot. -/
theorem gradients?_eq (ready : job.Ready) {i : Nat} (below : i < job.view.sampleCount)
    : job.gradients? i (job.newRow i) = some (job.newSlot i)
      ∧ (job.newSlot i).length = job.view.stride := by
  obtain ⟨target, held, domain⟩ := ready.exists_target below
  have full : (job.newRow i).length = job.objective.scoreCount.toNat := by
    rw [ready.length_newRow below, ready.scoreCount]
  obtain ⟨terms, written, length⟩ :=
    Objective.exists_gradientTerms full domain job.view.hessian
  have found : job.gradients? i (job.newRow i)
      = some (Objective.scaleBy job.gradientConstant terms) := by
    rw [gradients?, held, Option.bind_some, written]
    rfl
  rw [newSlot, found, Option.getD_some]
  refine ⟨rfl, ?_⟩
  rw [Objective.length_scaleBy, length, ready.length_newRow below]
  rfl

theorem length_newSlot (ready : job.Ready) {i : Nat} (below : i < job.view.sampleCount)
    : (job.newSlot i).length = job.view.stride :=
  (ready.gradients?_eq below).2

/-- What a slot held before does not matter: the gradients fill it. -/
theorem slot?_eq (ready : job.Ready) {i : Nat} (below : i < job.view.sampleCount)
    {slot : List Float} (length : slot.length = job.view.stride)
    : job.slot? i (job.newRow i) slot = some (job.newSlot i) := by
  obtain ⟨target, held, domain⟩ := ready.exists_target below
  obtain ⟨found, fills⟩ := ready.gradients?_eq below
  rw [gradients?, held, Option.bind_some] at found
  obtain ⟨terms, written, scaled⟩ := Option.map_eq_some_iff.1 found
  have fit : terms.length = slot.length := by
    rw [length, ← fills, ← scaled, Objective.length_scaleBy]
  rw [slot?, held, Option.bind_some, Objective.writeGradients?, written, Option.bind_some,
    Objective.overlay?_of_length_eq fit, Option.map_some, scaled]

theorem term?_eq (ready : job.Ready) {i : Nat} (below : i < job.view.sampleCount)
    : job.term? i (job.newRow i) = some (job.newTerm i) := by
  obtain ⟨target, held, domain⟩ := ready.exists_target below
  obtain ⟨weight, weighed⟩ := ready.shaped.exists_weight below
  have full : (job.newRow i).length = job.objective.scoreCount.toNat := by
    rw [ready.length_newRow below, ready.scoreCount]
  obtain ⟨metric, judged⟩ := Objective.exists_sampleMetric full domain
  have found : job.term? i (job.newRow i) = some (weight * metric) := by
    rw [term?, held, weighed]
    simp only [Bind.bind, Option.bind_some, judged, pure]
  rw [newTerm, found, Option.getD_some]

theorem window?_scoresAfter (ready : job.Ready) (k count : Nat)
    (held : k + count ≤ job.view.sampleCount)
    : window? (job.scoresAfter k) (k * job.view.scoreCount) (count * job.view.scoreCount)
      = some ((List.range' k count).flatMap job.oldRow) :=
  window?_refill ready.shaped.scores (fun _ below => ready.length_newRow below) held

theorem overwrite_scoresAfter (ready : job.Ready) (k count : Nat)
    (held : k + count ≤ job.view.sampleCount)
    : overwrite (job.scoresAfter k) (k * job.view.scoreCount)
        ((List.range' k count).flatMap job.newRow)
      = job.scoresAfter (k + count) :=
  overwrite_refill ready.shaped.scores (fun _ below => ready.length_newRow below) held

/-- The window of the next slots holds as many slots, with whatever was in them. -/
theorem window?_slots (ready : job.Ready) {gradients : Array Float}
    (given : job.view.gradients = some gradients) (k count : Nat)
    (held : k + count ≤ job.view.sampleCount)
    : window? (refill gradients job.view.stride job.newSlot k) (k * job.view.stride)
        (count * job.view.stride)
      = some ((List.range' k count).flatMap (rowAt gradients.toList job.view.stride)) :=
  window?_refill (ready.shaped.gradients gradients given)
    (fun _ below => ready.length_newSlot below) held

theorem overwrite_slots (ready : job.Ready) {gradients : Array Float}
    (given : job.view.gradients = some gradients) (k count : Nat)
    (held : k + count ≤ job.view.sampleCount)
    : overwrite (refill gradients job.view.stride job.newSlot k) (k * job.view.stride)
        ((List.range' k count).flatMap job.newSlot)
      = refill gradients job.view.stride job.newSlot (k + count) :=
  overwrite_refill (ready.shaped.gradients gradients given)
    (fun _ below => ready.length_newSlot below) held

theorem window?_oldRow (ready : job.Ready) {k : Nat} (below : k < job.view.sampleCount)
    : window? (job.scoresAfter k) (k * job.view.scoreCount) job.view.scoreCount
      = some (job.oldRow k) := by
  simpa only [Nat.one_mul, List.range'_one, List.flatMap_singleton]
    using ready.window?_scoresAfter k 1 below

theorem overwrite_newRow (ready : job.Ready) {k : Nat} (below : k < job.view.sampleCount)
    : overwrite (job.scoresAfter k) (k * job.view.scoreCount) (job.newRow k)
      = job.scoresAfter (k + 1) := by
  simpa only [List.range'_one, List.flatMap_singleton]
    using ready.overwrite_scoresAfter k 1 below

theorem overwrite_newSlot (ready : job.Ready) {gradients : Array Float}
    (given : job.view.gradients = some gradients) {k : Nat} (below : k < job.view.sampleCount)
    : overwrite (refill gradients job.view.stride job.newSlot k) (k * job.view.stride)
        (job.newSlot k)
      = refill gradients job.view.stride job.newSlot (k + 1) := by
  simpa only [List.range'_one, List.flatMap_singleton]
    using ready.overwrite_slots given k 1 below

theorem length_slot (ready : job.Ready) {gradients : Array Float}
    (given : job.view.gradients = some gradients) {i : Nat} (below : i < job.view.sampleCount)
    : (rowAt gradients.toList job.view.stride i).length = job.view.stride := by
  apply length_rowAt
  rw [Array.length_toList, ready.shaped.gradients gradients given]
  exact Nat.mul_le_mul_right _ below

/-- The slot of the next sample is there, and the sample's gradients are what it will hold. -/
theorem fill_slot (ready : job.Ready) {gradients : Array Float}
    (given : job.view.gradients = some gradients) {k : Nat} (below : k < job.view.sampleCount)
    : (window? (refill gradients job.view.stride job.newSlot k) (k * job.view.stride)
          job.view.stride).bind (job.slot? k (job.newRow k))
      = some (job.newSlot k) := by
  have slots := ready.window?_slots given k 1 below
  simp only [Nat.one_mul, List.range'_one, List.flatMap_singleton] at slots
  rw [slots, Option.bind_some, ready.slot?_eq below (ready.length_slot given below)]

end Ready
end BoostZones.Kernel.Job
