import BoostZones.Kernel.Entry
import BoostZones.Sequence.Blocks

/-!
The traversal by lanes. With one score for a sample, eight neighbouring samples are a block: the
updates of a block are gathered first and added next, and only then are gradients or metrics
computed. With several scores the samples go one by one. The metric is summed in eight lanes,
sample `i` in lane `i % 8`, and the lanes are added up as a tree at the end.
-/

namespace BoostZones.Kernel.Lanes

/-- How many samples make a block. -/
def width : Nat := 8

theorem width_pos : 0 < width := by decide

/-- A sum for every lane. -/
abbrev Sums := Vector Float width

namespace Sums

def zero : Sums := Vector.replicate width 0

/-- Adds to the lane of sample `i`. -/
def add (sums : Sums) (i : Nat) (term : Float) : Sums :=
  have inside : i % width < width := Nat.mod_lt i width_pos
  sums.set (i % width) (sums[i % width] + term) inside

/-- The sum of all lanes: halves, quarters, and the two that are left. -/
def total (s : Sums) : Float :=
  have bound : width = 8 := rfl
  ((s[0] + s[4]) + (s[2] + s[6])) + ((s[1] + s[5]) + (s[3] + s[7]))

end Sums

/-- The buffers, with the lanes in place of the metric. -/
structure State where
  scores : Array Float
  gradients : Option (Array Float)
  sums : Sums

def State.toProgress (s : State) : Progress :=
  ⟨s.scores, s.gradients, s.sums.total⟩

/-- Adds the terms of samples to their lanes. -/
def addTerms? (job : Job) (sums : Sums) (rows : List (Nat × Float)) : Option Sums :=
  rows.foldlM (fun sums (i, score) => do
    let target ← job.view.targets[i]?
    let weight ← job.view.weight? i
    return sums.add i (weight * job.objective.metric score target)) sums

/-- Writes the gradients of samples over their slots, which lie one after the other. -/
def fillSlots? (job : Job) (rows : List (Nat × Float)) (slots : List Float)
    : Option (List Float) :=
  (rows.zip (blocksOf job.view.stride slots)).flatMapM fun ((i, score), slot) =>
    job.slot? i [score] slot

/-- Carries out the block of `count` samples from `first` on. -/
def blockStep (job : Job) (s : State) (first count : Nat) : Except State State :=
  let ⟨scores, gradients, sums⟩ := s
  let stride := job.view.stride
  let members := List.range' first count
  let gathered := members.mapM fun i => (job.view.bins.bin? i).bind (job.view.update[·]?)
  match window? scores first count, gathered with
  | some old, some deltas =>
    let new := addDelta old deltas
    let scores := overwrite scores first new
    let rows := members.zip new
    match gradients with
    | some gradients =>
      let slots := window? gradients (first * stride) (count * stride)
      match slots.bind (fillSlots? job rows ·) with
      | some slots => .ok ⟨scores, some (overwrite gradients (first * stride) slots), sums⟩
      | none => .error ⟨scores, some gradients, sums⟩
    | none =>
      match addTerms? job sums rows with
      | some sums => .ok ⟨scores, none, sums⟩
      | none => .error ⟨scores, none, sums⟩
  | _, _ => .error ⟨scores, gradients, sums⟩

/-- Carries out sample `i`, which has several scores. -/
def sampleStep (job : Job) (s : State) (i : Nat) : Except State State :=
  let ⟨scores, gradients, sums⟩ := s
  let count := job.view.scoreCount
  let stride := job.view.stride
  match window? scores (i * count) count, job.delta? i with
  | some old, some delta =>
    let new := addDelta old delta
    let scores := overwrite scores (i * count) new
    match gradients with
    | some gradients =>
      match (window? gradients (i * stride) stride).bind (job.slot? i new ·) with
      | some slot => .ok ⟨scores, some (overwrite gradients (i * stride) slot), sums⟩
      | none => .error ⟨scores, some gradients, sums⟩
    | none =>
      match job.term? i new with
      | some term => .ok ⟨scores, none, sums.add i term⟩
      | none => .error ⟨scores, none, sums⟩
  | _, _ => .error ⟨scores, gradients, sums⟩

/-- The blocks of `samples` many: where each starts, and how many it has. -/
def blocks (samples : Nat) : List (Nat × Nat) :=
  (List.range ((samples + width - 1) / width)).map fun b =>
    (b * width, min width (samples - b * width))

def traverse : Traversal := fun job =>
  let start : State := ⟨job.view.scores, job.view.gradients, Sums.zero⟩
  let last :=
    if job.view.scoreCount = 1 then
      (blocks job.view.scores.size).foldlM (fun s (first, count) =>
        blockStep job s first count) start
    else
      (List.range (job.view.scores.size / job.view.scoreCount)).foldlM (sampleStep job) start
  match last with
  | .ok s => .ok s.toProgress
  | .error s => .error s.toProgress

end Kernel.Lanes

/-- The kernel of the zone that works by lanes. -/
def Kernel.lanes : Kernel :=
  Kernel.ofTraversal Kernel.Lanes.traverse fun _ => none

end BoostZones
