import BoostZones.Proofs.Kernel.Bins
import BoostZones.Proofs.Kernel.Staged
import BoostZones.Proofs.Sequence.Reading

/-! When the staged traversal breaks off. The length of a block is a product that may wrap around a
word. If nothing is left of it, there are no blocks at all. If enough is left for a sample, the
blocks are shorter than the samples that they are numbered by, and the first row of the second block
is taken for a sample that is not there. Nothing else breaks the traversal off.
-/

namespace BoostZones.Kernel

namespace Job.Ready
variable {job : Job} (ready : job.Ready)
include ready

theorem trimmed : job.Trimmed where
  scores := Nat.le_of_eq ready.shaped.scores
  targets := Nat.le_of_eq ready.shaped.targets

variable {i : Nat} (below : i < job.view.sampleCount) {scores : List Float}
variable (full : scores.length = job.view.scoreCount)
include below full

/-- Any scores of a sample have a metric. -/
theorem exists_term? : ∃ term, job.term? i scores = some term := by
  obtain ⟨target, held, domain⟩ := ready.exists_target below
  obtain ⟨weight, weighed⟩ := ready.shaped.exists_weight below
  obtain ⟨metric, judged⟩ :=
    Objective.exists_sampleMetric (full.trans ready.scoreCount.symm) domain
  refine ⟨weight * metric, ?_⟩
  rw [term?, held, weighed]
  simp only [Bind.bind, Option.bind_some, judged, pure]

/-- Any scores of a sample have gradients that fill a slot. -/
theorem exists_slot? {slot : List Float} (width : slot.length = job.view.stride)
    : ∃ filled, job.slot? i scores slot = some filled := by
  obtain ⟨target, held, domain⟩ := ready.exists_target below
  obtain ⟨terms, written, length⟩ :=
    Objective.exists_gradientTerms (full.trans ready.scoreCount.symm) domain job.view.hessian
  have fit : terms.length = slot.length := by
    rw [length, width, full]
    rfl
  refine ⟨Objective.scaleBy job.gradientConstant terms, ?_⟩
  rw [slot?, held, Option.bind_some, Objective.writeGradients?, written, Option.bind_some,
    Objective.overlay?_of_length_eq fit, Option.map_some]

end Job.Ready

namespace Staged

-------------------------------------------------------------------------------
-- What breaks a block off
-------------------------------------------------------------------------------

/-- How many samples the block has a row for, and in training a slot as well. -/
def Block.count (job : Job) (block : Block) : Nat :=
  match block.slots with
  | none => block.scores.length / job.view.scoreCount
  | some slots =>
      min (block.scores.length / job.view.scoreCount) (slots.length / job.view.stride)

section Block
variable {job : Job} (ready : job.Ready) {block : Block}
include ready

/-- A row is carried out exactly if a sample has its number. -/
theorem carriedOut_eq_none_iff {i : Nat} {old : List Float}
    (full : old.length = job.view.scoreCount) {finish : List Float → Option β}
    (finishes
      : i < job.view.sampleCount
        → ∀ new, new.length = job.view.scoreCount → ∃ last, finish new = some last)
    (stops : job.view.sampleCount ≤ i → ∀ new, finish new = none)
    : ((Block.newScores? job i old).bind fun new =>
        (finish new).bind fun last => some (new, last)) = none
      ↔ job.view.sampleCount ≤ i := by
  constructor
  · intro missing
    refine Nat.le_of_not_lt fun below => ?_
    have length : (addDelta old (job.added i)).length = job.view.scoreCount := by
      rw [addDelta, List.length_zipWith, full, ready.length_added below, Nat.min_self]
    obtain ⟨last, found⟩ := finishes below _ length
    rw [Block.newScores?, ready.delta?_eq below, Option.map_some, Option.bind_some, found]
      at missing
    cases missing
  · intro outside
    refine Option.bind_eq_none_iff.mpr fun new _ => ?_
    rw [stops outside new, Option.bind_none]

theorem rows_eq_map
    : block.rows job
      = (List.range (block.scores.length / job.view.scoreCount)).map fun j =>
          (rowAt block.scores job.view.scoreCount j, block.first + j) := by
  apply List.ext_getElem?
  intro j
  rw [Block.rows, wholeBlocksOf_eq_map ready.shaped.someScore, List.getElem?_zipIdx,
    List.getElem?_map, List.getElem?_map, Option.map_map]
  by_cases inside : j < block.scores.length / job.view.scoreCount
  · simp only [List.getElem?_range inside, Option.map_some, Function.comp_apply]
  · have outside := Nat.le_of_not_lt inside
    rw [List.getElem?_eq_none (by rwa [List.length_range]), Option.map_none, Option.map_none]

/-- In validation the rows are carried out up to the first that no sample has the number of. -/
theorem validate?_eq_none_iff
    : block.validate? job = none
      ↔ ∃ j < block.scores.length / job.view.scoreCount,
          job.view.sampleCount ≤ block.first + j := by
  have whole
      : block.validate? job = none
        ↔ ((block.rows job).mapM fun entry =>
            (Block.newScores? job entry.2 entry.1).bind fun new =>
              (job.term? entry.2 new).bind fun term => some (new, term)) = none := by
    simp only [Block.validate?, Bind.bind, pure, Option.bind_eq_none_iff, reduceCtorEq, imp_false,
      ← Option.eq_none_iff_forall_ne_some]
  rw [whole, rows_eq_map ready, mapM_eq_none_iff]
  simp only [List.mem_map, List.mem_range, exists_exists_and_eq_and]
  refine exists_congr fun j => and_congr_right fun inside => ?_
  refine carriedOut_eq_none_iff ready (length_rowAt_of_lt inside) ?_ ?_
  · exact fun below new full => ready.exists_term? below full
  · exact fun outside => ready.trimmed.term?_of_outside outside

theorem train?_eq_none_iff {slots : List Float}
    : block.train? job slots = none
      ↔ ∃ j < min (block.scores.length / job.view.scoreCount) (slots.length / job.view.stride),
          job.view.sampleCount ≤ block.first + j := by
  have whole
      : block.train? job slots = none
        ↔ (((block.rows job).zip (wholeBlocksOf job.view.stride slots)).mapM fun entry =>
            (Block.newScores? job entry.1.2 entry.1.1).bind fun new =>
              (job.slot? entry.1.2 new entry.2).bind fun slot => some (new, slot)) = none := by
    simp only [Block.train?, Bind.bind, pure, Option.bind_eq_none_iff, reduceCtorEq, imp_false,
      ← Option.eq_none_iff_forall_ne_some]
  rw [whole, rows_eq_map ready, wholeBlocksOf_eq_map ready.shaped.stride_pos, zip_map_range,
    mapM_eq_none_iff]
  simp only [List.mem_map, List.mem_range, exists_exists_and_eq_and]
  refine exists_congr fun j => and_congr_right fun inside => ?_
  obtain ⟨row, slot⟩ := Nat.lt_min.mp inside
  refine carriedOut_eq_none_iff ready (length_rowAt_of_lt row) ?_ ?_
  · exact fun below new full => ready.exists_slot? below full (length_rowAt_of_lt slot)
  · exact fun outside new => ready.trimmed.slot?_of_outside outside new _

/-- A block breaks off exactly if it has a row for a sample that is not there. -/
theorem run?_eq_none_iff
    : block.run? job = none
      ↔ ∃ j < block.count job, job.view.sampleCount ≤ block.first + j := by
  unfold Block.run? Block.count
  cases block.slots with
  | none => exact validate?_eq_none_iff ready
  | some slots => exact train?_eq_none_iff ready

end Block

-------------------------------------------------------------------------------
-- What breaks the queue off
-------------------------------------------------------------------------------

/-- The queue comes to every block, so one block that breaks off is enough, as those before it do
not touch it.
-/
theorem runQueue?_of_broken {job : Job} {blocks : Array Block} {order : List Nat} {b : Nat}
    (member : b ∈ order) (once : order.Nodup) {block : Block} (held : blocks[b]? = some block)
    (broken : block.run? job = none)
    : runQueue? job order blocks = none := by
  induction order generalizing blocks with
  | nil => cases member
  | cons first rest ih =>
      obtain ⟨fresh, once⟩ := List.nodup_cons.mp once
      rw [runQueue?, List.foldlM_cons]
      rcases List.mem_cons.mp member with rfl | later
      · have stopped : step? job blocks b = none := by
          rw [step?, held]
          simp only [Bind.bind, Option.bind_some, broken, Option.bind_none]
        rw [stopped]
        rfl
      · cases stepped : step? job blocks first with
        | none => rfl
        | some next =>
            have other : first ≠ b := fun same => fresh (same ▸ later)
            refine ih later once ?_
            obtain ⟨own, -, stepped⟩ := Option.bind_eq_some_iff.mp stepped
            obtain ⟨done, -, stepped⟩ := Option.bind_eq_some_iff.mp stepped
            cases stepped
            rw [Array.getElem?_setIfInBounds_ne other, held]

theorem runQueue?_eq_none_iff {job : Job} {blocks : List Block}
    : runQueue? job (List.range blocks.length) blocks.toArray = none
      ↔ ∃ block ∈ blocks, block.run? job = none := by
  constructor
  · intro stopped
    by_contra runs
    have each : ∀ block ∈ blocks, (id block).run? job = some ((block.run? job).getD block) := by
      intro block member
      cases ran : block.run? job with
      | none => exact absurd ⟨block, member, ran⟩ runs
      | some done => exact ran
    have ended := runQueue?_eq each (List.Perm.refl (List.range blocks.length))
    rw [List.map_id] at ended
    cases stopped.symm.trans ended
  · intro broken
    obtain ⟨block, member, broken⟩ := broken
    obtain ⟨b, held⟩ := List.mem_iff_getElem?.mp member
    obtain ⟨inside, -⟩ := List.getElem?_eq_some_iff.mp held
    refine runQueue?_of_broken (List.mem_range.mpr inside) List.nodup_range ?_ broken
    rwa [List.getElem?_toArray]

-------------------------------------------------------------------------------
-- What breaks the traversal off
-------------------------------------------------------------------------------

/-- Nothing is left of the length of a block. -/
def Blockless (v : View) : Prop :=
  blockLength v.scoreCount = 0 ∨ v.gradients.isSome ∧ blockLength v.stride = 0

/-- The length of a block wraps around, and the second block has a row nevertheless. -/
def Misnumbers (v : View) : Prop :=
  Text.wordLimit ≤ blockSize * v.scoreCount
  ∧ v.scoreCount ≤ blockLength v.scoreCount
  ∧ blockLength v.scoreCount + v.scoreCount ≤ v.sampleCount * v.scoreCount

/-- Block `b` of the areas. -/
def cutBlock (job : Job) (b : Nat) : Block where
  first := b * blockSize
  scores := rowAt job.view.scores.toList (blockLength job.view.scoreCount) b
  slots :=
    job.view.gradients.map fun gradients =>
      rowAt (List.replicate gradients.size 0) (blockLength job.view.stride) b
  metric := 0

/-- Both areas go as far as block `b`. -/
def Reaches (job : Job) (b : Nat) : Prop :=
  b * blockLength job.view.scoreCount < job.view.scores.size
  ∧ ∀ gradients ∈ job.view.gradients, b * blockLength job.view.stride < gradients.size

theorem cutArea?_eq_none_iff {perSample : Nat} {area : List Float}
    : cutArea? perSample area = none ↔ blockLength perSample = 0 := by
  unfold cutArea?
  split
  · next zero => exact iff_of_true rfl zero
  · next nonzero => exact iff_of_false nofun nonzero

theorem getElem?_of_cutArea? {perSample : Nat} {area : List Float} {parts : List (List Float)}
    (cut : cutArea? perSample area = some parts) {b : Nat} {part : List Float}
    : parts[b]? = some part
      ↔ b * blockLength perSample < area.length
        ∧ rowAt area (blockLength perSample) b = part := by
  unfold cutArea? at cut
  split at cut
  · cases cut
  · next nonzero =>
    cases cut
    rw [getElem?_blocksOf (Nat.pos_of_ne_zero nonzero)]
    split
    · next inside => simp [inside]
    · next outside => simp [outside]

theorem stage?_eq_none_iff {job : Job} : stage? job = none ↔ Blockless job.view := by
  unfold stage? Blockless
  cases cut : cutArea? job.view.scoreCount job.view.scores.toList with
  | none => exact iff_of_true rfl (Or.inl (cutArea?_eq_none_iff.mp cut))
  | some parts =>
      have nonzero : blockLength job.view.scoreCount ≠ 0 := fun zero => by
        rw [cutArea?_eq_none_iff.mpr zero] at cut
        cases cut
      cases job.view.gradients with
      | none => simp [nonzero]
      | some gradients =>
          simp [nonzero, Option.bind_eq_none_iff, ← Option.eq_none_iff_forall_ne_some,
            cutArea?_eq_none_iff]

theorem getElem?_of_stage? {job : Job} {blocks : List Block} (staged : stage? job = some blocks)
    {b : Nat} {block : Block}
    : blocks[b]? = some block ↔ Reaches job b ∧ cutBlock job b = block := by
  unfold stage? at staged
  obtain ⟨parts, cut, staged⟩ := Option.bind_eq_some_iff.mp staged
  cases given : job.view.gradients with
  | none =>
      rw [given] at staged
      cases staged
      simp [List.getElem?_mapIdx, getElem?_of_cutArea? cut, Reaches, cutBlock, given]
  | some gradients =>
      rw [given] at staged
      obtain ⟨slots, cutSlots, staged⟩ := Option.bind_eq_some_iff.mp staged
      cases staged
      simp [List.getElem?_mapIdx, List.getElem?_zip_eq_some, getElem?_of_cutArea? cut,
        getElem?_of_cutArea? cutSlots, Reaches, cutBlock, given]

theorem length_rowAt_eq_min (xs : List α) (width i : Nat)
    : (rowAt xs width i).length = min width (xs.length - i * width) := by
  rw [rowAt, List.length_take, List.length_drop]

section Misnumbered
variable {job : Job} (ready : job.Ready)
include ready

/-- A row of block `b` lies within the scores, after the blocks before it. -/
theorem row_of_lt_count {b j : Nat} (inside : j < (cutBlock job b).count job)
    : (j + 1) * job.view.scoreCount ≤ blockLength job.view.scoreCount
      ∧ (j + 1) * job.view.scoreCount
        ≤ job.view.sampleCount * job.view.scoreCount - b * blockLength job.view.scoreCount := by
  have row : j < (cutBlock job b).scores.length / job.view.scoreCount := by
    unfold Block.count at inside
    split at inside
    · exact inside
    · exact (Nat.lt_min.mp inside).1
  have held : (j + 1) * job.view.scoreCount ≤ (cutBlock job b).scores.length :=
    Nat.le_trans (Nat.mul_le_mul_right _ row) (Nat.div_mul_le_self ..)
  rw [cutBlock, length_rowAt_eq_min, Array.length_toList, ready.shaped.scores] at held
  exact Nat.le_min.mp held

/-- While the length of a block does not wrap around, its rows have the numbers of samples. -/
theorem number_lt_of_fits (fits : blockSize * job.view.scoreCount < Text.wordLimit) {b j : Nat}
    (reached : Reaches job b) (inside : j < (cutBlock job b).count job)
    : b * blockSize + j < job.view.sampleCount := by
  obtain ⟨-, within⟩ := row_of_lt_count ready inside
  have before := reached.1
  have exact : blockLength job.view.scoreCount = blockSize * job.view.scoreCount :=
    Nat.mod_eq_of_lt fits
  rw [exact, ← Nat.mul_assoc] at within
  rw [exact, ← Nat.mul_assoc, ready.shaped.scores] at before
  have all
      : (b * blockSize + (j + 1)) * job.view.scoreCount
        ≤ job.view.sampleCount * job.view.scoreCount := by
    rw [Nat.add_mul]
    omega
  exact Nat.le_of_mul_le_mul_right all ready.shaped.someScore

/-- The rows of the first block have the numbers of samples, wherever it ends. -/
theorem number_lt_of_first {j : Nat} (inside : j < (cutBlock job 0).count job)
    : j < job.view.sampleCount := by
  obtain ⟨-, within⟩ := row_of_lt_count ready inside
  rw [Nat.zero_mul, Nat.sub_zero] at within
  exact Nat.le_of_mul_le_mul_right within ready.shaped.someScore

theorem misnumbers_of_row {b j : Nat} (reached : Reaches job b)
    (inside : j < (cutBlock job b).count job)
    (outside : job.view.sampleCount ≤ b * blockSize + j)
    : Misnumbers job.view := by
  obtain ⟨short, within⟩ := row_of_lt_count ready inside
  have before := reached.1
  rw [ready.shaped.scores] at before
  have row : job.view.scoreCount ≤ (j + 1) * job.view.scoreCount :=
    Nat.le_mul_of_pos_left _ (Nat.succ_pos j)
  refine ⟨?_, Nat.le_trans row short, ?_⟩
  · refine Nat.le_of_not_lt fun fits => ?_
    exact Nat.not_lt.mpr outside (number_lt_of_fits ready fits reached inside)
  · cases b with
    | zero =>
        rw [Nat.zero_mul, Nat.zero_add] at outside
        exact absurd (number_lt_of_first ready inside) (Nat.not_lt.mpr outside)
    | succ earlier =>
        have second
            : blockLength job.view.scoreCount
              ≤ (earlier + 1) * blockLength job.view.scoreCount :=
          Nat.le_mul_of_pos_left _ (Nat.succ_pos earlier)
        omega

end Misnumbered

/-- The gradients are cut as the scores are, as long as all of them fit a word. -/
theorem Misnumbers.slots {v : View} (wrong : Misnumbers v)
    (fits : v.sampleCount * v.stride < Text.wordLimit)
    : v.stride ≤ blockLength v.stride
      ∧ blockLength v.stride + v.stride ≤ v.sampleCount * v.stride := by
  obtain ⟨-, row, second⟩ := wrong
  unfold View.stride View.strideOf at fits ⊢
  cases wanted : v.hessian with
  | false => exact ⟨by simpa using row, by simpa using second⟩
  | true =>
      simp only [wanted, if_true, ← Nat.mul_assoc] at fits ⊢
      have double : blockLength (v.scoreCount * 2) = blockLength v.scoreCount * 2 := by
        have room : blockLength v.scoreCount * 2 < Text.wordLimit := by omega
        rw [blockLength, ← Nat.mul_assoc, Nat.mul_mod, Nat.mod_eq_of_lt (a := 2) (by decide)]
        exact Nat.mod_eq_of_lt room
      omega

/-- The first row of the second block has a number that no sample has. -/
theorem row_of_misnumbers {job : Job} (ready : job.Ready)
    (scores : job.view.sampleCount * job.view.scoreCount < Text.wordLimit)
    (gradients : job.view.sampleCount * job.view.stride < Text.wordLimit)
    (wrong : Misnumbers job.view)
    : Reaches job 1
      ∧ 0 < (cutBlock job 1).count job
      ∧ job.view.sampleCount ≤ 1 * blockSize + 0 := by
  obtain ⟨row, second⟩ := wrong.slots gradients
  obtain ⟨wraps, ownRow, ownSecond⟩ := wrong
  have scored := ready.shaped.someScore
  have positive := ready.shaped.stride_pos
  refine ⟨⟨?_, ?_⟩, ?_, ?_⟩
  · rw [ready.shaped.scores]
    omega
  · intro given member
    rw [ready.shaped.gradients given member]
    omega
  · have rows : 0 < (cutBlock job 1).scores.length / job.view.scoreCount := by
      refine Nat.div_pos ?_ scored
      rw [cutBlock, length_rowAt_eq_min, Array.length_toList, ready.shaped.scores]
      omega
    unfold Block.count
    split
    · exact rows
    · next slots held =>
      obtain ⟨given, training, rfl⟩ := Option.map_eq_some_iff.mp held
      refine Nat.lt_min.mpr ⟨rows, Nat.div_pos ?_ positive⟩
      rw [length_rowAt_eq_min, List.length_replicate, ready.shaped.gradients given training]
      omega
  · have few : job.view.sampleCount * job.view.scoreCount < blockSize * job.view.scoreCount :=
      Nat.lt_of_lt_of_le scores wraps
    have fewer := Nat.lt_of_mul_lt_mul_right few
    omega

/-- The traversal breaks off exactly if there are no blocks or a row gets a number that no sample
has; otherwise it comes to an end, whatever it has carried out by then.
-/
theorem traverse_eq_error_iff {job : Job} (ready : job.Ready)
    (scores : job.view.sampleCount * job.view.scoreCount < Text.wordLimit)
    (gradients : job.view.sampleCount * job.view.stride < Text.wordLimit)
    : traverse job = .error job.start ↔ Blockless job.view ∨ Misnumbers job.view := by
  cases staged : stage? job with
  | none =>
      have broken : traverse job = .error job.start := by
        rw [traverse, staged]
        rfl
      exact iff_of_true broken (Or.inl (stage?_eq_none_iff.mp staged))
  | some blocks =>
      have cut : ¬Blockless job.view := fun blockless => by
        rw [stage?_eq_none_iff.mpr blockless] at staged
        cases staged
      have broken
          : traverse job = .error job.start
            ↔ runQueue? job (List.range blocks.length) blocks.toArray = none := by
        rw [traverse, staged, Option.bind_some]
        cases runQueue? job (List.range blocks.length) blocks.toArray with
        | none => exact iff_of_true rfl rfl
        | some done => simp
      rw [broken, runQueue?_eq_none_iff, or_iff_right cut]
      constructor
      · intro broken
        obtain ⟨block, member, broken⟩ := broken
        obtain ⟨b, held⟩ := List.mem_iff_getElem?.mp member
        obtain ⟨reached, rfl⟩ := (getElem?_of_stage? staged).mp held
        obtain ⟨j, inside, outside⟩ := (run?_eq_none_iff ready).mp broken
        exact misnumbers_of_row ready reached inside outside
      · intro wrong
        obtain ⟨reached, inside, outside⟩ := row_of_misnumbers ready scores gradients wrong
        have held := (getElem?_of_stage? staged).mpr ⟨reached, rfl⟩
        refine ⟨_, List.mem_of_getElem? held, (run?_eq_none_iff ready).mpr ?_⟩
        exact ⟨0, inside, outside⟩

end Staged
end BoostZones.Kernel
