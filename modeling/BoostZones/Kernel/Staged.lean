import BoostZones.Kernel.Entry
import BoostZones.Sequence.Blocks

/-!
The traversal by staged blocks. The scores are copied to a staging area and cut into blocks of
4096 samples, and so is a fresh area for the gradients; a queue carries the blocks out, each on
its own part of the areas and in an order that does not matter. The areas are copied back when
all blocks are done, so a failure leaves the buffers as they were. The queue and the areas belong
to the device of the machine, which may not have them.
-/

namespace BoostZones.Kernel.Staged

/-- Samples of a block. -/
def blockSize : Nat := 4096

/-- One block on the queue. -/
structure Block where
  /-- The first sample of the block. -/
  first : Nat
  scores : List Float
  /-- Where the gradients go; absent in validation. -/
  slots : Option (List Float)
  /-- The sum of the block's metric terms. -/
  metric : Float

/-- Entries of a block that has `perSample` for each sample, as a 64-bit word. -/
def blockLength (perSample : Nat) : Nat :=
  blockSize * perSample % Text.wordLimit

/-- An area cut into the blocks of the queue, which cannot be empty. -/
def cutArea? (perSample : Nat) (area : List Float) : Option (List (List Float)) :=
  if blockLength perSample = 0 then none else some (blocksOf (blockLength perSample) area)

/-- The staging area before the queue starts. -/
def stage? (job : Job) : Option (List Block) := do
  let scores ← cutArea? job.view.scoreCount job.view.scores.toList
  match job.view.gradients with
  | some gradients =>
    let slots ← cutArea? job.view.stride (List.replicate gradients.size 0)
    return (scores.zip slots).mapIdx fun b (scores, slots) =>
      ⟨b * blockSize, scores, some slots, 0⟩
  | none => return scores.mapIdx fun b scores => ⟨b * blockSize, scores, none, 0⟩

namespace Block

/-- The samples of the block, each with its scores. -/
def rows (job : Job) (block : Block) : List (List Float × Nat) :=
  (wholeBlocksOf job.view.scoreCount block.scores).zipIdx block.first

/-- The new scores of sample `i`. -/
def newScores? (job : Job) (i : Nat) (old : List Float) : Option (List Float) :=
  (job.delta? i).map (addDelta old)

/-- The block in training: new scores, and a filled slot for each sample. -/
def train? (job : Job) (block : Block) (slots : List Float) : Option Block := do
  let stride := job.view.stride
  let done ← ((block.rows job).zip (wholeBlocksOf stride slots)).mapM
    fun ((old, i), slot) => do
      let new ← newScores? job i old
      let slot ← job.slot? i new slot
      return (new, slot)
  return { block with
    scores := done.flatMap (·.1) ++ block.scores.drop (done.length * job.view.scoreCount)
    slots := some (done.flatMap (·.2) ++ slots.drop (done.length * stride)) }

/-- The block in validation: new scores, and the sum of the terms. -/
def validate? (job : Job) (block : Block) : Option Block := do
  let done ← (block.rows job).mapM fun (old, i) => do
    let new ← newScores? job i old
    let term ← job.term? i new
    return (new, term)
  return { block with
    scores := done.flatMap (·.1) ++ block.scores.drop (done.length * job.view.scoreCount)
    metric := (done.map (·.2)).foldl (· + ·) 0 }

/-- Carries the block out. -/
def run? (job : Job) (block : Block) : Option Block :=
  match block.slots with
  | some slots => block.train? job slots
  | none => block.validate? job

end Block

/-- The staging area after block `b` is carried out. -/
def step? (job : Job) (blocks : Array Block) (b : Nat) : Option (Array Block) := do
  let block ← blocks[b]?
  let done ← block.run? job
  return blocks.setIfInBounds b done

/-- The staging area after the queue has carried blocks out in this order. -/
def runQueue? (job : Job) (order : List Nat) (blocks : Array Block) : Option (Array Block) :=
  order.foldlM (step? job) blocks

/-- The blocks' sums added up, from the first block to the last. -/
def sumBlocks (blocks : Array Block) : Float :=
  blocks.toList.foldl (fun sum block => sum + block.metric) (-0.0)

/-- The areas copied back. -/
def collect (job : Job) (blocks : Array Block) : Progress where
  scores := overwrite job.view.scores 0 (blocks.toList.flatMap (·.scores))
  gradients :=
    job.view.gradients.map fun gradients =>
      overwrite (Array.replicate gradients.size 0) 0
        (blocks.toList.flatMap (·.slots.getD []))
  metric := if job.view.gradients.isSome then 0 else sumBlocks blocks

def traverse : Traversal := fun job =>
  let done := (stage? job).bind fun blocks =>
    runQueue? job (List.range blocks.length) blocks.toArray
  match done with
  | some blocks => .ok (collect job blocks)
  | none => .error job.start

end Kernel.Staged

/-- What the staged zone asks of its machine. -/
structure Device where
  /-- The queue could be set up. -/
  hasQueue : Bool
  /-- With so many entries in use, an area of so many more is to be had. -/
  allots : Nat → Nat → Bool

namespace Device

/-- The device that always has its queue and its areas. -/
def host : Device := ⟨true, fun _ _ => true⟩

/-- What keeps the device from a job: no queue, or no area for the scores or the gradients. -/
def objection? (device : Device) (job : Kernel.Job) : Option ZoneError :=
  let scores := job.view.scores.size
  if !device.hasQueue then some (.internal "fila offload indisponível")
  else if !device.allots 0 scores then some .outOfMemory
  else
    match job.view.gradients with
    | some gradients =>
      if device.allots scores gradients.size then none else some .outOfMemory
    | none => none

end Device

/-- The kernel of the zone that works on a device queue. -/
def Kernel.staged (device : Device) : Kernel :=
  Kernel.ofTraversal Kernel.Staged.traverse device.objection?

end BoostZones
