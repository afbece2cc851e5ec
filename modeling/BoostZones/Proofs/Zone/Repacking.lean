import BoostZones.Proofs.Bins.Bits
import BoostZones.Proofs.Kernel.Bins
import BoostZones.Proofs.Zone.Answers

/-! Padding tells a zone nothing. A record that holds other words with the same bins for its samples
is accepted by the same checks and carried out alike, so words may be packed again from the
bins that are read in them: only padding is lost.
-/

namespace BoostZones

-------------------------------------------------------------------------------
-- Records with other words
-------------------------------------------------------------------------------

namespace Transfer

/-- The record with other words. -/
def withWords (t : Transfer) (words : Array UInt64) : Transfer :=
  { t with words := some words }

/-- Other words, in place of words that are there, in which the samples have the same bins. -/
structure SameBins (t : Transfer) (words : Array UInt64) : Prop where
  present : t.words.isNone = false
  bin : ∀ i < t.sampleCount.toNat, (t.withWords words).bins.bin? i = t.bins.bin? i
  greatest
    : (t.withWords words).bins.maxBin? t.sampleCount.toNat
      = t.bins.maxBin? t.sampleCount.toNat

section Words
variable {t : Transfer} {words : Array UInt64}

theorem objection?_withWords (same : t.SameBins words) (h : Handle)
    : (t.withWords words).objection? h = t.objection? h := by
  have greatest
      : (t.withWords words).bins.maxBin? (t.withWords words).sampleCount.toNat
        = t.bins.maxBin? t.sampleCount.toNat := same.greatest
  have present : (t.withWords words).words.isNone = false := rfl
  simp only [objection?, greatest, present, same.present]
  rfl

theorem accept_withWords (same : t.SameBins words) (h : Handle)
    : Kernel.Job.accept h (t.withWords words)
      = (Kernel.Job.accept h t).map (·.withBins (t.withWords words).bins) := by
  unfold Kernel.Job.accept view
  rw [objection?_withWords same]
  cases Objective.ofHandle h with
  | error unknown => rfl
  | ok objective =>
      cases t.objection? h with
      | some reason => rfl
      | none =>
          have targets : (t.withWords words).toView.targets = t.toView.targets := rfl
          simp only [Except.mapError, Bind.bind, Except.bind, targets]
          cases objective.checkTargets t.toView.targets.toList with
          | error outside => rfl
          | ok _ => rfl

theorem size_cut_le (buffer : Option (Array Float)) (length : Nat)
    : (cut buffer length).size ≤ length := by
  rw [cut, Array.size_extract]
  omega

/-- An accepted job has no more scores and targets than its samples. -/
theorem trimmed_of_accept {h : Handle} {job : Kernel.Job}
    (accepted : Kernel.Job.accept h t = .ok job)
    : job.Trimmed := by
  obtain ⟨-, viewed, -⟩ := (Kernel.Job.accept_eq_ok_iff h t job).1 accepted
  obtain ⟨-, seen⟩ := (view_eq_ok_iff h t job.view).1 viewed
  constructor
  · rw [← seen]
    exact size_cut_le ..
  · rw [← seen]
    exact size_cut_le ..

theorem sameBins_of_accept (same : t.SameBins words) {h : Handle} {job : Kernel.Job}
    (accepted : Kernel.Job.accept h t = .ok job)
    : job.SameBins (t.withWords words).bins := by
  obtain ⟨-, viewed, -⟩ := (Kernel.Job.accept_eq_ok_iff h t job).1 accepted
  obtain ⟨-, seen⟩ := (view_eq_ok_iff h t job.view).1 viewed
  rw [Kernel.Job.SameBins, ← seen]
  exact same.bin

end Words

section Packed
variable {t : Transfer} {words : Array UInt64} {perWord samples : Nat}
variable (width : t.perWord.toInt = perWord) (count : t.sampleCount.toNat = samples)
include width count

theorem bins_of_words (packs : 1 ≤ perWord) (filled : samples ≠ 0) (given : t.words = some words)
    (enough : words.size = wordCount samples perWord)
    : t.bins = ⟨words, perWord⟩ := by
  have width : t.perWord.toInt.toNat = perWord := by omega
  have both : ¬(perWord = 0 ∨ samples = 0) := not_or.2 ⟨Nat.ne_of_gt packs, filled⟩
  rw [bins, width, count, if_neg both, given, Option.getD_some, ← enough, Array.extract_size]

/-- Words that are packed again have the same bins for the samples of the record. -/
theorem sameBins_of_repacked (packs : 1 ≤ perWord) (given : t.words = some words)
    (enough : words.size = wordCount samples perWord) {repacked : Array UInt64}
    (packed : packBins ((List.range samples).map (PackedBins.mk words perWord).binAt) perWord
      = .ok repacked)
    : t.SameBins repacked := by
  have present : t.words.isNone = false := by rw [given, Option.isNone_some]
  rcases Nat.eq_zero_or_pos samples with unsampled | filled
  · have unread : (t.withWords repacked).bins = t.bins :=
      (if_pos (Or.inr (count.trans unsampled))).trans (if_pos (Or.inr (count.trans unsampled))).symm
    exact ⟨present, fun i _ => by rw [unread], by rw [unread]⟩
  · have filled := Nat.ne_of_gt filled
    have size := (clearsPadding_repacked packed packs enough).size
    have old : t.bins = ⟨words, perWord⟩ := bins_of_words width count packs filled given enough
    have new : (t.withWords repacked).bins = ⟨repacked, perWord⟩ :=
      bins_of_words (t := t.withWords repacked) width count packs filled rfl (size.trans enough)
    have room := le_wordCount_mul (Nat.ne_of_gt packs) samples
    have covered : (PackedBins.mk words perWord).Covers samples := Or.inr (by rwa [enough])
    have covered' : (PackedBins.mk repacked perWord).Covers samples :=
      Or.inr (by rwa [size, enough])
    refine ⟨present, fun i inside => ?_, ?_⟩
    · rw [count] at inside
      rw [old, new, PackedBins.bin?_eq_binAt covered inside,
        PackedBins.bin?_eq_binAt covered' inside, binAt_repacked packed inside]
    · have same : (List.range samples).map (PackedBins.mk repacked perWord).binAt
          = (List.range samples).map (PackedBins.mk words perWord).binAt :=
        List.map_congr_left fun i member => binAt_repacked packed (List.mem_range.1 member)
      rw [old, new, count, PackedBins.maxBin?_eq_max? covered,
        PackedBins.maxBin?_eq_max? covered', same]

end Packed
end Transfer

-------------------------------------------------------------------------------
-- Calls with other words
-------------------------------------------------------------------------------

namespace Zone

/-- A zone carries out jobs alike that differ in no bin of a sample. -/
theorem traversal_withBins (zone : Zone) {job : Kernel.Job} {bins : PackedBins}
    (same : job.SameBins bins) (trimmed : job.Trimmed)
    : zone.traversal (job.withBins bins) = zone.traversal job := by
  cases zone with
  | cpu => exact Kernel.Scalar.traverse_withBins same
  | simd => exact Kernel.Lanes.traverse_withBins same trimmed
  | offload => exact Kernel.Staged.traverse_withBins same trimmed

theorem objection?_withBins (zone : Zone) (device : Device) (job : Kernel.Job) (bins : PackedBins)
    : zone.objection? device (job.withBins bins) = zone.objection? device job := by
  cases zone <;> rfl

section Words
variable {t : Transfer} {words : Array UInt64} (same : t.SameBins words)
include same

/-- With other words that have the same bins, a kernel comes to the same end and writes the same. -/
theorem kernelOn_withWords (zone : Zone) (device : Device) (h : Handle)
    : zone.kernelOn device h (t.withWords words)
      = ((zone.kernelOn device h t).1.withWords words, (zone.kernelOn device h t).2) := by
  have accept := Transfer.accept_withWords same h
  rw [kernelOn_eq, Kernel.ofTraversal, Kernel.ofTraversal, accept]
  cases judged : Kernel.Job.accept h t with
  | error reason => rfl
  | ok job =>
      have carried := zone.traversal_withBins (Transfer.sameBins_of_accept same judged)
        (Transfer.trimmed_of_accept judged)
      simp only [Except.map, objection?_withBins, carried]
      cases zone.objection? device job with
      | some reason => rfl
      | none =>
          cases zone.traversal job with
          | error p => rfl
          | ok p => rfl

theorem updateOn_withWords (zone : Zone) (device : Device) (handle : Option Handle)
    : zone.updateOn device handle (some (t.withWords words))
      = ((zone.updateOn device handle (some t)).1,
          (zone.updateOn device handle (some t)).2.map (·.withWords words)) := by
  cases handle with
  | none => rfl
  | some h =>
      simp only [updateOn, Kernel.guardUpdate, kernelOn_withWords same]
      rfl

end Words
end Zone

/-- Words are packed again from the bins that are read in them, with nothing but their padding
cleared; and no call in any zone tells the difference.
-/
theorem Zone.updateOn_repacked (words : Array UInt64) (perWord samples : Nat)
    (packs : 1 ≤ perWord) (narrow : perWord ≤ 64)
    (enough : words.size = (samples + perWord - 1) / perWord)
    : ∃ bins repacked,
        (List.range samples).mapM (PackedBins.mk words perWord).bin? = some bins
        ∧ packBins bins perWord = .ok repacked
        ∧ ClearsPadding words repacked perWord samples
        ∧ ∀ (zone : Zone) (device : Device) (handle : Option Handle) (t : Transfer),
            t.perWord.toInt = perWord
            → t.sampleCount.toNat = samples
            → t.words = some words
            → zone.updateOn device handle (some (t.withWords repacked))
              = ((zone.updateOn device handle (some t)).1,
                  (zone.updateOn device handle (some t)).2.map (·.withWords repacked)) := by
  have positive := Nat.ne_of_gt packs
  replace enough : words.size = wordCount samples perWord := by
    rw [enough, wordCount, if_neg positive]
  have covered : (PackedBins.mk words perWord).Covers samples := by
    refine Or.inr ?_
    rw [enough]
    exact le_wordCount_mul positive samples
  obtain ⟨repacked, packed⟩ := exists_repacked words samples packs narrow
  refine ⟨_, repacked, mapM_eq_some ?_, packed, clearsPadding_repacked packed packs enough, ?_⟩
  · intro i member
    exact PackedBins.bin?_eq_binAt covered (List.mem_range.1 member)
  · intro zone device handle t width count given
    have same := Transfer.sameBins_of_repacked width count packs given enough packed
    exact zone.updateOn_withWords same device handle

/-- Two samples whose word has more than their bins: an item that belongs to no sample, and the
topmost bit, which belongs to no item.
-/
def Transfer.overfull : Transfer :=
  { twoSamples with
    perWord := 21
    words := some #[0x80000000000001C8] }

theorem Zone.offload_reads_no_padding
    : (List.range 2).mapM (PackedBins.mk #[0x80000000000001C8] 21).bin? = some [0, 1]
      ∧ packBins [0, 1] 21 = .ok #[8]
      ∧ ClearsPadding #[0x80000000000001C8] #[8] 21 2
      ∧ Zone.offload.updateOn .host (some .squares) (some (Transfer.overfull.withWords #[8]))
        = ((Zone.offload.updateOn .host (some .squares) (some .overfull)).1,
            (Zone.offload.updateOn .host (some .squares) (some .overfull)).2.map
              (·.withWords #[8])) := by
  have known : (List.range 2).mapM (PackedBins.mk #[0x80000000000001C8] 21).bin? = some [0, 1] :=
    rfl
  have word : packBins [0, 1] 21 = .ok #[8] := by
    rw [packBins_eq_ok_iff]
    refine ⟨by decide, by decide, ?_⟩
    rw [blocksOf_eq_take_cons (by decide) (by decide)]
    simp [wordOf, bitsPerBin]
  obtain ⟨bins, repacked, read, packed, cleared, alike⟩ :=
    updateOn_repacked #[0x80000000000001C8] 21 2 (by decide) (by decide) (by decide)
  cases known.symm.trans read
  cases word.symm.trans packed
  exact ⟨known, word, cleared, alike .offload .host (some .squares) .overfull rfl rfl rfl⟩

end BoostZones
