import MultiscanDriver.Assembler

/-!
# Frames as rounds of segments

What the assembler is for, stated without slots or masks: the segments with scan data are cut
into rounds, a round ends once all twelve indices have been seen since the previous cut, and it
publishes one cloud of the last segment of each index. IMU samples are published as they arrive.
-/
namespace MultiscanDriver

def lastOfIndex (round : List ScanSegmentParserOutput) (i : Fin 12) :
    Option ScanSegmentParserOutput :=
  round.find? fun s => s.segmentIndex.val = i.val

/-- The cloud of a completed round: the records of the last segment of each index, for
`i = 0..11`, group by group, scanline by scanline and point by point; the width is the number
of points and the row step the number of bytes. -/
def referenceCloud (cfg : Config) (e : Nat) (lasts : Fin 12 → ScanSegmentParserOutput) :
    PointCloud2 :=
  let points := (List.ofFn lasts).flatMap ScanSegmentParserOutput.points
  let data := points.flatMap (pointRecord e)
  { header := ⟨frameStamp ((List.ofFn lasts).foldl earliestStep uint64Max), cfg.lidarFrameId⟩
    height := 1
    width := UInt32.ofNat points.length
    fields := scanFields e
    isBigendian := false
    pointStep := UInt32.ofNat (pointByteLen e)
    rowStep := UInt32.ofNat data.length
    data := data
    isDense := true }

/-- One segment of the reference: its IMU message at once; a segment with scan data joins the
round, and a round that now holds every index publishes its cloud and is cut. -/
def referenceStep (cfg : Config) (e : Nat) (round : List ScanSegmentParserOutput)
    (seg : ScanSegmentParserOutput) : List ScanSegmentParserOutput × List Published :=
  let imu := if seg.imudata.valid then [.imu (imuMessage cfg seg)] else []
  let round := if seg.scandata.length > 0 then seg :: round else round
  if h : ∀ i, (lastOfIndex round i).isSome then
    ([], imu ++ [.scan (referenceCloud cfg e fun i => (lastOfIndex round i).get (h i))])
  else (round, imu)

def referenceRun (cfg : Config) (e : Nat) :
    List ScanSegmentParserOutput → List ScanSegmentParserOutput → List Published
  | _, [] => []
  | round, seg :: segs =>
    (referenceStep cfg e round seg).2 ++ referenceRun cfg e (referenceStep cfg e round seg).1 segs

theorem lastOfIndex_cons (s : ScanSegmentParserOutput) (round : List ScanSegmentParserOutput)
    (i : Fin 12) : lastOfIndex (s :: round) i =
      if s.segmentIndex.val = i.val then some s else lastOfIndex round i := by
  by_cases h : s.segmentIndex.val = i.val <;> simp [lastOfIndex, List.find?_cons, h]

theorem referenceCloud_eq (cfg : Config) (e : Nat) (lasts : Fin 12 → ScanSegmentParserOutput) :
    pointCloud cfg e ((List.ofFn fun i => (lasts i).withoutImu).flatMap (segmentData e))
      ((List.ofFn fun i => (lasts i).withoutImu).foldl earliestStep uint64Max) =
    referenceCloud cfg e lasts := by
  have hpos : 0 < pointByteLen e := by unfold pointByteLen numPointFields numContiguousPointFields; omega
  have hdata : (List.ofFn fun i => (lasts i).withoutImu).flatMap (segmentData e) =
      ((List.ofFn lasts).flatMap ScanSegmentParserOutput.points).flatMap (pointRecord e) := by
    simp only [List.flatMap_assoc, segmentData_eq, List.ofFn_eq_map, List.flatMap_map,
      withoutImu_points]
  have hts : (List.ofFn fun i => (lasts i).withoutImu).foldl earliestStep uint64Max =
      (List.ofFn lasts).foldl earliestStep uint64Max := by
    simp only [List.ofFn_eq_map, List.foldl_map, earliestStep, segmentTs, withoutImu_timestampSec,
      withoutImu_timestampNsec]
  have hlen : (((List.ofFn lasts).flatMap ScanSegmentParserOutput.points).flatMap
      (pointRecord e)).length / pointByteLen e =
      ((List.ofFn lasts).flatMap ScanSegmentParserOutput.points).length := by
    have h4 : (List.length ∘ pointRecord e) = fun _ => pointByteLen e := by
      funext p; simp
    rw [List.length_flatMap, h4]
    simp [Nat.mul_div_cancel _ hpos]
  simp only [pointCloud, referenceCloud, hdata, hts, hlen]

structure Tracks (st : Assembler) (round : List ScanSegmentParserOutput) : Prop where
  front : ∀ i, (st.samples i).head? = (lastOfIndex round i).map ScanSegmentParserOutput.withoutImu
  bit : ∀ i : Fin 12, st.filledSegments.testBit i ↔ (lastOfIndex round i).isSome
  mask_lt : st.filledSegments < 2 ^ 12

/-- The assembler state standing for a round not yet complete. -/
structure Represents (st : Assembler) (round : List ScanSegmentParserOutput)
    extends Tracks st round : Prop where
  incomplete : ¬ ∀ i, (lastOfIndex round i).isSome

theorem represents_init : Represents .init [] :=
  ⟨⟨fun _ => rfl, fun i => by simp [Assembler.init, lastOfIndex], by decide⟩,
    fun h => by simpa [lastOfIndex] using h 0⟩

theorem Tracks.full_iff {st : Assembler} {round : List ScanSegmentParserOutput}
    (h : Tracks st round) :
    allSegmentsFilled ≤ st.filledSegments ↔ ∀ i, (lastOfIndex round i).isSome := by
  rw [MultiscanDriver.full_iff h.mask_lt]
  exact forall_congr' fun i => h.bit i

theorem Tracks.push {st : Assembler} {round : List ScanSegmentParserOutput}
    (h : Tracks st round) (n : Nat) {seg : ScanSegmentParserOutput} {i : Fin 12}
    (hi : seg.segmentIndex.val = i.val) : Tracks (st.push n i seg) (seg :: round) := by
  refine ⟨fun j => ?_, fun j => ?_, push_lt h.mask_lt i.2⟩
  · by_cases hji : j = i
    · subst hji; simp [lastOfIndex_cons, hi]
    · have : seg.segmentIndex.val ≠ j.val := by rw [hi]; exact fun h' => hji (Fin.ext (by omega))
      rw [push_samples_of_ne _ _ _ hji, lastOfIndex_cons, if_neg this, h.front j]
  · rw [push_testBit, lastOfIndex_cons, Bool.or_eq_true, h.bit j, decide_eq_true_iff]
    by_cases hij : i.val = j.val
    · simp [hij, hi]
    · simp [hij, hi]

/-- One segment: the assembler publishes what the reference publishes and keeps standing for
the reference's round. -/
theorem step_refines {cfg : Config} {e : Nat} {st : Assembler}
    {round : List ScanSegmentParserOutput} {seg : ScanSegmentParserOutput}
    (hmax : 1 ≤ cfg.maxSegmentBuffering.val) (hv : ValidIndex seg) (hr : Represents st round) :
    ∃ st', processSegment cfg e st seg = .ok (st', (referenceStep cfg e round seg).2) ∧
      Represents st' (referenceStep cfg e round seg).1 := by
  obtain ⟨st₁, hins, ht⟩ : ∃ st₁, insertScan cfg st seg = .ok st₁ ∧
      Tracks st₁ (if seg.scandata.length > 0 then seg :: round else round) := by
    unfold insertScan
    split
    · obtain ⟨i, hi⟩ : ∃ i : Fin 12, seg.segmentIndex.val = i.val :=
        ⟨⟨seg.segmentIndex.val.toNat, by have := hv.2; omega⟩, by have := hv.1; simp; omega⟩
      have hn : 0 < sizeT cfg.maxSegmentBuffering := sizeT_pos (by omega)
      exact ⟨_, insertSegment_of_valid i (by rw [sizeT_of_nonneg hv.1, hi]; simp) hn,
        hr.toTracks.push _ hi⟩
    · exact ⟨st, rfl, hr.toTracks⟩
  rw [processSegment_eq, hins]
  by_cases hc : ∀ i, (lastOfIndex (if seg.scandata.length > 0 then seg :: round else round) i).isSome
  · have hstep : referenceStep cfg e round seg = ([], imuExport cfg seg ++
        [.scan (referenceCloud cfg e fun i => (lastOfIndex _ i).get (hc i))]) := by
      simp only [referenceStep, dif_pos hc, imuExport]
    rw [hstep, Except.bind, if_pos (ht.full_iff.mpr hc), buildFrame_fronts cfg e _
      fun i => by rw [ht.front i, Option.map_eq_some']; exact ⟨_, (Option.some_get (hc i)).symm, rfl⟩,
      referenceCloud_eq]
    exact ⟨_, rfl, represents_init⟩
  · have hstep : referenceStep cfg e round seg =
        (if seg.scandata.length > 0 then seg :: round else round, imuExport cfg seg) := by
      simp only [referenceStep, dif_neg hc, imuExport]
    rw [hstep, Except.bind, if_neg (mt ht.full_iff.mp hc)]
    exact ⟨_, rfl, ht, hc⟩

theorem run_refines (cfg : Config) (e : Nat) (hmax : 1 ≤ cfg.maxSegmentBuffering.val) :
    ∀ (segs : List ScanSegmentParserOutput) {st : Assembler} {round : List ScanSegmentParserOutput},
      Represents st round → (∀ seg ∈ segs, ValidIndex seg) →
      ∃ st', processSegments cfg e st segs = .ok (st', referenceRun cfg e round segs)
  | [], st, _, _, _ => ⟨st, rfl⟩
  | seg :: segs, _, _, hr, hv => by
    obtain ⟨st₁, h₁, hr₁⟩ := step_refines hmax (hv seg (List.mem_cons_self _ _)) hr
    obtain ⟨st', h'⟩ := run_refines cfg e hmax segs hr₁ fun s hs => hv s (List.mem_cons_of_mem _ hs)
    exact ⟨st', by rw [processSegments_cons, h₁]; simp [Except.bind, h', Except.map, referenceRun]⟩

/-- For every depth of at least one and every sequence of decoded segments with indices in
`0..11`, in any order and with any duplicates or bursts, the assembler publishes exactly the
reference's messages: one IMU message per valid sample, at once, and one cloud per completed
round, right after its completing segment, built from the last segment of each index in that
round; none for a trailing incomplete round. -/
theorem assembler_publishes_rounds (cfg : Config) (e : Nat)
    (hmax : 1 ≤ cfg.maxSegmentBuffering.val) (segs : List ScanSegmentParserOutput)
    (hidx : ∀ seg ∈ segs, ValidIndex seg) :
    ∃ st, processSegments cfg e .init segs = .ok (st, referenceRun cfg e [] segs) :=
  run_refines cfg e hmax segs represents_init hidx

theorem assembler_publishes_rounds_over_a_round :
    let segs : List ScanSegmentParserOutput :=
      ((List.finRange 12).map fun i => { scandata := [⟨[]⟩], segmentIndex := ⟨i.val, by omega⟩ }) ++
        [{ scandata := [⟨[]⟩], segmentIndex := ⟨3, by decide⟩ }]
    1 ≤ ({} : Config).maxSegmentBuffering.val ∧ (∀ seg ∈ segs, ValidIndex seg) ∧
      ∃ st, processSegments {} pointFieldEnableAll .init segs =
        .ok (st, referenceRun {} pointFieldEnableAll [] segs) := by
  intro segs
  have hidx : ∀ seg ∈ segs, ValidIndex seg := by
    simp only [segs, List.mem_append, List.mem_map, List.mem_finRange, true_and, List.mem_singleton]
    rintro _ (⟨i, rfl⟩ | rfl)
    · exact ⟨Int.natCast_nonneg _, by have := i.2; dsimp only; omega⟩
    · exact ⟨by decide, by decide⟩
  exact ⟨by decide, hidx, assembler_publishes_rounds {} pointFieldEnableAll (by decide) _ hidx⟩

end MultiscanDriver
