import MultiscanDriver.PointLayout

/-!
# Frame builder

The body of `if(filled_segments >= ...)` in `run_receiver`: the front of each of the twelve
slots, in slot order, has its points serialized into `scan.data`, and `earliest_ts` folds the
fronts' `sec * 10^9 + nsec` in `uint64_t`. The stamp is the least such value; the width is the
data length over the stride. Clearing the slots belongs to the assembler.
-/
namespace MultiscanDriver

def segmentsPerFrame : Nat := 12

def uint64Max : Nat := 2 ^ 64 - 1

/-- `ts` of a front segment, computed in `uint64_t`. -/
def segmentTs (s : ScanSegmentParserOutput) : Nat :=
  (s.timestampSec.toNat * 1000000000 % 2 ^ 64 + s.timestampNsec.toNat) % 2 ^ 64

def earliestStep (earliest : Nat) (s : ScanSegmentParserOutput) : Nat :=
  if segmentTs s < earliest then segmentTs s else earliest

def segmentData (e : Nat) (s : ScanSegmentParserOutput) : List UInt8 :=
  s.scandata.flatMap fun g => g.scanlines.flatMap fun l => l.points.flatMap (pointRecord e)

/-- The `for(auto& segment_queue : samples)` loop over the slots. -/
def assembleFrame (e : Nat) : List (List ScanSegmentParserOutput) → List UInt8 × Nat →
    Except Fault (List UInt8 × Nat)
  | [], acc => .ok acc
  | [] :: _, _ => .error .frontOfEmptySlot
  | (front :: _) :: rest, (data, earliest) =>
    assembleFrame e rest (data ++ segmentData e front, earliestStep earliest front)

def frameStamp (earliest : Nat) : Time :=
  ⟨int32 (earliest / 1000000000), UInt32.ofNat (earliest % 1000000000)⟩

def pointCloud (cfg : Config) (e : Nat) (data : List UInt8) (earliest : Nat) : PointCloud2 where
  header := ⟨frameStamp earliest, cfg.lidarFrameId⟩
  height := 1
  width := UInt32.ofNat (data.length / pointByteLen e)
  fields := scanFields e
  isBigendian := false
  pointStep := UInt32.ofNat (pointByteLen e)
  rowStep := UInt32.ofNat data.length
  data := data
  isDense := true

def buildFrame (cfg : Config) (e : Nat) (samples : Fin 12 → List ScanSegmentParserOutput) :
    Except Fault PointCloud2 :=
  (assembleFrame e (List.ofFn samples) ([], uint64Max)).map fun r => pointCloud cfg e r.1 r.2

theorem segmentData_eq (e : Nat) (s : ScanSegmentParserOutput) :
    segmentData e s = s.points.flatMap (pointRecord e) := by
  simp [segmentData, ScanSegmentParserOutput.points, List.flatMap_assoc]

theorem assembleFrame_fronts (e : Nat) {slots : List (List ScanSegmentParserOutput)}
    {fronts : List ScanSegmentParserOutput} (h : slots.map List.head? = fronts.map some)
    (acc : List UInt8 × Nat) :
    assembleFrame e slots acc =
      .ok (acc.1 ++ fronts.flatMap (segmentData e), fronts.foldl earliestStep acc.2) := by
  induction slots generalizing fronts acc with
  | nil =>
    obtain rfl : fronts = [] := List.map_eq_nil_iff.mp h.symm
    simp [assembleFrame]
  | cons slot rest ih =>
    obtain ⟨g, fronts, rfl⟩ := List.exists_cons_of_length_eq_add_one
      (by simpa using (congrArg List.length h).symm)
    simp only [List.map_cons, List.cons.injEq] at h
    obtain ⟨f, tl, rfl⟩ : ∃ f tl, slot = f :: tl := by
      cases slot with
      | nil => simp at h
      | cons f tl => exact ⟨f, tl, rfl⟩
    obtain rfl : f = g := by simpa using h.1
    simp [assembleFrame, ih h.2]

theorem assembleFrame_of_empty (e : Nat) :
    ∀ {slots : List (List ScanSegmentParserOutput)}, [] ∈ slots → ∀ acc,
    assembleFrame e slots acc = .error .frontOfEmptySlot
  | [] :: _, _, _ => rfl
  | (_ :: _) :: _, h, (_, _) =>
    assembleFrame_of_empty e ((List.mem_cons.mp h).resolve_left (by simp)) _

theorem buildFrame_fronts (cfg : Config) (e : Nat) {samples : Fin 12 → List ScanSegmentParserOutput}
    (fronts : Fin 12 → ScanSegmentParserOutput) (h : ∀ i, (samples i).head? = some (fronts i)) :
    buildFrame cfg e samples = .ok (pointCloud cfg e ((List.ofFn fronts).flatMap (segmentData e))
      ((List.ofFn fronts).foldl earliestStep uint64Max)) := by
  have hmap : (List.ofFn samples).map List.head? = (List.ofFn fronts).map some := by
    rw [List.map_ofFn, List.map_ofFn]
    exact congrArg List.ofFn (funext h)
  rw [buildFrame, assembleFrame_fronts e hmap]
  simp only [Except.map, List.nil_append]

def LexLe (s t : ScanSegmentParserOutput) : Prop :=
  s.timestampSec.toNat < t.timestampSec.toNat ∨
    (s.timestampSec.toNat = t.timestampSec.toNat ∧ s.timestampNsec.toNat ≤ t.timestampNsec.toNat)

theorem segmentTs_exact (s : ScanSegmentParserOutput) :
    segmentTs s = s.timestampSec.toNat * 10 ^ 9 + s.timestampNsec.toNat := by
  have ha := s.timestampSec.toNat_lt_size
  have hb := s.timestampNsec.toNat_lt_size
  simp only [UInt32.size] at ha hb
  have h1 : s.timestampSec.toNat * 1000000000 < 2 ^ 64 := by omega
  have h2 : s.timestampSec.toNat * 1000000000 + s.timestampNsec.toNat < 2 ^ 64 := by omega
  rw [segmentTs, Nat.mod_eq_of_lt h1, Nat.mod_eq_of_lt h2]
  rfl

theorem segmentTs_lt_uint64Max (s : ScanSegmentParserOutput) : segmentTs s < uint64Max := by
  have := s.timestampSec.toNat_lt_size
  have := s.timestampNsec.toNat_lt_size
  simp only [segmentTs_exact, uint64Max, UInt32.size] at *
  omega

theorem segmentTs_le_iff_lexLe {s t : ScanSegmentParserOutput}
    (hs : s.timestampNsec.toNat < 10 ^ 9) (ht : t.timestampNsec.toNat < 10 ^ 9) :
    segmentTs s ≤ segmentTs t ↔ LexLe s t := by
  rw [segmentTs_exact, segmentTs_exact, LexLe]
  omega

theorem foldl_earliestStep_le (l : List ScanSegmentParserOutput) (m : Nat) :
    l.foldl earliestStep m ≤ m ∧ ∀ s ∈ l, l.foldl earliestStep m ≤ segmentTs s := by
  induction l generalizing m with
  | nil => simp
  | cons s l ih =>
    obtain ⟨h1, h2⟩ := ih (earliestStep m s)
    have hstep : earliestStep m s ≤ m ∧ earliestStep m s ≤ segmentTs s := by
      unfold earliestStep; split_ifs <;> omega
    refine ⟨h1.trans hstep.1, fun t ht => ?_⟩
    rcases List.mem_cons.mp ht with rfl | ht
    · exact h1.trans hstep.2
    · exact h2 t ht

theorem foldl_earliestStep_attained (l : List ScanSegmentParserOutput) (m : Nat) :
    l.foldl earliestStep m = m ∨ ∃ s ∈ l, l.foldl earliestStep m = segmentTs s := by
  induction l generalizing m with
  | nil => simp
  | cons s l ih =>
    rcases ih (earliestStep m s) with h | ⟨t, ht, h⟩
    · by_cases hlt : segmentTs s < m
      · exact .inr ⟨s, List.mem_cons_self _ _, h.trans (if_pos hlt)⟩
      · exact .inl (h.trans (if_neg hlt))
    · exact .inr ⟨t, List.mem_cons_of_mem _ ht, h⟩

theorem earliest_is_least {l : List ScanSegmentParserOutput} (hne : l ≠ []) :
    ∃ s ∈ l, l.foldl earliestStep uint64Max = segmentTs s ∧
      ∀ t ∈ l, segmentTs s ≤ segmentTs t := by
  obtain ⟨hm, hle⟩ := foldl_earliestStep_le l uint64Max
  obtain ⟨s₀, hs₀⟩ := List.exists_mem_of_ne_nil l hne
  rcases foldl_earliestStep_attained l uint64Max with h | ⟨s, hs, h⟩
  · have := hle s₀ hs₀
    have := segmentTs_lt_uint64Max s₀
    omega
  · exact ⟨s, hs, h, fun t ht => by rw [← h]; exact hle t ht⟩

theorem frameStamp_segmentTs {s : ScanSegmentParserOutput} (h : s.timestampNsec.toNat < 10 ^ 9) :
    frameStamp (segmentTs s) = ⟨int32 s.timestampSec.toNat, s.timestampNsec⟩ := by
  have hdiv : (s.timestampSec.toNat * 10 ^ 9 + s.timestampNsec.toNat) / 1000000000 =
      s.timestampSec.toNat := by omega
  have hmod : (s.timestampSec.toNat * 10 ^ 9 + s.timestampNsec.toNat) % 1000000000 =
      s.timestampNsec.toNat := by omega
  rw [frameStamp, segmentTs_exact, hdiv, hmod, uint32_ofNat_toNat]

/-- For every frame the builder completes whose fronts carry nanoseconds below 10^9, no
`uint64_t` step of the stamp computation wraps, and the published stamp is the `(sec, nsec)`
of the lexicographically least front, `sec` as the signed 32-bit field holds it. -/
theorem frame_stamp_of_least_front (cfg : Config) (e : Nat)
    (samples : Fin 12 → List ScanSegmentParserOutput) (fronts : Fin 12 → ScanSegmentParserOutput)
    (hfront : ∀ i, (samples i).head? = some (fronts i))
    (hnsec : ∀ i, (fronts i).timestampNsec.toNat < 10 ^ 9) :
    (∀ i, segmentTs (fronts i) =
      (fronts i).timestampSec.toNat * 10 ^ 9 + (fronts i).timestampNsec.toNat) ∧
    ∃ i, (∀ j, LexLe (fronts i) (fronts j)) ∧ ∃ cloud, buildFrame cfg e samples = .ok cloud ∧
      cloud.header.stamp = ⟨int32 (fronts i).timestampSec.toNat, (fronts i).timestampNsec⟩ := by
  refine ⟨fun i => segmentTs_exact _, ?_⟩
  obtain ⟨s, hs, hmin, hle⟩ := earliest_is_least (show List.ofFn fronts ≠ [] by simp)
  obtain ⟨i, rfl⟩ := (List.mem_ofFn _ _).mp hs
  refine ⟨i, fun j => (segmentTs_le_iff_lexLe (hnsec i) (hnsec j)).mp
    (hle _ ((List.mem_ofFn _ _).mpr ⟨j, rfl⟩)), _, buildFrame_fronts cfg e fronts hfront, ?_⟩
  simp only [pointCloud, hmin, frameStamp_segmentTs (hnsec i)]

theorem frame_stamp_of_least_front_tied_on_sec :
    let fronts : Fin 12 → ScanSegmentParserOutput := fun i =>
      { timestampSec := 1700000000, timestampNsec := UInt32.ofNat (500000000 - 1000 * i.val) }
    (∀ i, (fronts i).timestampNsec.toNat < 10 ^ 9) ∧
    (∀ i, segmentTs (fronts i) =
      (fronts i).timestampSec.toNat * 10 ^ 9 + (fronts i).timestampNsec.toNat) ∧
    ∃ i, (∀ j, LexLe (fronts i) (fronts j)) ∧ ∃ cloud,
      buildFrame {} pointFieldEnableAll (fun i => [fronts i]) = .ok cloud ∧
      cloud.header.stamp = ⟨int32 (fronts i).timestampSec.toNat, (fronts i).timestampNsec⟩ := by
  intro fronts
  have hnsec : ∀ i, (fronts i).timestampNsec.toNat < 10 ^ 9 := by decide
  exact ⟨hnsec, frame_stamp_of_least_front {} pointFieldEnableAll (fun i => [fronts i]) fronts
    (fun _ => rfl) hnsec⟩

end MultiscanDriver
