import MultiscanDriver.FrameBuilder

/-!
# Ring-buffer assembler

The part of `run_receiver` after a segment is decoded: the IMU export, the slot insert cut back
to `max_segment_buffers`, and the frame once all twelve presence bits are set. Nothing checks the
index or the depth; the faults are what the C++ leaves undefined for them.
-/
namespace MultiscanDriver

/-- `samples` and `filled_segments`, the assembler state of one connection. -/
structure Assembler where
  samples : Fin 12 → List ScanSegmentParserOutput
  filledSegments : Nat

def Assembler.init : Assembler := ⟨fun _ => [], 0⟩

def allSegmentsFilled : Nat := (1 <<< segmentsPerFrame) - 1

/-- `emplace_front` of a fresh element, then `resize(n)` once the slot holds more than `n`. -/
def pushFront (n : Nat) (slot : List ScanSegmentParserOutput) : List ScanSegmentParserOutput :=
  let slot := ({} : ScanSegmentParserOutput) :: slot
  if slot.length > n then slot.take n else slot

/-- `samples[idx]` gets a fresh front cut back to `max_segment_buffers`, the segment is
swapped into that front, and `filled_segments |= 1 << idx`. -/
def insertSegment (cfg : Config) (st : Assembler) (seg : ScanSegmentParserOutput) :
    Except Fault Assembler :=
  let idx := sizeT seg.segmentIndex
  if h : idx < 12 then
    match pushFront (sizeT cfg.maxSegmentBuffering) (st.samples ⟨idx, h⟩) with
    | [] => .error .frontOfEmptySlot
    | front :: rest =>
      .ok { samples := Function.update st.samples ⟨idx, h⟩
              ((swapSegmentsNoIMU front seg).1 :: rest)
            filledSegments := st.filledSegments ||| 1 <<< idx }
  else .error (.slotIndexOutOfRange idx)

def imuExport (cfg : Config) (seg : ScanSegmentParserOutput) : List Published :=
  if seg.imudata.valid then [.imu (imuMessage cfg seg)] else []

def insertScan (cfg : Config) (st : Assembler) (seg : ScanSegmentParserOutput) :
    Except Fault Assembler :=
  if seg.scandata.length > 0 then insertSegment cfg st seg else pure st

/-- One decoded segment through the IMU export, the slot insert and the completion check. -/
def processSegment (cfg : Config) (e : Nat) (st : Assembler) (seg : ScanSegmentParserOutput) :
    Except Fault (Assembler × List Published) := do
  let imu := imuExport cfg seg
  let st ← insertScan cfg st seg
  if st.filledSegments ≥ allSegmentsFilled then
    let cloud ← buildFrame cfg e st.samples
    pure (Assembler.init, imu ++ [.scan cloud])
  else
    pure (st, imu)

def processSegments (cfg : Config) (e : Nat) :
    Assembler → List ScanSegmentParserOutput → Except Fault (Assembler × List Published)
  | st, [] => .ok (st, [])
  | st, seg :: segs => do
    let (st, out) ← processSegment cfg e st seg
    let (st, outs) ← processSegments cfg e st segs
    pure (st, out ++ outs)

/-- States the assembler reaches from the empty one, one decoded segment at a time. -/
inductive Reachable (cfg : Config) (e : Nat) : Assembler → Prop where
  | init : Reachable cfg e .init
  | step {st st' seg out} : Reachable cfg e st → processSegment cfg e st seg = .ok (st', out) →
      Reachable cfg e st'

def ValidIndex (seg : ScanSegmentParserOutput) : Prop :=
  0 ≤ seg.segmentIndex.val ∧ seg.segmentIndex.val < 12

theorem processSegments_cons (cfg : Config) (e : Nat) (st : Assembler)
    (seg : ScanSegmentParserOutput) (segs : List ScanSegmentParserOutput) :
    processSegments cfg e st (seg :: segs) =
      (processSegment cfg e st seg).bind fun r =>
        (processSegments cfg e r.1 segs).map fun r' => (r'.1, r.2 ++ r'.2) := by
  simp only [processSegments, bind, Except.bind, Except.map]
  split <;> rfl

theorem pushFront_of_pos {n : Nat} (hn : 0 < n) (slot : List ScanSegmentParserOutput) :
    pushFront n slot = {} :: slot.take (n - 1) := by
  obtain ⟨m, rfl⟩ : ∃ m, n = m + 1 := ⟨n - 1, by omega⟩
  simp only [pushFront, List.length_cons, Nat.add_sub_cancel]
  split_ifs with h
  · rfl
  · rw [List.take_of_length_le (by omega)]

theorem pushFront_zero (slot : List ScanSegmentParserOutput) : pushFront 0 slot = [] := by
  simp only [pushFront, List.length_cons, gt_iff_lt, Nat.zero_lt_succ, if_true, List.take_zero]

def Assembler.push (st : Assembler) (n : Nat) (i : Fin 12) (seg : ScanSegmentParserOutput) :
    Assembler :=
  ⟨Function.update st.samples i (seg.withoutImu :: (st.samples i).take (n - 1)),
    st.filledSegments ||| 1 <<< i.val⟩

theorem insertSegment_of_valid {cfg : Config} {st : Assembler} {seg : ScanSegmentParserOutput}
    (i : Fin 12) (hi : sizeT seg.segmentIndex = i.val) (hn : 0 < sizeT cfg.maxSegmentBuffering) :
    insertSegment cfg st seg = .ok (st.push (sizeT cfg.maxSegmentBuffering) i seg) := by
  obtain ⟨i, hi'⟩ := i
  subst hi
  simp only [insertSegment, dif_pos hi', pushFront_of_pos hn]
  rfl

theorem insertSegment_of_outOfRange {cfg : Config} {st : Assembler}
    {seg : ScanSegmentParserOutput} (hi : 12 ≤ sizeT seg.segmentIndex) :
    insertSegment cfg st seg = .error (.slotIndexOutOfRange (sizeT seg.segmentIndex)) := by
  simp only [insertSegment, dif_neg (Nat.not_lt.mpr hi)]

theorem insertSegment_of_zeroDepth {cfg : Config} {st : Assembler}
    {seg : ScanSegmentParserOutput} (hi : sizeT seg.segmentIndex < 12)
    (hn : sizeT cfg.maxSegmentBuffering = 0) :
    insertSegment cfg st seg = .error .frontOfEmptySlot := by
  simp only [insertSegment, dif_pos hi, hn, pushFront_zero]

theorem insertSegment_eq_ok {cfg : Config} {st st₁ : Assembler} {seg : ScanSegmentParserOutput}
    (h : insertSegment cfg st seg = .ok st₁) :
    ∃ i : Fin 12, sizeT seg.segmentIndex = i.val ∧ 0 < sizeT cfg.maxSegmentBuffering ∧
      st₁ = st.push (sizeT cfg.maxSegmentBuffering) i seg := by
  by_cases hi : sizeT seg.segmentIndex < 12
  · by_cases hn : 0 < sizeT cfg.maxSegmentBuffering
    · rw [insertSegment_of_valid ⟨_, hi⟩ rfl hn] at h
      exact ⟨⟨_, hi⟩, rfl, hn, (Except.ok.inj h).symm⟩
    · rw [insertSegment_of_zeroDepth hi (by omega)] at h
      cases h
  · rw [insertSegment_of_outOfRange (by omega)] at h
    cases h

theorem processSegment_eq (cfg : Config) (e : Nat) (st : Assembler)
    (seg : ScanSegmentParserOutput) :
    processSegment cfg e st seg = (insertScan cfg st seg).bind fun st₁ =>
      if allSegmentsFilled ≤ st₁.filledSegments then
        (buildFrame cfg e st₁.samples).bind fun cloud =>
          .ok (Assembler.init, imuExport cfg seg ++ [.scan cloud])
      else .ok (st₁, imuExport cfg seg) := rfl

theorem processSegment_eq_ok {cfg : Config} {e : Nat} {st st' : Assembler}
    {seg : ScanSegmentParserOutput} {out : List Published}
    (h : processSegment cfg e st seg = .ok (st', out)) :
    ∃ st₁, insertScan cfg st seg = .ok st₁ ∧
      ((allSegmentsFilled ≤ st₁.filledSegments ∧ ∃ cloud,
          buildFrame cfg e st₁.samples = .ok cloud ∧ st' = .init ∧
          out = imuExport cfg seg ++ [.scan cloud]) ∨
        (st₁.filledSegments < allSegmentsFilled ∧ st' = st₁ ∧ out = imuExport cfg seg)) := by
  rw [processSegment_eq] at h
  cases hi : insertScan cfg st seg with
  | error f => rw [hi] at h; cases h
  | ok st₁ =>
    rw [hi] at h
    refine ⟨st₁, rfl, ?_⟩
    by_cases hf : allSegmentsFilled ≤ st₁.filledSegments
    · rw [Except.bind, if_pos hf] at h
      cases hb : buildFrame cfg e st₁.samples with
      | error f => rw [hb] at h; cases h
      | ok cloud =>
        rw [hb] at h
        cases h
        exact .inl ⟨hf, cloud, rfl, rfl, rfl⟩
    · rw [Except.bind, if_neg hf] at h
      cases h
      exact .inr ⟨by omega, rfl, rfl⟩

theorem allSegmentsFilled_eq : allSegmentsFilled = 2 ^ 12 - 1 := rfl

theorem testBit_push (m i j : Nat) : (m ||| 1 <<< i).testBit j = (m.testBit j || decide (i = j)) := by
  rw [Nat.testBit_or, Nat.one_shiftLeft, Nat.testBit_two_pow]

theorem push_lt {m i : Nat} (hm : m < 2 ^ 12) (hi : i < 12) : m ||| 1 <<< i < 2 ^ 12 :=
  Nat.or_lt_two_pow hm (by rw [Nat.one_shiftLeft]; exact Nat.pow_lt_pow_right (by decide) hi)

theorem full_iff {m : Nat} (hm : m < 2 ^ 12) :
    allSegmentsFilled ≤ m ↔ ∀ j : Fin 12, m.testBit j := by
  rw [allSegmentsFilled_eq]
  constructor
  · intro h j
    obtain rfl : m = 2 ^ 12 - 1 := by omega
    rw [Nat.testBit_two_pow_sub_one]
    exact decide_eq_true j.2
  · intro h
    suffices m = 2 ^ 12 - 1 by omega
    apply Nat.eq_of_testBit_eq
    intro i
    rw [Nat.testBit_two_pow_sub_one]
    by_cases hi : i < 12
    · simpa [hi] using h ⟨i, hi⟩
    · simp only [hi, decide_False]
      exact Nat.testBit_lt_two_pow (lt_of_lt_of_le hm (Nat.pow_le_pow_right (by decide) (by omega)))

@[simp] theorem push_samples_self (st : Assembler) (n : Nat) (i : Fin 12)
    (seg : ScanSegmentParserOutput) :
    (st.push n i seg).samples i = seg.withoutImu :: (st.samples i).take (n - 1) := by
  simp [Assembler.push]

@[simp] theorem push_samples_of_ne (st : Assembler) (n : Nat) {i j : Fin 12}
    (seg : ScanSegmentParserOutput) (h : j ≠ i) : (st.push n i seg).samples j = st.samples j := by
  simp [Assembler.push, h]

theorem push_testBit (st : Assembler) (n : Nat) (i : Fin 12) (seg : ScanSegmentParserOutput)
    (j : Nat) : (st.push n i seg).filledSegments.testBit j =
      (st.filledSegments.testBit j || decide (i.val = j)) :=
  testBit_push _ _ _

/-- Between two segments the mask is not full, and a set bit marks a non-empty slot. -/
structure InBounds (st : Assembler) : Prop where
  mask_lt : st.filledSegments < allSegmentsFilled
  bit_nonempty : ∀ i : Fin 12, st.filledSegments.testBit i → st.samples i ≠ []

theorem inBounds_init : InBounds .init :=
  ⟨by decide, fun i h => by simp [Assembler.init] at h⟩

theorem push_bit_nonempty {st : Assembler} (h : ∀ i : Fin 12, st.filledSegments.testBit i →
    st.samples i ≠ []) (n : Nat) (i : Fin 12) (seg : ScanSegmentParserOutput) :
    ∀ j : Fin 12, (st.push n i seg).filledSegments.testBit j → (st.push n i seg).samples j ≠ [] := by
  intro j hj
  by_cases hji : j = i
  · subst hji; simp
  · rw [push_testBit] at hj
    rw [push_samples_of_ne _ _ _ hji]
    exact h j (by simpa [Fin.val_ne_of_ne (Ne.symm hji)] using hj)

theorem buildFrame_ok_of_nonempty (cfg : Config) (e : Nat)
    (samples : Fin 12 → List ScanSegmentParserOutput) (h : ∀ i, samples i ≠ []) :
    ∃ cloud, buildFrame cfg e samples = .ok cloud :=
  ⟨_, buildFrame_fronts cfg e (fun i => (samples i).head (h i))
    fun i => List.head?_eq_head (h i)⟩

theorem insertScan_bounds {cfg : Config} {st st₁ : Assembler} {seg : ScanSegmentParserOutput}
    (hb : InBounds st) (h : insertScan cfg st seg = .ok st₁) :
    st₁.filledSegments < 2 ^ 12 ∧
      ∀ i : Fin 12, st₁.filledSegments.testBit i → st₁.samples i ≠ [] := by
  have hlt : st.filledSegments < 2 ^ 12 := by have := hb.mask_lt; rw [allSegmentsFilled_eq] at this; omega
  unfold insertScan at h
  split at h
  · obtain ⟨i, -, -, rfl⟩ := insertSegment_eq_ok h
    exact ⟨push_lt hlt i.2, push_bit_nonempty hb.bit_nonempty _ _ _⟩
  · cases h
    exact ⟨hlt, hb.bit_nonempty⟩

theorem processSegment_inBounds {cfg : Config} {e : Nat} {st st' : Assembler}
    {seg : ScanSegmentParserOutput} {out : List Published} (hb : InBounds st)
    (h : processSegment cfg e st seg = .ok (st', out)) : InBounds st' := by
  obtain ⟨st₁, hi, ⟨-, -, -, rfl, -⟩ | ⟨hf, rfl, -⟩⟩ := processSegment_eq_ok h
  · exact inBounds_init
  · exact ⟨hf, (insertScan_bounds hb hi).2⟩

theorem processSegment_total (cfg : Config) (e : Nat) {st : Assembler}
    {seg : ScanSegmentParserOutput} (hb : InBounds st) (hmax : cfg.maxSegmentBuffering.val ≠ 0)
    (hv : seg.scandata.length > 0 → ValidIndex seg) :
    ∃ st' out, processSegment cfg e st seg = .ok (st', out) := by
  obtain ⟨st₁, hi⟩ : ∃ st₁, insertScan cfg st seg = .ok st₁ := by
    unfold insertScan
    split
    · next hs =>
      have hv := hv hs
      have hidx : sizeT seg.segmentIndex = seg.segmentIndex.val.toNat := sizeT_of_nonneg hv.1
      exact ⟨_, insertSegment_of_valid ⟨seg.segmentIndex.val.toNat, by
        have := hv.2; omega⟩ hidx (sizeT_pos hmax)⟩
    · exact ⟨st, rfl⟩
  obtain ⟨hlt, hne⟩ := insertScan_bounds hb hi
  rw [processSegment_eq, hi]
  by_cases hf : allSegmentsFilled ≤ st₁.filledSegments
  · obtain ⟨cloud, hc⟩ := buildFrame_ok_of_nonempty cfg e st₁.samples
      fun i => hne i ((full_iff hlt).mp hf i)
    exact ⟨_, _, by rw [Except.bind, if_pos hf, hc]; rfl⟩
  · exact ⟨_, _, by rw [Except.bind, if_neg hf]⟩

theorem processSegments_inBounds (cfg : Config) (e : Nat)
    (hmax : cfg.maxSegmentBuffering.val ≠ 0) :
    ∀ (segs : List ScanSegmentParserOutput) {st : Assembler}, InBounds st →
      (∀ seg ∈ segs, seg.scandata.length > 0 → ValidIndex seg) →
      ∃ st' outs, processSegments cfg e st segs = .ok (st', outs) ∧ InBounds st'
  | [], st, hb, _ => ⟨st, [], rfl, hb⟩
  | seg :: segs, _, hb, hv => by
    obtain ⟨st₁, out, h₁⟩ := processSegment_total cfg e hb hmax (hv seg (List.mem_cons_self _ _))
    obtain ⟨st', outs, h', hb'⟩ := processSegments_inBounds cfg e hmax segs
      (processSegment_inBounds hb h₁) fun s hs => hv s (List.mem_cons_of_mem _ hs)
    exact ⟨st', out ++ outs, by rw [processSegments_cons, h₁]; simp [Except.bind, h', Except.map],
      hb'⟩

/-- For every non-zero `max_segment_buffers` and every sequence of segments whose segments with
scan data have indices in `0..11`, the whole run is processed without fault: every
`samples[idx]` and every shift is within the twelve slots, and every `front()` is taken on a
non-empty slot. After the run the mask is below `(1 << 12) - 1` and each of its set bits marks a
non-empty slot. -/
theorem assembler_stays_in_bounds (cfg : Config) (e : Nat)
    (hmax : cfg.maxSegmentBuffering.val ≠ 0) (segs : List ScanSegmentParserOutput)
    (hidx : ∀ seg ∈ segs, seg.scandata.length > 0 → ValidIndex seg) :
    ∃ st outs, processSegments cfg e .init segs = .ok (st, outs) ∧
      st.filledSegments < allSegmentsFilled ∧
      ∀ i : Fin 12, st.filledSegments.testBit i → st.samples i ≠ [] :=
  let ⟨st, outs, h, hb⟩ := processSegments_inBounds cfg e hmax segs inBounds_init hidx
  ⟨st, outs, h, hb.mask_lt, hb.bit_nonempty⟩

theorem assembler_stays_in_bounds_over_a_round :
    let round : List ScanSegmentParserOutput := { segmentIndex := ⟨12, by decide⟩ } ::
      (List.finRange 12).map fun i => { scandata := [⟨[]⟩], segmentIndex := ⟨i.val, by omega⟩ }
    ({} : Config).maxSegmentBuffering.val ≠ 0 ∧
      (∀ seg ∈ round, seg.scandata.length > 0 → ValidIndex seg) ∧
      ∃ st outs, processSegments {} pointFieldEnableAll .init round = .ok (st, outs) ∧
        st.filledSegments < allSegmentsFilled ∧
        ∀ i : Fin 12, st.filledSegments.testBit i → st.samples i ≠ [] := by
  intro round
  have hidx : ∀ seg ∈ round, seg.scandata.length > 0 → ValidIndex seg := by
    simp only [round, List.mem_cons, List.mem_map, List.mem_finRange, true_and]
    rintro _ (rfl | ⟨i, rfl⟩) h
    · simp at h
    · exact ⟨Int.natCast_nonneg _, by have := i.2; dsimp only; omega⟩
  exact ⟨by decide, hidx, assembler_stays_in_bounds {} pointFieldEnableAll (by decide) _ hidx⟩

/-- Both limits of the in-bounds law are reached: a depth of 0 empties the fresh slot before
its `front()`, and index 12 is read past the twelve slots. -/
theorem assembler_faults_outside_contract :
    processSegments { maxSegmentBuffering := ⟨0, by decide⟩ } pointFieldEnableAll .init
        [{ scandata := [⟨[]⟩] }] = .error .frontOfEmptySlot ∧
    processSegments {} pointFieldEnableAll .init
        [{ scandata := [⟨[]⟩], segmentIndex := ⟨12, by decide⟩ }] =
      .error (.slotIndexOutOfRange 12) := by
  constructor
  · rw [processSegments_cons, processSegment_eq, insertScan, if_pos (by decide),
      insertSegment_of_zeroDepth (by decide) (by decide)]
    rfl
  · rw [processSegments_cons, processSegment_eq, insertScan, if_pos (by decide),
      insertSegment_of_outOfRange (by decide)]
    rfl

theorem reachable_of_processSegments {cfg : Config} {e : Nat} :
    ∀ {segs : List ScanSegmentParserOutput} {st st' : Assembler} {outs : List Published},
      processSegments cfg e st segs = .ok (st', outs) → Reachable cfg e st → Reachable cfg e st'
  | [], _, _, _, h, hr => by cases h; exact hr
  | seg :: segs, st, st', outs, h, hr => by
    rw [processSegments_cons] at h
    cases h₁ : processSegment cfg e st seg with
    | error f => rw [h₁] at h; cases h
    | ok r =>
      rw [h₁] at h
      cases h₂ : processSegments cfg e r.1 segs with
      | error f => simp [h₂, Except.bind, Except.map] at h
      | ok r' =>
        simp only [h₂, Except.bind, Except.map, Except.ok.injEq, Prod.mk.injEq] at h
        exact h.1 ▸ reachable_of_processSegments h₂ (.step hr h₁)

def SlotsBounded (n : Nat) (st : Assembler) : Prop := ∀ i, (st.samples i).length ≤ n

theorem processSegment_slotsBounded {cfg : Config} {e : Nat} {st st' : Assembler}
    {seg : ScanSegmentParserOutput} {out : List Published}
    (hb : SlotsBounded (sizeT cfg.maxSegmentBuffering) st)
    (h : processSegment cfg e st seg = .ok (st', out)) :
    SlotsBounded (sizeT cfg.maxSegmentBuffering) st' := by
  obtain ⟨st₁, hi, ⟨-, -, -, rfl, -⟩ | ⟨-, rfl, -⟩⟩ := processSegment_eq_ok h
  · intro i; simp [Assembler.init]
  · unfold insertScan at hi
    split at hi
    · obtain ⟨i, -, hn, rfl⟩ := insertSegment_eq_ok hi
      intro j
      by_cases hji : j = i
      · subst hji
        simp only [push_samples_self, List.length_cons, List.length_take]
        omega
      · rw [push_samples_of_ne _ _ _ hji]; exact hb j
    · cases hi; exact hb

theorem reachable_slotsBounded {cfg : Config} {e : Nat} {st : Assembler}
    (h : Reachable cfg e st) : SlotsBounded (sizeT cfg.maxSegmentBuffering) st := by
  induction h with
  | init => intro i; simp [Assembler.init]
  | step _ hs ih => exact processSegment_slotsBounded ih hs

/-- For every non-negative `max_segment_buffers`, every slot of every state the assembler
reaches holds at most `max_segment_buffers` segments, however long the run. -/
theorem slots_hold_at_most_depth (cfg : Config) (e : Nat) {st : Assembler}
    (hmax : 0 ≤ cfg.maxSegmentBuffering.val) (hr : Reachable cfg e st) (i : Fin 12) :
    (st.samples i).length ≤ cfg.maxSegmentBuffering.val.toNat :=
  sizeT_of_nonneg hmax ▸ reachable_slotsBounded hr i

theorem slots_hold_at_most_depth_after_five_segments :
    ∃ st, processSegments {} pointFieldEnableAll .init
        (List.replicate 5 { scandata := [⟨[]⟩] }) = .ok (st, []) ∧
      0 ≤ ({} : Config).maxSegmentBuffering.val ∧ Reachable {} pointFieldEnableAll st ∧
      (st.samples 0).length ≤ ({} : Config).maxSegmentBuffering.val.toNat := by
  obtain ⟨st, h⟩ : ∃ st, processSegments {} pointFieldEnableAll .init
      (List.replicate 5 { scandata := [⟨[]⟩] }) = .ok (st, []) := ⟨_, rfl⟩
  have hr := reachable_of_processSegments h .init
  exact ⟨st, h, by decide, hr, slots_hold_at_most_depth {} pointFieldEnableAll (by decide) hr 0⟩

theorem sizeT_of_neg {v : CInt} (h : v.val < 0) : 2 ^ 63 ≤ sizeT v := by
  have := v.2
  unfold sizeT
  omega

theorem one_shiftLeft_lt_full (i : Fin 12) : 1 <<< i.val < allSegmentsFilled := by
  have : 2 ^ i.val ≤ 2 ^ 11 := Nat.pow_le_pow_right (by decide) (by omega)
  rw [Nat.one_shiftLeft, allSegmentsFilled_eq]
  omega

theorem processSegment_of_negative_depth {cfg : Config} {e : Nat} {st : Assembler} {i : Fin 12}
    {seg : ScanSegmentParserOutput} (hneg : cfg.maxSegmentBuffering.val < 0)
    (hseg : seg.segmentIndex.val = i.val)
    (hmask : st.filledSegments = 0 ∨ st.filledSegments = 1 <<< i.val)
    (hlen : (st.samples i).length < 2 ^ 63) :
    ∃ st', processSegment cfg e st seg = .ok (st', imuExport cfg seg) ∧
      (st'.filledSegments = 0 ∨ st'.filledSegments = 1 <<< i.val) ∧
      st'.samples i = (if seg.scandata.length > 0 then [seg.withoutImu] else []) ++ st.samples i := by
  have hn := sizeT_of_neg hneg
  have hfull := one_shiftLeft_lt_full i
  by_cases hs : seg.scandata.length > 0
  · have hidx : sizeT seg.segmentIndex = i.val := by
      rw [sizeT_of_nonneg (by omega)]
      omega
    have hmask' : (st.push (sizeT cfg.maxSegmentBuffering) i seg).filledSegments = 1 <<< i.val := by
      rcases hmask with h | h <;> simp [Assembler.push, h]
    refine ⟨_, ?_, .inr hmask', ?_⟩
    · rw [processSegment_eq, insertScan, if_pos hs, insertSegment_of_valid i hidx (by omega),
        Except.bind, hmask', if_neg (by omega)]
    · rw [push_samples_self, List.take_of_length_le (by omega), if_pos hs]
      rfl
  · refine ⟨st, ?_, hmask, by rw [if_neg hs]; rfl⟩
    have hlt : st.filledSegments < allSegmentsFilled := by
      rcases hmask with h | h <;> rw [h]
      exacts [by decide, hfull]
    rw [processSegment_eq, insertScan, if_neg hs]
    exact if_neg (by omega)

theorem processSegments_of_negative_depth {cfg : Config} {e : Nat}
    (hneg : cfg.maxSegmentBuffering.val < 0) (i : Fin 12) :
    ∀ (segs : List ScanSegmentParserOutput) (st : Assembler),
      (∀ seg ∈ segs, seg.segmentIndex.val = i.val) →
      (st.filledSegments = 0 ∨ st.filledSegments = 1 <<< i.val) →
      (st.samples i).length + segs.length < 2 ^ 63 →
      ∃ st' out, processSegments cfg e st segs = .ok (st', out) ∧
        st'.samples i = ((segs.filter fun seg => seg.scandata.length > 0).map
          ScanSegmentParserOutput.withoutImu).reverse ++ st.samples i
  | [], st, _, _, _ => ⟨st, [], rfl, rfl⟩
  | seg :: segs, st, hone, hmask, hlen => by
    obtain ⟨st₁, h₁, hmask₁, hs₁⟩ := @processSegment_of_negative_depth _ e _ _ _ hneg
      (hone seg (List.mem_cons_self _ _)) hmask (by simp only [List.length_cons] at hlen; omega)
    have hlen₁ : (st₁.samples i).length + segs.length < 2 ^ 63 := by
      rw [hs₁, List.length_append]
      simp only [List.length_cons] at hlen
      split <;> simp only [List.length_singleton, List.length_nil] <;> omega
    obtain ⟨st', out, h', hs'⟩ := @processSegments_of_negative_depth _ e hneg i segs st₁
      (fun s hs => hone s (List.mem_cons_of_mem _ hs)) hmask₁ hlen₁
    refine ⟨st', imuExport cfg seg ++ out, by rw [processSegments_cons, h₁, Except.bind, h']; rfl, ?_⟩
    rw [hs', hs₁, List.filter_cons]
    by_cases hs : seg.scandata.length > 0 <;> simp [hs]

/-- For every negative `max_segment_buffers` and every run of segments of one index, slot `i`
keeps every segment with scan data it was given, newest first: `static_cast<size_t>` of the
depth is at least `2^64 - 2^31`, so the cut never happens and the slot grows with the run. -/
theorem negative_depth_keeps_every_segment (cfg : Config) (e : Nat)
    (hneg : cfg.maxSegmentBuffering.val < 0) (i : Fin 12) (segs : List ScanSegmentParserOutput)
    (hone : ∀ seg ∈ segs, seg.segmentIndex.val = i.val) (hlen : segs.length < 2 ^ 63) :
    ∃ st out, processSegments cfg e .init segs = .ok (st, out) ∧
      st.samples i = ((segs.filter fun seg => seg.scandata.length > 0).map
        ScanSegmentParserOutput.withoutImu).reverse := by
  obtain ⟨st, out, h, hs⟩ := processSegments_of_negative_depth hneg i segs .init hone (.inl rfl)
    (by simpa [Assembler.init] using hlen)
  exact ⟨st, out, h, by simpa [Assembler.init] using hs⟩

theorem negative_depth_keeps_five_segments_of_index_two :
    let segs := List.replicate 5 ({ scandata := [⟨[]⟩], segmentIndex := ⟨2, by decide⟩ } :
      ScanSegmentParserOutput)
    ({ maxSegmentBuffering := ⟨-1, by decide⟩ } : Config).maxSegmentBuffering.val < 0 ∧
      (∀ seg ∈ segs, seg.segmentIndex.val = (2 : Fin 12).val) ∧ segs.length < 2 ^ 63 ∧
      ∃ st out, processSegments { maxSegmentBuffering := ⟨-1, by decide⟩ } pointFieldEnableAll
          .init segs = .ok (st, out) ∧
        st.samples 2 = ((segs.filter fun seg => seg.scandata.length > 0).map
          ScanSegmentParserOutput.withoutImu).reverse := by
  intro segs
  have hone : ∀ seg ∈ segs, seg.segmentIndex.val = (2 : Fin 12).val := by
    simp only [segs, List.mem_replicate]
    rintro _ ⟨-, rfl⟩
    rfl
  exact ⟨by decide, hone, by simp [segs],
    negative_depth_keeps_every_segment _ _ (by decide) 2 segs hone (by simp [segs])⟩

end MultiscanDriver
