import MultiscanDriver.Messages
import Mathlib.Algebra.Order.Ring.Cast

/-!
# Frame demultiplexer

From a received datagram to the CRC check: the resync test, the payload length (read from the
header for msgpack, probed for compact data while further chunks are appended), and the
positions of the trailing CRC and of the payload. The compact accumulation loop reads the
shutdown flag, the clock and the chunk receives of its environment; one entry of a `Feed` is
read per evaluation of a loop guard. The loop runs on fuel, since nothing bounds it.
-/
namespace MultiscanDriver

def recvBufferSize : Nat := 64 * 1024

def udpMsgStartSeq : List UInt8 := [0x02, 0x02, 0x02, 0x02]

def startsMessage (udpBuffer : List UInt8) (bytesReceived : Nat) : Bool :=
  decide (bytesReceived > udpMsgStartSeq.length + 8) &&
    udpBuffer.take udpMsgStartSeq.length == udpMsgStartSeq

/-- Modelled from the spec: `sick_scansegment_xd::Seconds`, whose code is not among the sources,
is the time between two clock readings, in seconds, the unit of the thresholds and timeouts it is
compared with. A reading is a count of nanoseconds. -/
def seconds (a b : Int) : ℚ := ((b - a : Int) : ℚ) / 1000000000

def withinTimeout (timeout : ℚ) (start now : Int) : Bool :=
  decide (timeout < 0) || decide (seconds start now < timeout)

/-- What the probe `CompactDataParser::ParseSegment` reports on the buffered bytes. -/
inductive Probe where
  | complete (payloadLengthBytes : UInt32)
  | incomplete (numBytesRequired : UInt32)
  deriving DecidableEq, Repr

/-- What the accumulation loop reads from outside, one entry per guard it evaluates. -/
structure Feed where
  isRunning : Nat → Bool
  now : Nat → Int
  chunk : Nat → List UInt8

inductive Phase where
  | probe
  | fetch (numBytesRequired : Nat)
  deriving DecidableEq, Repr

/-- The compact accumulation loop: which guard comes next, the working buffer, the bytes
received so far, and how many feed entries have been read. -/
structure Accumulation where
  phase : Phase
  udpBuffer : List UInt8
  bytesReceived : Nat
  tick : Nat
  deriving DecidableEq, Repr

inductive ProbeExit where
  | parsed (payloadLengthBytes : UInt32)
  | failed
  deriving DecidableEq, Repr

/-- One guard of the loop. The outer guard probes the buffer; a failed probe asking for more
than 1 MiB ends the loop; otherwise the inner guard appends chunks at `bytes_received` while
fewer than `num_bytes_required + 4` bytes are buffered. -/
def accumulateStep (parse : List UInt8 → Nat → Probe) (feed : Feed) (timeout : ℚ) (start : Int)
    (a : Accumulation) : ProbeExit ⊕ Accumulation :=
  match a.phase with
  | .probe =>
    if !feed.isRunning a.tick then .inl .failed else
    match parse a.udpBuffer a.bytesReceived with
    | .complete len => .inl (.parsed len)
    | .incomplete nbr =>
      if !withinTimeout timeout start (feed.now a.tick) then .inl .failed
      else if nbr.toNat > 1024 * 1024 then .inl .failed
      else .inr { a with phase := .fetch nbr.toNat, tick := a.tick + 1 }
  | .fetch nbr =>
    if feed.isRunning a.tick && decide (a.bytesReceived < nbr + 4) &&
        withinTimeout timeout start (feed.now a.tick) then
      let chunk := (feed.chunk a.tick).take recvBufferSize
      .inr { a with
        udpBuffer := a.udpBuffer.take a.bytesReceived ++ chunk ++ a.udpBuffer.drop a.bytesReceived
        bytesReceived := a.bytesReceived + chunk.length
        tick := a.tick + 1 }
    else .inr { a with phase := .probe, tick := a.tick + 1 }

def accumulate (parse : List UInt8 → Nat → Probe) (feed : Feed) (timeout : ℚ) (start : Int) :
    Nat → Accumulation → Option (ProbeExit × Accumulation)
  | 0, _ => none
  | fuel + 1, a =>
    match accumulateStep parse feed timeout start a with
    | .inl exit => some (exit, a)
    | .inr a' => accumulate parse feed timeout start fuel a'

structure Framing where
  bytesToReceive : UInt32
  udpPayloadOffset : UInt32
  deriving DecidableEq, Repr

def msgpackFraming (payloadLengthBytes : UInt32) : Framing :=
  ⟨UInt32.ofNat (payloadLengthBytes.toNat + udpMsgStartSeq.length + 2 * 4),
    UInt32.ofNat (udpMsgStartSeq.length + 4)⟩

def compactFraming (payloadLengthBytes : UInt32) : Framing :=
  ⟨UInt32.ofNat (payloadLengthBytes.toNat + 4), 0⟩

def bytesValid (bytesReceived : Nat) (f : Framing) : Nat :=
  min bytesReceived f.bytesToReceive.toNat

/-- The trailing CRC and the payload slice, or the fault of a position outside the received
bytes: the CRC read below the buffer, or a payload range whose end precedes its start. -/
def crcRegion (udpBuffer : List UInt8) (bytesReceived : Nat) (f : Framing) :
    Except Fault (List UInt8 × List UInt8) :=
  let bv := bytesValid bytesReceived f
  if bv < 4 then .error (.crcReadOutOfRange bv)
  else if bv - 4 < f.udpPayloadOffset.toNat then
    .error (.payloadRangeReversed f.udpPayloadOffset.toNat (bv - 4))
  else .ok ((udpBuffer.drop (bv - 4)).take 4, (udpBuffer.take (bv - 4)).drop f.udpPayloadOffset.toNat)

def PositionsInRange (bytesReceived : Nat) (f : Framing) : Prop :=
  4 ≤ bytesValid bytesReceived f ∧ bytesValid bytesReceived f ≤ bytesReceived ∧
    f.udpPayloadOffset.toNat ≤ bytesValid bytesReceived f - 4

theorem uint32_toNat_ofNat (n : Nat) : (UInt32.ofNat n).toNat = n % 2 ^ 32 := rfl

theorem crcRegion_ok_iff (udpBuffer : List UInt8) (bytesReceived : Nat) (f : Framing) :
    (∃ r, crcRegion udpBuffer bytesReceived f = .ok r) ↔ PositionsInRange bytesReceived f := by
  have : bytesValid bytesReceived f ≤ bytesReceived := Nat.min_le_left _ _
  simp only [crcRegion, PositionsInRange]
  split_ifs <;> simp <;> omega

theorem msgpackFraming_inRange_iff {bytesReceived : Nat} (hbr : 12 < bytesReceived)
    (len : UInt32) :
    PositionsInRange bytesReceived (msgpackFraming len) ↔ len.toNat + 12 < 2 ^ 32 := by
  have := len.toNat_lt_size
  simp only [PositionsInRange, bytesValid, msgpackFraming, uint32_toNat_ofNat, udpMsgStartSeq,
    List.length_cons, List.length_nil, UInt32.size] at *
  omega

theorem compactFraming_inRange_iff {bytesReceived : Nat} (hbr : 4 ≤ bytesReceived)
    (len : UInt32) :
    PositionsInRange bytesReceived (compactFraming len) ↔ len.toNat + 4 < 2 ^ 32 := by
  have := len.toNat_lt_size
  simp only [PositionsInRange, bytesValid, compactFraming, uint32_toNat_ofNat, UInt32.toNat_zero,
    UInt32.size] at *
  omega

/-- A 13-byte msgpack datagram declaring `0xFFFFFFFF` payload bytes: `bytes_to_receive` wraps
to 11, and the payload range runs from byte 8 back to byte 7. -/
example (udpBuffer : List UInt8) : msgpackFraming 0xFFFFFFFF = ⟨11, 8⟩ ∧
    crcRegion udpBuffer 13 (msgpackFraming 0xFFFFFFFF) = .error (.payloadRangeReversed 8 7) :=
  ⟨rfl, rfl⟩

section Loop

variable {parse : List UInt8 → Nat → Probe} {feed : Feed} {timeout : ℚ} {start : Int}

theorem accumulateStep_eq_inr {a a' : Accumulation}
    (hs : accumulateStep parse feed timeout start a = .inr a') :
    a'.tick = a.tick + 1 ∧
      ((a'.udpBuffer = a.udpBuffer ∧ a'.bytesReceived = a.bytesReceived) ∨
        ∃ chunk : List UInt8, a'.udpBuffer =
            a.udpBuffer.take a.bytesReceived ++ chunk ++ a.udpBuffer.drop a.bytesReceived ∧
          a'.bytesReceived = a.bytesReceived + chunk.length) := by
  unfold accumulateStep at hs
  split at hs
  · split at hs
    · cases hs
    · split at hs
      · cases hs
      · split at hs
        · cases hs
        · split at hs
          · cases hs
          · cases hs; exact ⟨rfl, .inl ⟨rfl, rfl⟩⟩
  · split at hs
    · cases hs; exact ⟨rfl, .inr ⟨_, rfl, rfl⟩⟩
    · cases hs; exact ⟨rfl, .inl ⟨rfl, rfl⟩⟩

theorem accumulate_preserves (P : Accumulation → Prop)
    (hstep : ∀ {a a'}, P a → accumulateStep parse feed timeout start a = .inr a' → P a') :
    ∀ {fuel : Nat} {a a' : Accumulation} {exit : ProbeExit}, P a →
      accumulate parse feed timeout start fuel a = some (exit, a') → P a'
  | fuel + 1, a, a', exit, h, hs => by
    unfold accumulate at hs
    split at hs
    · cases hs; exact h
    · next a₁ h₁ => exact accumulate_preserves P hstep (hstep h h₁) hs

theorem accumulate_appends {fuel : Nat} {a a' : Accumulation} {exit : ProbeExit}
    (h : a.bytesReceived ≤ a.udpBuffer.length)
    (hs : accumulate parse feed timeout start fuel a = some (exit, a')) :
    a.bytesReceived ≤ a'.bytesReceived ∧ a'.bytesReceived ≤ a'.udpBuffer.length ∧
      a'.udpBuffer.length + a.bytesReceived = a.udpBuffer.length + a'.bytesReceived := by
  refine accumulate_preserves (fun b => a.bytesReceived ≤ b.bytesReceived ∧
    b.bytesReceived ≤ b.udpBuffer.length ∧
      b.udpBuffer.length + a.bytesReceived = a.udpBuffer.length + b.bytesReceived)
    (fun hb hstep => ?_) ⟨le_rfl, h, rfl⟩ hs
  obtain ⟨-, ⟨hbuf, hbr⟩ | ⟨chunk, hbuf, hbr⟩⟩ := accumulateStep_eq_inr hstep
  · rw [hbuf, hbr]; exact hb
  · simp only [hbuf, hbr, List.length_append, List.length_take, List.length_drop]
    omega

end Loop

/-- In blocking mode, with the flag set, a probe that fails asking for at most 1 MiB and for no
more bytes than are already buffered sends the loop back and forth between its two guards for
ever: the buffer is probed again unchanged, and no chunk is ever received. -/
theorem compact_probe_spins (parse : List UInt8 → Nat → Probe) (udpBuffer : List UInt8)
    (bytesReceived : Nat) (numBytesRequired : UInt32) (timeout : ℚ) (now : Nat → Int)
    (chunk : Nat → List UInt8) (start : Int) (fuel tick : Nat)
    (hparse : parse udpBuffer bytesReceived = .incomplete numBytesRequired)
    (hcap : numBytesRequired.toNat ≤ 1024 * 1024)
    (hbuffered : numBytesRequired.toNat + 4 ≤ bytesReceived) (hblocking : timeout < 0) :
    accumulate parse ⟨fun _ => true, now, chunk⟩ timeout start fuel
      ⟨.probe, udpBuffer, bytesReceived, tick⟩ = none := by
  have hwithin : ∀ t, withinTimeout timeout start t = true := fun _ => by
    simp [withinTimeout, hblocking]
  suffices ∀ fuel tick, accumulate parse ⟨fun _ => true, now, chunk⟩ timeout start fuel
      ⟨.probe, udpBuffer, bytesReceived, tick⟩ = none ∧
    accumulate parse ⟨fun _ => true, now, chunk⟩ timeout start fuel
      ⟨.fetch numBytesRequired.toNat, udpBuffer, bytesReceived, tick⟩ = none from
    (this fuel tick).1
  intro fuel
  induction fuel with
  | zero => intro _; exact ⟨rfl, rfl⟩
  | succ fuel ih =>
    intro tick
    constructor
    · simp only [accumulate, accumulateStep, hparse, hwithin, Bool.not_true, if_false,
        not_lt.mpr hcap]
      exact (ih (tick + 1)).2
    · simp only [accumulate, accumulateStep, Bool.true_and, hwithin, Bool.and_true,
        decide_eq_true_eq, if_neg (not_lt.mpr hbuffered)]
      exact (ih (tick + 1)).1

theorem compact_probe_spins_on_first_datagram :
    (fun _ _ => .incomplete 0 : List UInt8 → Nat → Probe) (List.replicate 16 0) 16 =
        .incomplete 0 ∧ (0 : UInt32).toNat ≤ 1024 * 1024 ∧ (0 : UInt32).toNat + 4 ≤ 16 ∧
      (-1 : ℚ) < 0 ∧
    accumulate (fun _ _ => .incomplete 0) ⟨fun _ => true, fun _ => 0, fun _ => [0]⟩ (-1) 0 1000
      ⟨.probe, List.replicate 16 0, 16, 1⟩ = none :=
  ⟨rfl, by decide, by decide, by decide,
    compact_probe_spins _ _ _ _ _ _ _ _ _ _ rfl (by decide) (by decide) (by decide)⟩

def Phase.Capped : Phase → Prop
  | .probe => True
  | .fetch numBytesRequired => numBytesRequired ≤ 1024 * 1024

def live (feed : Feed) (timeout : ℚ) (start : Int) (t : Nat) : Bool :=
  feed.isRunning t && withinTimeout timeout start (feed.now t)

/-- How many more guards the loop evaluates at most, when every failed probe asks for more bytes
than are buffered. -/
def guardBound (feed : Feed) (timeout : ℚ) (start : Int) (a : Accumulation) : Nat :=
  if live feed timeout start a.tick then
    match a.phase with
    | .probe => 3 * (1024 * 1024 + 4 - a.bytesReceived) + 5
    | .fetch numBytesRequired => 3 * (1024 * 1024 + 4 - a.bytesReceived) +
        if a.bytesReceived < numBytesRequired + 4 then 4 else 6
  else
    match a.phase with
    | .probe => 1
    | .fetch _ => 2

theorem seconds_le_seconds {start n n' : Int} (h : n ≤ n') : seconds start n ≤ seconds start n' := by
  unfold seconds
  exact div_le_div_of_nonneg_right (Int.cast_le.mpr (Int.sub_le_sub_right h start)) (by decide)

theorem withinTimeout_of_le {timeout : ℚ} {start n n' : Int} (h : n ≤ n')
    (hw : withinTimeout timeout start n' = true) : withinTimeout timeout start n = true := by
  simp only [withinTimeout, Bool.or_eq_true, decide_eq_true_eq] at hw ⊢
  exact hw.imp_right (lt_of_le_of_lt (seconds_le_seconds h))


section Termination

variable {parse : List UInt8 → Nat → Probe} {feed : Feed} {timeout : ℚ} {start : Int}

theorem guardBound_pos (a : Accumulation) : 0 < guardBound feed timeout start a := by
  unfold guardBound
  split <;> split <;> (try split) <;> omega

variable (hparse : ∀ buf br nbr, parse buf br = .incomplete nbr → br < nbr.toNat + 4)
  (hchunk : ∀ t, feed.chunk t ≠ [])
  (hrun : ∀ t, feed.isRunning (t + 1) = true → feed.isRunning t = true)
  (hclock : ∀ t, feed.now t ≤ feed.now (t + 1))

include hrun hclock in
theorem live_succ {t : Nat} (h : live feed timeout start t = false) :
    live feed timeout start (t + 1) = false := by
  unfold live at h ⊢
  rw [Bool.and_eq_false_iff] at h ⊢
  exact h.imp (fun h' => Bool.eq_false_iff.mpr fun h'' => by simp [hrun t h''] at h')
    (fun h' => Bool.eq_false_iff.mpr fun h'' => by simp [withinTimeout_of_le (hclock t) h''] at h')

include hparse hchunk hrun hclock

theorem accumulateStep_guardBound {a a' : Accumulation} (hcap : a.phase.Capped)
    (hs : accumulateStep parse feed timeout start a = .inr a') :
    a'.phase.Capped ∧ guardBound feed timeout start a' < guardBound feed timeout start a := by
  obtain ⟨phase, buf, br, t⟩ := a
  cases phase with
  | probe =>
    simp only [accumulateStep] at hs
    split at hs
    · cases hs
    · next hrunning =>
      split at hs
      · cases hs
      · next nbr hp =>
        split at hs
        · cases hs
        · next hw =>
          split at hs
          · cases hs
          · next hcapn =>
            cases hs
            have hl : live feed timeout start t = true := by
              revert hrunning hw
              simp only [live]
              cases feed.isRunning t <;> cases withinTimeout timeout start (feed.now t) <;> decide
            have hbr := hparse buf br nbr hp
            refine ⟨Nat.le_of_not_lt hcapn, ?_⟩
            simp only [guardBound, hl, if_true]
            split_ifs <;> omega
  | fetch nbr =>
    have hcapn : nbr ≤ 1024 * 1024 := hcap
    simp only [accumulateStep] at hs
    split at hs
    · next hg =>
      cases hs
      simp only [Bool.and_eq_true, decide_eq_true_eq] at hg
      obtain ⟨⟨hr, hlt⟩, hw⟩ := hg
      have hl : live feed timeout start t = true := by simp only [live, hr, hw, Bool.and_self]
      have hlen : 0 < ((feed.chunk t).take recvBufferSize).length := by
        rw [List.length_take]
        exact Nat.lt_min.mpr ⟨by decide, List.length_pos.mpr (hchunk t)⟩
      refine ⟨hcapn, ?_⟩
      simp only [guardBound, hl, if_true, if_pos hlt]
      split_ifs <;> omega
    · next hg =>
      cases hs
      refine ⟨trivial, ?_⟩
      cases hl : live feed timeout start t
      · simp [guardBound, hl, live_succ hrun hclock hl]
      · have hge : ¬ br < nbr + 4 := fun hlt => hg (by
          simp only [live, Bool.and_eq_true] at hl
          simp [hl.1, hl.2, hlt])
        simp only [guardBound, hl, if_true, if_neg hge]
        split_ifs <;> omega

theorem accumulate_isSome_of_guardBound :
    ∀ (fuel : Nat) (a : Accumulation), a.phase.Capped →
      guardBound feed timeout start a ≤ fuel → (accumulate parse feed timeout start fuel a).isSome
  | 0, a, _, h => absurd h (Nat.not_le.mpr (guardBound_pos a))
  | fuel + 1, a, hcap, h => by
    unfold accumulate
    split
    · rfl
    · next a' hs =>
      obtain ⟨hcap', hlt⟩ := accumulateStep_guardBound hparse hchunk hrun hclock hcap hs
      exact accumulate_isSome_of_guardBound fuel a' hcap' (by omega)

/-- In compact mode, when every failed probe asks for more bytes than are buffered, every chunk
receive returns at least one byte, the flag once cleared stays cleared and the clock never goes
back, the probe/accumulate loop started on `bytes_received` bytes ends within
`3 (1 MiB + 4 - bytes_received) + 5` guards, in blocking mode as well. -/
theorem accumulate_terminates (udpBuffer : List UInt8) (bytesReceived tick fuel : Nat)
    (hfuel : 3 * (1024 * 1024 + 4 - bytesReceived) + 5 ≤ fuel) :
    (accumulate parse feed timeout start fuel ⟨.probe, udpBuffer, bytesReceived, tick⟩).isSome :=
  accumulate_isSome_of_guardBound hparse hchunk hrun hclock fuel _ trivial
    (le_trans (by simp only [guardBound]; split <;> omega) hfuel)

end Termination

theorem accumulate_terminates_on_fragmented_datagram :
    let parse : List UInt8 → Nat → Probe := fun _ br =>
      if br < 32 then .incomplete 28 else .complete 28
    let feed : Feed := ⟨fun _ => true, fun _ => 0, fun _ => List.replicate 16 0⟩
    (∀ buf br nbr, parse buf br = .incomplete nbr → br < nbr.toNat + 4) ∧
    (∀ t, feed.chunk t ≠ []) ∧
    (∀ t, feed.isRunning (t + 1) = true → feed.isRunning t = true) ∧
    (∀ t, feed.now t ≤ feed.now (t + 1)) ∧
    3 * (1024 * 1024 + 4 - 16) + 5 ≤ 3 * (1024 * 1024 + 4 - 16) + 5 ∧
    (accumulate parse feed (-1) 0 (3 * (1024 * 1024 + 4 - 16) + 5)
      ⟨.probe, List.replicate 16 0, 16, 1⟩).isSome := by
  intro parse feed
  have hparse : ∀ buf br nbr, parse buf br = .incomplete nbr → br < nbr.toNat + 4 := by
    intro buf br nbr h
    simp only [parse] at h
    split at h
    · cases h; show br < 28 + 4; omega
    · cases h
  have hchunk : ∀ t, feed.chunk t ≠ [] := fun _ => by simp [feed]
  exact ⟨hparse, hchunk, fun _ h => h, fun _ => le_rfl, le_rfl,
    accumulate_terminates hparse hchunk (fun _ h => h) (fun _ => le_rfl) _ _ _ _ le_rfl⟩

end MultiscanDriver
