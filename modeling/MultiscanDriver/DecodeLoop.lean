import MultiscanDriver.Rounds
import MultiscanDriver.Demultiplexer
import Mathlib.Tactic.NormNum.Inv
import Mathlib.Tactic.NormNum.Ineq

/-!
# The decode loop

One pass of `while(is_running && sopas_tcp.isConnected())` in `run_receiver`: the `Receive` with
the current `udp_recv_timeout`, the resync test, framing, the CRC check, the decoder, the
assembler, and the update of `timestamp_last_udp_recv` and `udp_recv_timeout`, which every
`continue` skips. The routines the loop calls whose code is not among the sources are parameters.
-/
namespace MultiscanDriver

/-- The routines the decode loop calls: the 4-byte conversion, CRC-32 over a byte range, the
compact probe, and the two segment decoders with the receive timestamp. -/
structure Collaborators where
  convert4Byte : List UInt8 → UInt32
  crc32 : List UInt8 → UInt32
  parseSegment : List UInt8 → Nat → Probe
  compactParse : List UInt8 → Int → Option ScanSegmentParserOutput
  msgPackParse : List UInt8 → Int → Option ScanSegmentParserOutput

structure DecodeState where
  udpBuffer : List UInt8
  udpRecvTimeout : ℚ
  timestampLastUdpRecv : Int
  assembler : Assembler

def DecodeState.init (now : Int) : DecodeState :=
  ⟨List.replicate recvBufferSize 0, -1, now, .init⟩

/-- Modelled from the spec: `UdpReceiverSocketImpl::Receive(buffer, timeout, resync_pattern)`,
whose code is not among the sources, reads into the buffer's storage and returns the number of
bytes read, 0 when the timeout expires. -/
def receiveInto (udpBuffer datagram : List UInt8) : List UInt8 × Nat :=
  let d := datagram.take udpBuffer.length
  (d ++ udpBuffer.drop d.length, d.length)

/-- What one pass reads from outside: when its `Receive` is issued (read by nothing in the
driver; it dates the call), the bytes that call returns, and the feed the rest of the pass
reads, whose clock entry 0 is `recv_start_timestamp`. -/
structure Pass where
  issuedAt : Int
  datagram : List UInt8
  feed : Feed

inductive Framed where
  | ready (f : Framing) (udpBuffer : List UInt8) (bytesReceived tick : Nat)
  | dropped (udpBuffer : List UInt8)
  | stalled

def frame (c : Collaborators) (cfg : Config) (fuel : Nat) (timeout : ℚ) (feed : Feed)
    (udpBuffer : List UInt8) (bytesReceived : Nat) : Framed :=
  if cfg.useMsgpack then
    .ready (msgpackFraming (c.convert4Byte ((udpBuffer.drop udpMsgStartSeq.length).take 4)))
      udpBuffer bytesReceived 1
  else
    match accumulate c.parseSegment feed timeout (feed.now 0) fuel
        ⟨.probe, udpBuffer, bytesReceived, 1⟩ with
    | none => .stalled
    | some (.failed, a) => .dropped a.udpBuffer
    | some (.parsed len, a) => .ready (compactFraming len) a.udpBuffer a.bytesReceived a.tick

inductive Decoded where
  | skipped (udpBuffer : List UInt8)
  | segment (seg : ScanSegmentParserOutput) (udpBuffer : List UInt8) (bytesReceived tick : Nat)
  | fault (f : Fault)
  | stalled

/-- Receive, resync test, framing, CRC check and decoder, with the `Receive` timeout. -/
def decodeDatagram (c : Collaborators) (cfg : Config) (fuel : Nat) (timeout : ℚ)
    (udpBuffer : List UInt8) (p : Pass) : Decoded :=
  let (udpBuffer, bytesReceived) := receiveInto udpBuffer p.datagram
  if !startsMessage udpBuffer bytesReceived then .skipped udpBuffer else
  let start := p.feed.now 0
  match frame c cfg fuel timeout p.feed udpBuffer bytesReceived with
  | .stalled => .stalled
  | .dropped udpBuffer => .skipped udpBuffer
  | .ready f udpBuffer bytesReceived t =>
    match crcRegion udpBuffer bytesReceived f with
    | .error err => .fault err
    | .ok (crcBytes, payload) =>
      if c.convert4Byte crcBytes ≠ c.crc32 payload then .skipped udpBuffer else
      match (if cfg.useMsgpack then c.msgPackParse udpBuffer start
          else c.compactParse udpBuffer start) with
      | none => .skipped udpBuffer
      | some seg => .segment seg udpBuffer bytesReceived t

inductive PassResult where
  | next (st : DecodeState) (out : List Published)
  | fault (f : Fault)
  | stalled

def PassResult.published : PassResult → List Published
  | .next _ out => out
  | _ => []

def receiveTimeoutAfter (cfg : Config) (last now : Int) : ℚ :=
  if seconds last now > cfg.udpDropoutResetThresh then -1 else cfg.udpReceiveTimeout

/-- One pass of the decode loop: the datagram, then the `// process` block on its segment. -/
def decodePass (c : Collaborators) (cfg : Config) (e fuel : Nat) (st : DecodeState) (p : Pass) :
    PassResult :=
  match decodeDatagram c cfg fuel st.udpRecvTimeout st.udpBuffer p with
  | .stalled => .stalled
  | .fault err => .fault err
  | .skipped udpBuffer => .next { st with udpBuffer := udpBuffer } []
  | .segment seg udpBuffer bytesReceived t =>
    match processSegment cfg e st.assembler seg with
    | .error err => .fault err
    | .ok (asm, out) =>
      let last := if bytesReceived > 0 then p.feed.now t else st.timestampLastUdpRecv
      .next ⟨udpBuffer, receiveTimeoutAfter cfg last (p.feed.now (t + 1)), last, asm⟩ out

/-- The decode loop over a sequence of passes: for each pass, the timeout its `Receive` is
called with and how it ends; a fault or a stalled pass ends the loop. -/
def decodeRun (c : Collaborators) (cfg : Config) (e fuel : Nat) :
    DecodeState → List Pass → List (ℚ × PassResult)
  | _, [] => []
  | st, p :: ps =>
    (st.udpRecvTimeout, decodePass c cfg e fuel st p) ::
      match decodePass c cfg e fuel st p with
      | .next st' _ => decodeRun c cfg e fuel st' ps
      | _ => []

def decodedSegments (c : Collaborators) (cfg : Config) (e fuel : Nat) :
    DecodeState → List Pass → List ScanSegmentParserOutput
  | _, [] => []
  | st, p :: ps =>
    (match decodeDatagram c cfg fuel st.udpRecvTimeout st.udpBuffer p with
      | .segment seg .. => [seg]
      | _ => []) ++
      match decodePass c cfg e fuel st p with
      | .next st' _ => decodedSegments c cfg e fuel st' ps
      | _ => []

theorem receiveInto_of_le {udpBuffer datagram : List UInt8}
    (h : datagram.length ≤ udpBuffer.length) :
    receiveInto udpBuffer datagram = (datagram ++ udpBuffer.drop datagram.length, datagram.length) := by
  simp [receiveInto, List.take_of_length_le h]

theorem receiveInto_length (udpBuffer datagram : List UInt8) :
    (receiveInto udpBuffer datagram).1.length = udpBuffer.length ∧
      (receiveInto udpBuffer datagram).2 ≤ udpBuffer.length := by
  simp only [receiveInto, List.length_append, List.length_take, List.length_drop]
  omega

theorem startsMessage_pos {udpBuffer : List UInt8} {bytesReceived : Nat}
    (h : startsMessage udpBuffer bytesReceived = true) : 0 < bytesReceived := by
  simp only [startsMessage, Bool.and_eq_true, decide_eq_true_eq] at h
  exact Nat.zero_lt_of_lt h.1

section Framing

variable {c : Collaborators} {cfg : Config} {fuel : Nat} {timeout : ℚ} {feed : Feed}
  {udpBuffer buf : List UInt8} {bytesReceived : Nat}

theorem frame_eq_ready {f : Framing} {br t : Nat} (h : bytesReceived ≤ udpBuffer.length)
    (hf : frame c cfg fuel timeout feed udpBuffer bytesReceived = .ready f buf br t) :
    bytesReceived ≤ br ∧ udpBuffer.length ≤ buf.length := by
  unfold frame at hf
  split at hf
  · cases hf; exact ⟨le_rfl, le_rfl⟩
  · split at hf
    · cases hf
    · cases hf
    · next a ha => cases hf; have := accumulate_appends h ha; dsimp only at this; omega

theorem frame_eq_dropped (h : bytesReceived ≤ udpBuffer.length)
    (hf : frame c cfg fuel timeout feed udpBuffer bytesReceived = .dropped buf) :
    udpBuffer.length ≤ buf.length := by
  unfold frame at hf
  split at hf
  · cases hf
  · split at hf
    · cases hf
    · next a ha => cases hf; have := accumulate_appends h ha; dsimp only at this; omega
    · cases hf

end Framing

section Pass

variable (c : Collaborators) (cfg : Config) (e fuel : Nat)

def Decoded.Sound (length : Nat) : Decoded → Prop
  | .skipped buf => length ≤ buf.length
  | .segment seg buf bytesReceived _ => length ≤ buf.length ∧ 0 < bytesReceived ∧
      ∃ start, (if cfg.useMsgpack then c.msgPackParse buf start else c.compactParse buf start) =
        some seg
  | _ => True

theorem decodeDatagram_sound (timeout : ℚ) (udpBuffer : List UInt8) (p : Pass) :
    (decodeDatagram c cfg fuel timeout udpBuffer p).Sound c cfg udpBuffer.length := by
  obtain ⟨hlen, hbr⟩ := receiveInto_length udpBuffer p.datagram
  unfold decodeDatagram
  generalize receiveInto udpBuffer p.datagram = r at hlen hbr
  obtain ⟨buf, br⟩ := r
  dsimp only at hlen hbr ⊢
  rw [← hlen] at hbr ⊢
  by_cases hs : startsMessage buf br
  · rw [if_neg (by simp [hs])]
    split
    · trivial
    · next buf' hf => exact frame_eq_dropped hbr hf
    · next f buf' br' t hf =>
      obtain ⟨hbr', hlen'⟩ := frame_eq_ready hbr hf
      split
      · trivial
      · split
        · exact hlen'
        · split
          · exact hlen'
          · next seg hseg => exact ⟨hlen', Nat.lt_of_lt_of_le (startsMessage_pos hs) hbr', _, hseg⟩
  · rw [if_pos (by simp [hs])]
    exact le_rfl

theorem decodePass_of_not_startsMessage (st : DecodeState) (p : Pass)
    (h : startsMessage (receiveInto st.udpBuffer p.datagram).1
      (receiveInto st.udpBuffer p.datagram).2 = false) :
    decodePass c cfg e fuel st p =
      .next { st with udpBuffer := (receiveInto st.udpBuffer p.datagram).1 } [] := by
  have hd : decodeDatagram c cfg fuel st.udpRecvTimeout st.udpBuffer p =
      .skipped (receiveInto st.udpBuffer p.datagram).1 := by
    simp only [decodeDatagram, h, Bool.not_false, if_true]
  simp only [decodePass, hd]

theorem decodePass_of_empty (st : DecodeState) (p : Pass) (h : p.datagram = []) :
    decodePass c cfg e fuel st p = .next st [] := by
  rw [decodePass_of_not_startsMessage c cfg e fuel st p (by simp [h, receiveInto, startsMessage])]
  simp [h, receiveInto]

theorem decodePass_eq_next {st st' : DecodeState} {p : Pass} {out : List Published}
    (h : decodePass c cfg e fuel st p = .next st' out) :
    st.udpBuffer.length ≤ st'.udpBuffer.length ∧
      ((st'.udpRecvTimeout = st.udpRecvTimeout ∧
          st'.timestampLastUdpRecv = st.timestampLastUdpRecv) ∨
        ∃ t, st'.timestampLastUdpRecv = p.feed.now t ∧
          st'.udpRecvTimeout = receiveTimeoutAfter cfg (p.feed.now t) (p.feed.now (t + 1))) := by
  have hs := decodeDatagram_sound c cfg fuel st.udpRecvTimeout st.udpBuffer p
  unfold decodePass at h
  split at h
  · cases h
  · cases h
  · next buf hd => rw [hd] at hs; cases h; exact ⟨hs, .inl ⟨rfl, rfl⟩⟩
  · next seg buf br t hd =>
    rw [hd] at hs
    split at h
    · cases h
    · cases h; rw [if_pos hs.2.1]; exact ⟨hs.1, .inr ⟨t, rfl, rfl⟩⟩

/-- A msgpack datagram that passes the resync test and declares `2^32 - 12` payload bytes or
more ends the decode loop: `bytes_to_receive` wraps below 12, so the CRC read starts before the
buffer or the payload range ends before it starts. -/
theorem msgpack_length_wrap_ends_loop (st : DecodeState) (p : Pass)
    (hmsgpack : cfg.useMsgpack = true)
    (hstart : startsMessage (receiveInto st.udpBuffer p.datagram).1
      (receiveInto st.udpBuffer p.datagram).2 = true)
    (hwrap : 2 ^ 32 ≤
      (c.convert4Byte (((receiveInto st.udpBuffer p.datagram).1.drop 4).take 4)).toNat + 12) :
    ∃ f, decodePass c cfg e fuel st p = .fault f := by
  suffices ∃ f, decodeDatagram c cfg fuel st.udpRecvTimeout st.udpBuffer p = .fault f by
    obtain ⟨f, hf⟩ := this
    exact ⟨f, by simp only [decodePass, hf]⟩
  unfold decodeDatagram
  generalize receiveInto st.udpBuffer p.datagram = r at hstart hwrap
  obtain ⟨buf, br⟩ := r
  dsimp only at hstart hwrap ⊢
  have hbr : 12 < br := by
    simp only [startsMessage, Bool.and_eq_true, decide_eq_true_eq] at hstart
    exact hstart.1
  have hout := mt (crcRegion_ok_iff buf br _).mp
    ((msgpackFraming_inRange_iff hbr _).not.mpr (Nat.not_lt.mpr hwrap))
  rw [if_neg (by simp [hstart])]
  simp only [frame, if_pos hmsgpack]
  split
  · next err _ => exact ⟨err, rfl⟩
  · next x y hx => exact absurd ⟨(x, y), hx⟩ hout

end Pass

theorem msgpack_length_wrap_ends_loop_at_max :
    ({ useMsgpack := true } : Config).useMsgpack = true ∧
    startsMessage (receiveInto (DecodeState.init 0).udpBuffer
        [2, 2, 2, 2, 0xFF, 0xFF, 0xFF, 0xFF, 0, 0, 0, 0, 0]).1
      (receiveInto (DecodeState.init 0).udpBuffer
        [2, 2, 2, 2, 0xFF, 0xFF, 0xFF, 0xFF, 0, 0, 0, 0, 0]).2 = true ∧
    ∃ f, decodePass ⟨fun _ => 0xFFFFFFFF, fun _ => 0, fun _ _ => .complete 0, fun _ _ => none,
        fun _ _ => none⟩ { useMsgpack := true } pointFieldEnableAll 0 (.init 0)
      ⟨0, [2, 2, 2, 2, 0xFF, 0xFF, 0xFF, 0xFF, 0, 0, 0, 0, 0], ⟨fun _ => true, fun _ => 0, fun _ => []⟩⟩ =
      .fault f := by
  have hrecv : receiveInto (DecodeState.init 0).udpBuffer
      [2, 2, 2, 2, 0xFF, 0xFF, 0xFF, 0xFF, 0, 0, 0, 0, 0] =
      ([2, 2, 2, 2, 0xFF, 0xFF, 0xFF, 0xFF, 0, 0, 0, 0, 0] ++ (DecodeState.init 0).udpBuffer.drop 13,
        13) := receiveInto_of_le (by rw [DecodeState.init, List.length_replicate]; decide)
  have hstart : startsMessage (receiveInto (DecodeState.init 0).udpBuffer
      [2, 2, 2, 2, 0xFF, 0xFF, 0xFF, 0xFF, 0, 0, 0, 0, 0]).1 (receiveInto (DecodeState.init 0).udpBuffer
      [2, 2, 2, 2, 0xFF, 0xFF, 0xFF, 0xFF, 0, 0, 0, 0, 0]).2 = true := by
    rw [hrecv]; rfl
  exact ⟨rfl, hstart, msgpack_length_wrap_ends_loop _ _ _ _ _ _ rfl hstart (by decide)⟩

section Refinement

variable (c : Collaborators) (cfg : Config) (e fuel : Nat)

/-- The decoder keeps to its contract: every segment it returns has an index in `0..11`. -/
def DecoderContract : Prop :=
  ∀ buf start seg, (if cfg.useMsgpack then c.msgPackParse buf start
    else c.compactParse buf start) = some seg → ValidIndex seg

theorem decodeRun_refines (hmax : 1 ≤ cfg.maxSegmentBuffering.val)
    (hdec : DecoderContract c cfg) :
    ∀ (ps : List Pass) (st : DecodeState) (round : List ScanSegmentParserOutput),
      Represents st.assembler round →
      (decodeRun c cfg e fuel st ps).flatMap (fun x => x.2.published) =
        referenceRun cfg e round (decodedSegments c cfg e fuel st ps)
  | [], _, _, _ => rfl
  | p :: ps, st, round, hr => by
    have hs := decodeDatagram_sound c cfg fuel st.udpRecvTimeout st.udpBuffer p
    simp only [decodeRun, decodedSegments, decodePass, List.flatMap_cons]
    generalize decodeDatagram c cfg fuel st.udpRecvTimeout st.udpBuffer p = d at hs
    cases d with
    | stalled => rfl
    | fault f => rfl
    | skipped buf => exact decodeRun_refines hmax hdec ps _ round hr
    | segment seg buf br t =>
      obtain ⟨-, -, start, hseg⟩ := hs
      obtain ⟨st', hstep, hr'⟩ := @step_refines cfg e _ _ _ hmax (hdec _ _ _ hseg) hr
      simp only [hstep]
      rw [decodeRun_refines hmax hdec ps _ _ hr']
      rfl

/-- From the start of a connection, with a depth of at least one and a decoder that keeps to
its contract, the decode loop publishes exactly what the rounds reference publishes on the
segments it decodes, whatever the datagrams, drops, timeouts and faults. -/
theorem decodeRun_publishes_rounds (hmax : 1 ≤ cfg.maxSegmentBuffering.val)
    (hdec : DecoderContract c cfg) (now : Int) (ps : List Pass) :
    (decodeRun c cfg e fuel (.init now) ps).flatMap (fun x => x.2.published) =
      referenceRun cfg e [] (decodedSegments c cfg e fuel (.init now) ps) :=
  decodeRun_refines c cfg e fuel hmax hdec ps _ [] represents_init

end Refinement

theorem decodeRun_publishes_rounds_over_a_round :
    let sensor : Collaborators := ⟨fun _ => 0, fun _ => 0, fun _ _ => .complete 0,
      fun buf _ => some { scandata := [⟨[]⟩]
                          segmentIndex := ⟨((buf.getD 8 0).toNat % 12 : Nat), by omega⟩ },
      fun _ _ => none⟩
    let passes : List Pass := (List.range 12).map fun i =>
      ⟨0, [2, 2, 2, 2, 0, 0, 0, 0, UInt8.ofNat i, 0, 0, 0, 0, 0, 0, 0], ⟨fun _ => true, fun _ => 0, fun _ => []⟩⟩
    1 ≤ ({} : Config).maxSegmentBuffering.val ∧ DecoderContract sensor {} ∧
    (decodeRun sensor {} pointFieldEnableAll 1 (.init 0) passes).flatMap (fun x => x.2.published) =
      referenceRun {} pointFieldEnableAll []
        (decodedSegments sensor {} pointFieldEnableAll 1 (.init 0) passes) := by
  intro sensor passes
  have hdec : DecoderContract sensor {} := by
    intro _ _ seg h
    cases h
    exact ⟨Int.natCast_nonneg _, by dsimp only; omega⟩
  exact ⟨by decide, hdec, decodeRun_publishes_rounds _ _ _ _ (by decide) hdec _ _⟩

section Run

variable (c : Collaborators) (cfg : Config) (e fuel : Nat)

theorem decodeRun_invariant (I : DecodeState → Prop) :
    ∀ (ps : List Pass) (st : DecodeState), I st →
      (∀ p ∈ ps, ∀ {s s' out}, I s → decodePass c cfg e fuel s p = .next s' out → I s') →
      ∀ x ∈ decodeRun c cfg e fuel st ps,
        (∃ s, I s ∧ x.1 = s.udpRecvTimeout) ∧ ∀ s' out, x.2 = .next s' out → I s'
  | [], _, _, _, _, hx => absurd hx (List.not_mem_nil _)
  | p :: ps, st, hst, hstep, x, hx => by
    have hp := @hstep p (List.mem_cons_self _ _)
    rw [decodeRun, List.mem_cons] at hx
    rcases hx with rfl | hx
    · exact ⟨⟨st, hst, rfl⟩, fun s' out h => hp hst h⟩
    · split at hx
      · next st' out h =>
        exact decodeRun_invariant I ps st' (hp hst h)
          (fun q hq => hstep q (List.mem_cons_of_mem _ hq)) x hx
      · exact absurd hx (List.not_mem_nil _)

theorem decodeRun_of_empty (st : DecodeState) :
    ∀ ps : List Pass, (∀ p ∈ ps, p.datagram = []) →
      (decodeRun c cfg e fuel st ps).map Prod.fst = ps.map fun _ => st.udpRecvTimeout
  | [], _ => rfl
  | p :: ps, h => by
    simp only [decodeRun, decodePass_of_empty c cfg e fuel st p (h p (List.mem_cons_self _ _)),
      List.map_cons, decodeRun_of_empty st ps fun q hq => h q (List.mem_cons_of_mem _ hq)]

/-- Once a `Receive` is called with `udp_receive_timeout`, every later one is too, for as long
as no pass reads two consecutive clock values more than `udp_dropout_reset_thresh` apart: the
dropout test only runs right after a decoded segment, on the time between two readings of
that pass, and not on the time since the previous datagram. -/
theorem decodeRun_keeps_receive_timeout (ps : List Pass) (st : DecodeState)
    (hst : st.udpRecvTimeout = cfg.udpReceiveTimeout)
    (hclock : ∀ p ∈ ps, ∀ t, seconds (p.feed.now t) (p.feed.now (t + 1)) ≤
      cfg.udpDropoutResetThresh) :
    ∀ x ∈ decodeRun c cfg e fuel st ps, x.1 = cfg.udpReceiveTimeout := by
  intro x hx
  obtain ⟨⟨s, hs, h⟩, -⟩ := decodeRun_invariant c cfg e fuel
    (fun s => s.udpRecvTimeout = cfg.udpReceiveTimeout) ps st hst (fun p hp s s' out hs h => by
      obtain ⟨-, ⟨ht, -⟩ | ⟨t, -, ht⟩⟩ := decodePass_eq_next c cfg e fuel h
      · exact ht.trans hs
      · rw [ht, receiveTimeoutAfter, if_neg (not_lt.mpr (hclock p hp t))]) x hx
  exact h.trans hs

theorem decodeRun_keeps_receive_timeout_over_a_round :
    let sensor : Collaborators := ⟨fun _ => 0, fun _ => 0, fun _ _ => .complete 0,
      fun buf _ => some { scandata := [⟨[]⟩]
                          segmentIndex := ⟨((buf.getD 8 0).toNat % 12 : Nat), by omega⟩ },
      fun _ _ => none⟩
    let passes : List Pass := (List.range 12).map fun i =>
      ⟨0, [2, 2, 2, 2, 0, 0, 0, 0, UInt8.ofNat i, 0, 0, 0, 0, 0, 0, 0], ⟨fun _ => true, fun _ => 0, fun _ => []⟩⟩
    (⟨List.replicate 16 0, 1, 0, .init⟩ : DecodeState).udpRecvTimeout =
        ({} : Config).udpReceiveTimeout ∧
      (∀ p ∈ passes, ∀ t, seconds (p.feed.now t) (p.feed.now (t + 1)) ≤
        ({} : Config).udpDropoutResetThresh) ∧
      ∀ x ∈ decodeRun sensor {} pointFieldEnableAll 1 ⟨List.replicate 16 0, 1, 0, .init⟩ passes,
        x.1 = ({} : Config).udpReceiveTimeout := by
  intro sensor passes
  have hclock : ∀ p ∈ passes, ∀ t, seconds (p.feed.now t) (p.feed.now (t + 1)) ≤
      ({} : Config).udpDropoutResetThresh := by
    simp only [passes, List.mem_map]
    rintro _ ⟨i, -, rfl⟩ t
    norm_num [seconds]
  exact ⟨rfl, hclock, decodeRun_keeps_receive_timeout _ _ _ _ _ _ rfl hclock⟩

/-- The sensor stops after one valid datagram, processed at clock 0: the `Receive` calls
issued 1, 2, 3 and 4 s later all return no bytes, and every one is called with the 1 s timeout,
although when the last two are issued more than the 2 s threshold has passed since the last
`Receive` that returned bytes. -/
theorem receive_timeout_stays_bounded_after_dropout :
    let sensor : Collaborators :=
      ⟨fun _ => 0, fun _ => 0, fun _ _ => .complete 0, fun _ _ => some {}, fun _ _ => some {}⟩
    let feed : Feed := ⟨fun _ => true, fun _ => 0, fun _ => []⟩
    (decodeRun sensor {} e (fuel + 1) (.init 0)
      [⟨0, [2, 2, 2, 2, 0, 0, 0, 0, 0, 0, 0, 0, 0, 0, 0, 0], feed⟩, ⟨1000000000, [], feed⟩,
        ⟨2000000000, [], feed⟩, ⟨3000000000, [], feed⟩, ⟨4000000000, [], feed⟩]).map Prod.fst =
      [-1, 1, 1, 1, 1] ∧
    seconds 0 3000000000 > ({} : Config).udpDropoutResetThresh := by
  intro sensor feed
  refine ⟨?_, by norm_num [seconds]⟩
  have hlen : 16 ≤ (List.replicate recvBufferSize (0 : UInt8)).length := by
    rw [List.length_replicate]; decide
  have hseg : processSegment {} e .init {} = .ok (.init, []) := rfl
  have htimeout : receiveTimeoutAfter {} 0 0 = 1 := by norm_num [receiveTimeoutAfter, seconds]
  simp only [DecodeState.init]
  generalize List.replicate recvBufferSize (0 : UInt8) = buf at hlen ⊢
  have hpass : decodePass sensor {} e (fuel + 1) ⟨buf, -1, 0, .init⟩
        ⟨0, [2, 2, 2, 2, 0, 0, 0, 0, 0, 0, 0, 0, 0, 0, 0, 0], feed⟩ =
      .next ⟨[2, 2, 2, 2, 0, 0, 0, 0, 0, 0, 0, 0, 0, 0, 0, 0] ++ buf.drop 16, 1, 0, .init⟩ [] := by
    rw [decodePass, decodeDatagram, receiveInto_of_le (by simpa using hlen)]
    simp [sensor, feed, startsMessage, frame, accumulate, accumulateStep, crcRegion, bytesValid,
      udpMsgStartSeq, compactFraming, UInt32.size, hseg, htimeout]
  rw [decodeRun, hpass, List.map_cons, decodeRun_of_empty _ _ _ _ _ _ (by simp)]
  rfl

/-- `udp_buffer` never shrinks: every pass of a run leaves it at least as long as it was at the
start of the run. -/
theorem decodeRun_buffer_never_shrinks (ps : List Pass) (st : DecodeState) :
    ∀ x ∈ decodeRun c cfg e fuel st ps, ∀ s out, x.2 = .next s out →
      st.udpBuffer.length ≤ s.udpBuffer.length := fun x hx =>
  (decodeRun_invariant c cfg e fuel (fun s => st.udpBuffer.length ≤ s.udpBuffer.length) ps st
    le_rfl (fun _ _ _ _ _ hs h => hs.trans (decodePass_eq_next c cfg e fuel h).1) x hx).2

theorem decodeRun_buffer_never_shrinks_over_a_round :
    let sensor : Collaborators := ⟨fun _ => 0, fun _ => 0, fun _ _ => .complete 0,
      fun buf _ => some { scandata := [⟨[]⟩]
                          segmentIndex := ⟨((buf.getD 8 0).toNat % 12 : Nat), by omega⟩ },
      fun _ _ => none⟩
    let passes : List Pass := (List.range 12).map fun i =>
      ⟨0, [2, 2, 2, 2, 0, 0, 0, 0, UInt8.ofNat i, 0, 0, 0, 0, 0, 0, 0], ⟨fun _ => true, fun _ => 0, fun _ => []⟩⟩
    let st : DecodeState := ⟨List.replicate 16 0, -1, 0, .init⟩
    ∃ x ∈ decodeRun sensor {} pointFieldEnableAll 1 st passes, ∃ s out,
      x.2 = .next s out ∧ st.udpBuffer.length ≤ s.udpBuffer.length := by
  intro sensor passes st
  obtain ⟨s, out, hpass⟩ : ∃ s out, decodePass sensor {} pointFieldEnableAll 1 st
      ⟨0, [2, 2, 2, 2, 0, 0, 0, 0, 0, 0, 0, 0, 0, 0, 0, 0], ⟨fun _ => true, fun _ => 0, fun _ => []⟩⟩ =
        .next s out := ⟨_, _, by simp only [sensor, st]; rfl⟩
  have hmem : (st.udpRecvTimeout, PassResult.next s out) ∈
      decodeRun sensor {} pointFieldEnableAll 1 st passes := by
    rw [← hpass]
    exact List.mem_cons_self _ _
  exact ⟨_, hmem, s, out, rfl, decodeRun_buffer_never_shrinks _ _ _ _ _ _ _ hmem _ _ rfl⟩

/-- Compact datagrams of 16 bytes, each completed by one 16-byte chunk: every one inserts its
chunk into `udp_buffer` and nothing removes it, so pass `i` leaves the buffer with
`64 KiB + 16 (i + 1)` bytes, on the default configuration and for every run length. -/
theorem udp_buffer_grows_with_fragmented_datagrams (k : Nat) :
    let sensor : Collaborators := ⟨fun _ => 0, fun _ => 0,
      fun _ br => if br < 32 then .incomplete 28 else .complete 28, fun _ _ => some {},
      fun _ _ => some {}⟩
    let feed : Feed := ⟨fun _ => true, fun _ => 0, fun _ => List.replicate 16 0⟩
    (decodeRun sensor {} e (fuel + 4) (.init 0)
      (List.replicate k ⟨0, [2, 2, 2, 2, 0, 0, 0, 0, 0, 0, 0, 0, 0, 0, 0, 0], feed⟩)).map Prod.snd =
      (List.range k).map fun i => .next ⟨[2, 2, 2, 2, 0, 0, 0, 0, 0, 0, 0, 0, 0, 0, 0, 0] ++
        List.replicate (recvBufferSize - 16 + 16 * (i + 1)) 0, 1, 0, .init⟩ [] := by
  intro sensor feed
  have hseg : processSegment {} e .init {} = .ok (.init, []) := rfl
  have htimeout : receiveTimeoutAfter {} 0 0 = 1 := by norm_num [receiveTimeoutAfter, seconds]
  have hpass : ∀ (buf : List UInt8) (n : Nat) (τ : ℚ), 16 ≤ buf.length →
      buf.drop 16 = List.replicate n 0 → withinTimeout τ 0 0 = true →
      decodePass sensor {} e (fuel + 4) ⟨buf, τ, 0, .init⟩
        ⟨0, [2, 2, 2, 2, 0, 0, 0, 0, 0, 0, 0, 0, 0, 0, 0, 0], feed⟩ =
      .next ⟨[2, 2, 2, 2, 0, 0, 0, 0, 0, 0, 0, 0, 0, 0, 0, 0] ++ List.replicate (n + 16) 0, 1, 0,
        .init⟩ [] := by
    intro buf n τ hlen hdrop hτ
    rw [decodePass, decodeDatagram, receiveInto_of_le (by simpa using hlen)]
    simp [sensor, feed, startsMessage, frame, accumulate, accumulateStep, crcRegion, bytesValid,
      udpMsgStartSeq, compactFraming, UInt32.size, hseg, htimeout, hdrop, hτ, recvBufferSize]
    rw [Nat.add_comm, List.replicate_add]
    rfl
  have hrun : ∀ (k : Nat) (buf : List UInt8) (n : Nat) (τ : ℚ), 16 ≤ buf.length →
      buf.drop 16 = List.replicate n 0 → withinTimeout τ 0 0 = true →
      (decodeRun sensor {} e (fuel + 4) ⟨buf, τ, 0, .init⟩
        (List.replicate k ⟨0, [2, 2, 2, 2, 0, 0, 0, 0, 0, 0, 0, 0, 0, 0, 0, 0], feed⟩)).map Prod.snd =
      (List.range k).map fun i => .next ⟨[2, 2, 2, 2, 0, 0, 0, 0, 0, 0, 0, 0, 0, 0, 0, 0] ++
        List.replicate (n + 16 * (i + 1)) 0, 1, 0, .init⟩ [] := by
    intro k
    induction k with
    | zero => intros; rfl
    | succ k ih =>
      intro buf n τ hlen hdrop hτ
      rw [List.replicate_succ, decodeRun, hpass buf n τ hlen hdrop hτ, List.map_cons,
        ih _ (n + 16) 1 (by simp) (by simp) (by norm_num [withinTimeout, seconds]),
        List.range_succ_eq_map, List.map_cons, List.map_map]
      congr 2
      funext i
      rw [Function.comp_apply, show n + 16 + 16 * (i + 1) = n + 16 * (i.succ + 1) by omega]
  exact hrun k _ _ _ (by rw [List.length_replicate]; decide) (List.drop_replicate _ _ _)
    (by decide)

end Run

end MultiscanDriver
