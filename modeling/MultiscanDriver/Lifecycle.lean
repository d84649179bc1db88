import MultiscanDriver.DecodeLoop

/-!
# The connection loop

`run_receiver`'s `while(this->is_running)`: socket and SOPAS setup, the decode loop from a fresh
state, the stop commands and the restart sleep. The readings of `is_running`, `isConnected()` and
`Init`, and the decode loop's passes, are inputs.
-/
namespace MultiscanDriver

/-- Whether a fault is an exception that the decode loop's `catch (const std::exception&)` takes.
A reversed payload range reaches `std::vector`'s range constructor, which throws
`std::length_error`. The others are undefined behaviour, which no `catch` sees: the CRC read
`Convert4Byte(udp_buffer.data() + bytes_valid - 4)` before the buffer, `std::array` indexed past
its end, `front()` of an empty deque. -/
def Fault.caught : Fault → Bool
  | .payloadRangeReversed _ _ => true
  | .crcReadOutOfRange _ | .slotIndexOutOfRange _ | .frontOfEmptySlot => false

inductive SopasCommand where
  | authorization
  | multiScanStart (hostname : String) (port scandataformat : Int) (imuEnable : Bool)
      (imuUdpPort performanceprofilenumber : Int)
  | multiScanStop (imuEnable : Bool)
  deriving DecidableEq, Repr

inductive Action where
  | sopas (cmd : SopasCommand)
  | publish (msg : Published)
  | sleep (ms : Nat)

def Action.published? : Action → Option Published
  | .publish msg => some msg
  | _ => none

/-- `static_cast<size_t>(error_restart_timeout * 1e3)`. The product is the `double` one, of the
`double` the rational parameter stands for; the cast truncates toward zero, and the cast of a
negative product, undefined, is read as 0. -/
def restartDelayMs (cfg : Config) : Nat :=
  (Float.ofInt cfg.errorRestartTimeout.num / Float.ofNat cfg.errorRestartTimeout.den * 1e3).toUInt64.toNat

/-- `sendAuthorization()` and `sendMultiScanStartCmd(driver_hostname, lidar_udp_port,
2 - use_msgpack, true, lidar_udp_port)`, whose `performanceprofilenumber` defaults to -1. -/
def startCommands (cfg : Config) : List Action :=
  [.sopas .authorization,
    .sopas (.multiScanStart cfg.driverHostname cfg.lidarUdpPort.val
      (2 - if cfg.useMsgpack then 1 else 0) true cfg.lidarUdpPort.val (-1))]

def stopCommands : List Action :=
  [.sopas .authorization, .sopas (.multiScanStop true)]

structure Iteration where
  isRunning : Bool
  isConnected : Bool
  pass : Pass

/-- What one iteration of `while(this->is_running)` reads from outside: the guard,
`udp_recv_socket.Init`, `isConnected()` after `init_device()`, the clock when
`timestamp_last_udp_recv` is declared, the decode loop's iterations, `isConnected()` before the
stop commands, and `is_running` before the restart sleep. -/
structure Attempt where
  isRunning : Bool
  udpInit : Bool
  connected : Bool
  now : Int
  iterations : List Iteration
  connectedAtStop : Bool
  runningAtSleep : Bool

inductive LoopExit where
  | guard
  | caught (f : Fault)
  | undefined (f : Fault)
  | running
  deriving DecidableEq, Repr

def LoopExit.finished : LoopExit → Bool
  | .guard | .caught _ => true
  | .undefined _ | .running => false

/-- `while(this->is_running && sopas_tcp.isConnected())` around the decode pass, inside the
`try`: the messages published and how the loop ends. -/
def decodeLoop (c : Collaborators) (cfg : Config) (e fuel : Nat) :
    DecodeState → List Iteration → List Published × LoopExit
  | _, [] => ([], .running)
  | st, it :: its =>
    if it.isRunning && it.isConnected then
      match decodePass c cfg e fuel st it.pass with
      | .next st' out => let r := decodeLoop c cfg e fuel st' its; (out ++ r.1, r.2)
      | .fault f => ([], if f.caught then .caught f else .undefined f)
      | .stalled => ([], .running)
    else ([], .guard)

def restartSleep (cfg : Config) (a : Attempt) : List Action :=
  if a.runningAtSleep then [.sleep (restartDelayMs cfg)] else []

/-- The body of `while(this->is_running)`: the actions taken, and whether the body reaches its
end. -/
def connectAttempt (c : Collaborators) (cfg : Config) (e fuel : Nat) (a : Attempt) :
    List Action × Bool :=
  if a.udpInit then
    let r := decodeLoop c cfg e fuel (.init a.now) a.iterations
    ((if a.connected then startCommands cfg else []) ++ r.1.map .publish ++
      (if r.2.finished then (if a.connectedAtStop then stopCommands else []) ++ restartSleep cfg a
        else []), r.2.finished)
  else (restartSleep cfg a, true)

/-- `MultiscanNode::run_receiver`: the attempts in order while the guard reads `true` and each
reaches the end of its body. -/
def runReceiver (c : Collaborators) (cfg : Config) (e fuel : Nat) : List Attempt → List Action
  | [] => []
  | a :: as =>
    if a.isRunning then
      (connectAttempt c cfg e fuel a).1 ++
        if (connectAttempt c cfg e fuel a).2 then runReceiver c cfg e fuel as else []
    else []

def guardedPasses (its : List Iteration) : List Pass :=
  (its.takeWhile fun it => it.isRunning && it.isConnected).map Iteration.pass

def connectionSegments (c : Collaborators) (cfg : Config) (e fuel : Nat) :
    List Attempt → List (List ScanSegmentParserOutput)
  | [] => []
  | a :: as =>
    if a.isRunning then
      (if a.udpInit then decodedSegments c cfg e fuel (.init a.now) (guardedPasses a.iterations)
        else []) ::
        if (connectAttempt c cfg e fuel a).2 then connectionSegments c cfg e fuel as else []
    else []

theorem crcRegion_error {udpBuffer : List UInt8} {bytesReceived : Nat} {f : Framing}
    {err : Fault} (h : crcRegion udpBuffer bytesReceived f = .error err) :
    err.caught ∨ ∃ bv < 4, err = .crcReadOutOfRange bv := by
  dsimp only [crcRegion] at h
  split at h
  · next hbv => cases h; exact .inr ⟨_, hbv, rfl⟩
  · split at h
    · cases h; exact .inl rfl
    · cases h

theorem decodeDatagram_fault {c : Collaborators} {cfg : Config} {fuel : Nat} {timeout : ℚ}
    {udpBuffer : List UInt8} {p : Pass} {f : Fault}
    (h : decodeDatagram c cfg fuel timeout udpBuffer p = .fault f) :
    f.caught ∨ ∃ bv < 4, f = .crcReadOutOfRange bv := by
  unfold decodeDatagram at h
  generalize receiveInto udpBuffer p.datagram = r at h
  obtain ⟨buf, br⟩ := r
  dsimp only at h
  split at h
  · cases h
  · split at h
    · cases h
    · cases h
    · split at h
      · next herr => cases h; exact crcRegion_error herr
      · split at h
        · cases h
        · split at h <;> cases h

section Contract

variable {c : Collaborators} {cfg : Config} {e fuel : Nat}
  (hmax : 1 ≤ cfg.maxSegmentBuffering.val) (hdec : DecoderContract c cfg)
include hmax hdec

theorem decodePass_contained {st : DecodeState} {round : List ScanSegmentParserOutput}
    (hr : Represents st.assembler round) (p : Pass) :
    match decodePass c cfg e fuel st p with
    | .next st' _ => ∃ round', Represents st'.assembler round'
    | .fault f => f.caught ∨ ∃ bv < 4, f = .crcReadOutOfRange bv
    | .stalled => True := by
  have hs := decodeDatagram_sound c cfg fuel st.udpRecvTimeout st.udpBuffer p
  unfold decodePass
  generalize hd : decodeDatagram c cfg fuel st.udpRecvTimeout st.udpBuffer p = d at hs
  cases d with
  | stalled => trivial
  | fault err => exact decodeDatagram_fault hd
  | skipped buf => exact ⟨round, hr⟩
  | segment seg buf br t =>
    obtain ⟨-, -, start, hseg⟩ := hs
    obtain ⟨asm, hstep, hr'⟩ := @step_refines cfg e _ _ _ hmax (hdec _ _ _ hseg) hr
    simp only [hstep]
    exact ⟨_, hr'⟩

theorem decodeLoop_undefined_reads_before_buffer :
    ∀ (its : List Iteration) (st : DecodeState) (round : List ScanSegmentParserOutput),
      Represents st.assembler round → ∀ f, (decodeLoop c cfg e fuel st its).2 = .undefined f →
        ∃ bv < 4, f = .crcReadOutOfRange bv
  | [], _, _, _, _ => nofun
  | it :: its, st, round, hr, f => by
    have hc := @decodePass_contained c cfg e fuel hmax hdec _ _ hr it.pass
    unfold decodeLoop
    split
    · split
      · next st' out hp =>
        rw [hp] at hc
        obtain ⟨round', hr'⟩ := hc
        exact decodeLoop_undefined_reads_before_buffer its st' round' hr' f
      · next f' hp =>
        rw [hp] at hc
        rcases hc with hc | ⟨bv, hbv, rfl⟩
        · simp [hc]
        · intro hu
          cases hu
          exact ⟨bv, hbv, rfl⟩
      · nofun
    · nofun

/-- With a depth of at least one and a decoder that keeps to its contract, every iteration of
`while(this->is_running)` is still in its decode loop, reaches the stop commands and the restart
sleep, or ends in the CRC read before the buffer of a datagram with fewer than four valid bytes:
the assembler never ends the receiver thread in undefined behaviour. -/
theorem connectAttempt_reaches_restart_or_reads_before_buffer (a : Attempt) :
    (connectAttempt c cfg e fuel a).2 = true ∨
      (decodeLoop c cfg e fuel (.init a.now) a.iterations).2 = .running ∨
      ∃ bv < 4, (decodeLoop c cfg e fuel (.init a.now) a.iterations).2 =
        .undefined (.crcReadOutOfRange bv) := by
  unfold connectAttempt
  split
  · dsimp only
    generalize hx : (decodeLoop c cfg e fuel (.init a.now) a.iterations).2 = x
    cases x with
    | guard | caught _ => exact .inl rfl
    | running => exact .inr (.inl rfl)
    | undefined f =>
      obtain ⟨bv, hbv, rfl⟩ :=
        decodeLoop_undefined_reads_before_buffer hmax hdec _ _ _ represents_init f hx
      exact .inr (.inr ⟨bv, hbv, rfl⟩)
  · exact .inl rfl

end Contract

theorem connectAttempt_reaches_restart_on_wrapped_length :
    let sensor : Collaborators := ⟨fun _ => 0xFFFFFFFF, fun _ => 0, fun _ _ => .complete 0,
      fun _ _ => some {}, fun _ _ => some {}⟩
    let cfg : Config := { useMsgpack := true }
    let wrapped : Attempt := ⟨true, true, true, 0, [⟨true, true,
      ⟨0, [2, 2, 2, 2, 0xFF, 0xFF, 0xFF, 0xFF, 0, 0, 0, 0, 0], ⟨fun _ => true, fun _ => 0, fun _ => []⟩⟩⟩],
      true, true⟩
    1 ≤ cfg.maxSegmentBuffering.val ∧ DecoderContract sensor cfg ∧
      ((connectAttempt sensor cfg pointFieldEnableAll 1 wrapped).2 = true ∨
        (decodeLoop sensor cfg pointFieldEnableAll 1 (.init wrapped.now) wrapped.iterations).2 =
          .running ∨
        ∃ bv < 4, (decodeLoop sensor cfg pointFieldEnableAll 1 (.init wrapped.now)
          wrapped.iterations).2 = .undefined (.crcReadOutOfRange bv)) := by
  intro sensor cfg wrapped
  have hdec : DecoderContract sensor cfg := by
    intro _ _ seg h
    cases h
    exact ⟨le_rfl, by decide⟩
  exact ⟨by decide, hdec, connectAttempt_reaches_restart_or_reads_before_buffer (by decide) hdec _⟩

section Publish

variable (c : Collaborators) (cfg : Config) (e fuel : Nat)

theorem decodeLoop_published (st : DecodeState) (its : List Iteration) :
    (decodeLoop c cfg e fuel st its).1 =
      (decodeRun c cfg e fuel st (guardedPasses its)).flatMap (fun x => x.2.published) := by
  induction its generalizing st with
  | nil => rfl
  | cons it its ih =>
    by_cases hg : (it.isRunning && it.isConnected) = true
    · simp only [decodeLoop, guardedPasses, List.takeWhile_cons, hg, if_true, List.map_cons,
        decodeRun, List.flatMap_cons]
      cases decodePass c cfg e fuel st it.pass <;> simp [PassResult.published, ih, guardedPasses]
    · simp [decodeLoop, guardedPasses, List.takeWhile_cons, hg, decodeRun]

@[simp] theorem filterMap_publish (msgs : List Published) :
    (msgs.map Action.publish).filterMap Action.published? = msgs := by
  induction msgs with
  | nil => rfl
  | cons m ms ih => simp only [List.map_cons, List.filterMap_cons, Action.published?, ih]

@[simp] theorem filterMap_startCommands (b : Bool) :
    (if b then startCommands cfg else []).filterMap Action.published? = [] := by
  cases b <;> rfl

@[simp] theorem filterMap_restartSleep (a : Attempt) :
    (restartSleep cfg a).filterMap Action.published? = [] := by
  unfold restartSleep
  split <;> rfl

@[simp] theorem filterMap_closing (a : Attempt) (b : Bool) :
    (if b then (if a.connectedAtStop then stopCommands else []) ++ restartSleep cfg a
      else []).filterMap Action.published? = [] := by
  cases b
  · rfl
  · rw [if_pos rfl, List.filterMap_append, filterMap_restartSleep]
    split <;> rfl

theorem connectAttempt_published (hmax : 1 ≤ cfg.maxSegmentBuffering.val)
    (hdec : DecoderContract c cfg) (a : Attempt) :
    (connectAttempt c cfg e fuel a).1.filterMap Action.published? =
      referenceRun cfg e [] (if a.udpInit then
        decodedSegments c cfg e fuel (.init a.now) (guardedPasses a.iterations) else []) := by
  unfold connectAttempt
  split
  · simp only [List.filterMap_append, filterMap_startCommands, filterMap_publish,
      filterMap_closing, List.nil_append, List.append_nil, decodeLoop_published]
    exact decodeRun_refines c cfg e fuel hmax hdec _ _ [] represents_init
  · exact filterMap_restartSleep cfg a

/-- With a depth of at least one and a decoder that keeps to its contract, the receiver thread
publishes, connection after connection, exactly what the rounds reference publishes from an
empty round on each connection's segments: no round spans two connections, and a round cut
short by a reconnect is never published. -/
theorem runReceiver_publishes_rounds (hmax : 1 ≤ cfg.maxSegmentBuffering.val)
    (hdec : DecoderContract c cfg) :
    ∀ as : List Attempt, (runReceiver c cfg e fuel as).filterMap Action.published? =
      (connectionSegments c cfg e fuel as).flatMap (referenceRun cfg e [])
  | [] => rfl
  | a :: as => by
    simp only [runReceiver, connectionSegments]
    split
    · rw [List.filterMap_append, connectAttempt_published c cfg e fuel hmax hdec, List.flatMap_cons]
      congr 1
      split
      · exact runReceiver_publishes_rounds hmax hdec as
      · rfl
    · rfl

end Publish

theorem runReceiver_publishes_rounds_over_a_reconnect :
    let sensor : Collaborators := ⟨fun _ => 0, fun _ => 0, fun _ _ => .complete 0,
      fun buf _ => some { scandata := [⟨[]⟩]
                          segmentIndex := ⟨((buf.getD 8 0).toNat % 12 : Nat), by omega⟩ },
      fun _ _ => none⟩
    let decoding : List Iteration := (List.range 12).map fun i => ⟨true, true,
      ⟨0, [2, 2, 2, 2, 0, 0, 0, 0, UInt8.ofNat i, 0, 0, 0, 0, 0, 0, 0], ⟨fun _ => true, fun _ => 0, fun _ => []⟩⟩⟩
    let lost : Attempt := ⟨true, true, true, 0,
      decoding.take 6 ++ [⟨true, false, ⟨0, [], ⟨fun _ => true, fun _ => 0, fun _ => []⟩⟩⟩], false, true⟩
    let full : Attempt := ⟨true, true, true, 0, decoding, true, true⟩
    1 ≤ ({} : Config).maxSegmentBuffering.val ∧ DecoderContract sensor {} ∧
      (runReceiver sensor {} pointFieldEnableAll 1 [lost, full]).filterMap Action.published? =
        (connectionSegments sensor {} pointFieldEnableAll 1 [lost, full]).flatMap
          (referenceRun {} pointFieldEnableAll []) := by
  intro sensor decoding lost full
  have hdec : DecoderContract sensor {} := by
    intro _ _ seg h
    cases h
    exact ⟨Int.natCast_nonneg _, by dsimp only; omega⟩
  exact ⟨by decide, hdec, runReceiver_publishes_rounds _ _ _ _ (by decide) hdec _⟩

end MultiscanDriver
