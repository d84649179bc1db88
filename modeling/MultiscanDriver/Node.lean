import MultiscanDriver.Lifecycle

/-!
# Starting and stopping the node

`recv_thread` and `is_running` as the constructor, `start()`, `shutdown()` and the destructor
change them from the owning thread, interleaved with the receiver's steps through `run_receiver`
and with a clock that counts milliseconds. `Receive` and `ForceStop()` are not among the sources
and follow the spec: a `Receive` with a negative timeout returns only on data or on
`ForceStop()`, and `ForceStop()` unblocks a pending wait only.
-/
namespace MultiscanDriver

/-- Where `recv_thread` is: not joinable (never started, or joined), at a point of
`run_receiver` (the outer guard, the set-up of a connection, the decode loop's guard, before and
in its `Receive`, the rest of the pass, the stop commands, the test before the restart sleep, the
sleep until `wake`), or returned and not yet joined. `blocking` is `udp_recv_timeout < 0`. -/
inductive RecvThread where
  | notJoinable
  | atGuard
  | settingUp
  | atLoopGuard (blocking : Bool)
  | atReceive (blocking : Bool)
  | receiving (blocking : Bool)
  | processing
  | closing
  | atSleepCheck
  | sleeping (wake : Nat)
  | returned
  deriving DecidableEq, Repr

def RecvThread.joinable : RecvThread → Bool
  | .notJoinable => false
  | _ => true

@[simp] theorem RecvThread.joinable_eq_true {t : RecvThread} :
    t.joinable = true ↔ t ≠ .notJoinable := by
  cases t <;> simp [RecvThread.joinable]

inductive Caller where
  | idle
  | stopping
  | joining
  deriving DecidableEq, Repr

/-- What the two threads share of a `MultiscanNode`, with the owner's position and the clock. -/
structure MultiscanNode where
  isRunning : Bool
  recvThread : RecvThread
  caller : Caller
  clock : Nat
  deriving DecidableEq, Repr

/-- `join()` of a `std::thread` that is not joinable throws `std::system_error`; thrown out of
the destructor, it ends the process through `std::terminate`. -/
inductive NodeFault where
  | joinNotJoinable
  deriving DecidableEq, Repr

namespace MultiscanNode

def start (n : MultiscanNode) : MultiscanNode :=
  if !n.recvThread.joinable then { n with isRunning := true, recvThread := .atGuard } else n

/-- `MultiscanNode::MultiscanNode(autostart)`: `is_running` holds its initialiser `true` and
`recv_thread` is default-constructed, until `start()` when `autostart` is set. -/
def construct (autostart : Bool) (clock : Nat) : MultiscanNode :=
  if autostart then start ⟨true, .notJoinable, .idle, clock⟩ else ⟨true, .notJoinable, .idle, clock⟩

/-- `MultiscanNode::shutdown`, which the destructor calls, up to `is_running = false`. -/
def shutdown (n : MultiscanNode) : MultiscanNode :=
  if n.isRunning || n.recvThread.joinable then { n with isRunning := false, caller := .stopping }
  else n

/-- The rest of `shutdown()`: `udp_recv_socket.ForceStop()`, which makes a pending `Receive`
return, then `recv_thread.join()`, which blocks. -/
def stopAndJoin (n : MultiscanNode) : Except NodeFault MultiscanNode :=
  if n.recvThread.joinable then
    .ok { n with
      recvThread := match n.recvThread with
        | .receiving _ => .processing
        | t => t
      caller := .joining }
  else .error .joinNotJoinable

theorem stopAndJoin_eq_ok {n n' : MultiscanNode} (h : n.stopAndJoin = .ok n') :
    n.recvThread.joinable = true ∧ n'.isRunning = n.isRunning ∧ n'.clock = n.clock ∧
      n'.caller = .joining ∧
      n'.recvThread = match n.recvThread with
        | .receiving _ => .processing
        | t => t := by
  unfold stopAndJoin at h
  split at h
  · next hj => cases h; exact ⟨hj, rfl, rfl, rfl, rfl⟩
  · cases h

theorem stopAndJoin_faults_iff {n : MultiscanNode} :
    (∃ f, n.stopAndJoin = .error f) ↔ n.recvThread = .notJoinable := by
  unfold stopAndJoin
  split
  · next hj => simpa using hj
  · next hj => exact iff_of_true ⟨_, rfl⟩ (by simpa using hj)

end MultiscanNode

inductive NodeEvent where
  | start
  | shutdown
  | forceStop
  | joined
  | guard
  | setUp (udpInit : Bool)
  | loopGuard (isConnected : Bool)
  | receive
  | datagram
  | expire
  | passEnds (blocking : Bool)
  | passThrows
  | closed
  | sleepCheck
  | wake
  | tick
  deriving DecidableEq, Repr

def NodeEvent.byReceiver : NodeEvent → Bool
  | .start | .shutdown | .forceStop | .joined | .tick => false
  | _ => true

namespace MultiscanNode

def enabled (n : MultiscanNode) : NodeEvent → Bool
  | .start | .shutdown => n.caller == .idle
  | .forceStop => n.caller == .stopping
  | .joined => n.caller == .joining && n.recvThread == .returned
  | .guard => n.recvThread == .atGuard
  | .setUp _ => n.recvThread == .settingUp
  | .loopGuard _ => match n.recvThread with
    | .atLoopGuard _ => true
    | _ => false
  | .receive => match n.recvThread with
    | .atReceive _ => true
    | _ => false
  | .datagram => match n.recvThread with
    | .receiving _ => true
    | _ => false
  | .expire => n.recvThread == .receiving false
  | .passEnds _ | .passThrows => n.recvThread == .processing
  | .closed => n.recvThread == .closing
  | .sleepCheck => n.recvThread == .atSleepCheck
  | .wake => match n.recvThread with
    | .sleeping w => decide (w ≤ n.clock)
    | _ => false
  | .tick => true

/-- Where the receiver goes from where it is, given `is_running` and the step's reading. A
connection whose `Init` fails goes straight to the restart test; one that starts calls its first
`Receive` with `udp_recv_timeout = -1`. -/
def advance (isRunning : Bool) (clock delay : Nat) (t : RecvThread) (ev : NodeEvent) :
    RecvThread :=
  match t with
  | .atGuard => match ev with
    | .guard => if isRunning then .settingUp else .returned
    | _ => t
  | .settingUp => match ev with
    | .setUp udpInit => if udpInit then .atLoopGuard true else .atSleepCheck
    | _ => t
  | .atLoopGuard b => match ev with
    | .loopGuard isConnected => if isRunning && isConnected then .atReceive b else .closing
    | _ => t
  | .atReceive b => match ev with
    | .receive => .receiving b
    | _ => t
  | .receiving _ => match ev with
    | .datagram | .expire => .processing
    | _ => t
  | .processing => match ev with
    | .passEnds b => .atLoopGuard b
    | .passThrows => .closing
    | _ => t
  | .closing => match ev with
    | .closed => .atSleepCheck
    | _ => t
  | .atSleepCheck => match ev with
    | .sleepCheck => if isRunning then .sleeping (clock + delay) else .atGuard
    | _ => t
  | .sleeping _ => match ev with
    | .wake => .atGuard
    | _ => t
  | .notJoinable | .returned => t

def next (cfg : Config) (n : MultiscanNode) (ev : NodeEvent) : Except NodeFault MultiscanNode :=
  match ev with
  | .start => .ok n.start
  | .shutdown => .ok n.shutdown
  | .forceStop => n.stopAndJoin
  | .joined => .ok { n with recvThread := .notJoinable, caller := .idle }
  | .tick => .ok { n with clock := n.clock + 1 }
  | _ => .ok { n with recvThread := advance n.isRunning n.clock (restartDelayMs cfg) n.recvThread ev }

theorem next_byReceiver {cfg : Config} {n n' : MultiscanNode} {ev : NodeEvent}
    (hev : ev.byReceiver = true) (h : n.next cfg ev = .ok n') :
    n' = { n with recvThread := advance n.isRunning n.clock (restartDelayMs cfg) n.recvThread ev } := by
  cases ev <;> first | (cases h; rfl) | cases hev

end MultiscanNode

open MultiscanNode

inductive NodeRun (cfg : Config) : MultiscanNode → List NodeEvent → MultiscanNode → Prop
  | nil (n : MultiscanNode) : NodeRun cfg n [] n
  | cons {n n' n'' : MultiscanNode} {ev : NodeEvent} {evs : List NodeEvent} :
      n.enabled ev = true → n.next cfg ev = .ok n' → NodeRun cfg n' evs n'' →
        NodeRun cfg n (ev :: evs) n''

theorem NodeRun.invariant_on {cfg : Config} (E : NodeEvent → Prop) (I : MultiscanNode → Prop)
    (hstep : ∀ {n n' ev}, E ev → I n → n.enabled ev = true → n.next cfg ev = .ok n' → I n')
    {n n' : MultiscanNode} {evs : List NodeEvent} (hrun : NodeRun cfg n evs n')
    (hevs : ∀ ev ∈ evs, E ev) (h : I n) : I n' := by
  induction hrun with
  | nil => exact h
  | cons hen hnext _ ih =>
    exact ih (fun ev hev => hevs ev (List.mem_cons_of_mem _ hev))
      (hstep (hevs _ (List.mem_cons_self _ _)) h hen hnext)

theorem NodeRun.invariant {cfg : Config} (I : MultiscanNode → Prop)
    (hstep : ∀ {n n' ev}, I n → n.enabled ev = true → n.next cfg ev = .ok n' → I n')
    {n n' : MultiscanNode} {evs : List NodeEvent} (hrun : NodeRun cfg n evs n') (h : I n) :
    I n' :=
  hrun.invariant_on (fun _ => True) I (fun _ => hstep) (fun _ _ => trivial) h

theorem next_clock {cfg : Config} {n n' : MultiscanNode} {ev : NodeEvent}
    (h : n.next cfg ev = .ok n') : n.clock ≤ n'.clock := by
  cases hb : ev.byReceiver
  · cases ev with
    | start => cases h; unfold start; split <;> exact Nat.le_refl _
    | shutdown => cases h; unfold shutdown; split <;> exact Nat.le_refl _
    | forceStop => exact Nat.le_of_eq (stopAndJoin_eq_ok h).2.2.1.symm
    | joined => cases h; exact Nat.le_refl _
    | tick => cases h; exact Nat.le_succ _
    | _ => cases hb
  · rw [next_byReceiver hb h]

theorem enabled_byReceiver {n : MultiscanNode} {ev : NodeEvent} (hev : ev.byReceiver = true)
    (hen : n.enabled ev = true) : n.recvThread ≠ .notJoinable := by
  intro h
  cases ev <;> simp [enabled, h, NodeEvent.byReceiver] at hen hev

/-- While `is_running` is set a receiver thread runs `run_receiver`, and an owner inside
`shutdown()` has cleared `is_running` and stops a thread that exists. -/
def NodeSafe (n : MultiscanNode) : Prop :=
  (n.isRunning = true → n.recvThread ≠ .notJoinable ∧ n.recvThread ≠ .returned) ∧
    (n.caller ≠ .idle → n.isRunning = false ∧ n.recvThread ≠ .notJoinable)

theorem advance_ne_notJoinable {b : Bool} {clock delay : Nat} {t : RecvThread} {ev : NodeEvent}
    (h : t ≠ .notJoinable) : advance b clock delay t ev ≠ .notJoinable := by
  unfold advance
  split <;> (try split) <;> (try split) <;> simp_all

theorem advance_running_ne_returned {clock delay : Nat} {t : RecvThread} {ev : NodeEvent}
    (h : t ≠ .returned) : advance true clock delay t ev ≠ .returned := by
  unfold advance
  split <;> (try split) <;> (try split) <;> simp_all

theorem next_safe {cfg : Config} {n n' : MultiscanNode} {ev : NodeEvent} (h : NodeSafe n)
    (hen : n.enabled ev = true) (hnext : n.next cfg ev = .ok n') : NodeSafe n' := by
  obtain ⟨hrun, hcall⟩ := h
  cases hb : ev.byReceiver
  · cases ev with
    | start =>
      cases hnext
      have hc : n.caller = .idle := by simpa [enabled] using hen
      unfold start
      split
      · exact ⟨fun _ => ⟨nofun, nofun⟩, fun h => absurd hc h⟩
      · exact ⟨hrun, hcall⟩
    | shutdown =>
      cases hnext
      unfold shutdown
      split
      · next hj =>
        refine ⟨nofun, fun _ => ⟨rfl, ?_⟩⟩
        cases hr : n.isRunning
        · simpa [hr] using hj
        · exact (hrun hr).1
      · exact ⟨hrun, hcall⟩
    | forceStop =>
      obtain ⟨-, hr, -, -, ht⟩ := stopAndJoin_eq_ok hnext
      have hc : n.caller = .stopping := by simpa [enabled] using hen
      obtain ⟨hr', hj⟩ := hcall (by simp [hc])
      refine ⟨fun h => absurd (hr ▸ h) (by simp [hr']), fun _ => ⟨hr.trans hr', ?_⟩⟩
      rw [ht]
      split <;> simp_all
    | joined =>
      cases hnext
      have hc : n.caller = .joining := by simp_all [enabled]
      exact ⟨fun h => absurd h (by simp [(hcall (by simp [hc])).1]), fun h => absurd rfl h⟩
    | tick => cases hnext; exact ⟨hrun, hcall⟩
    | _ => cases hb
  · rw [next_byReceiver hb hnext]
    refine ⟨fun hr => ?_, fun hc => ⟨(hcall hc).1, advance_ne_notJoinable (hcall hc).2⟩⟩
    have hr' : n.isRunning = true := hr
    obtain ⟨h₁, h₂⟩ := hrun hr'
    rw [hr']
    exact ⟨advance_ne_notJoinable h₁, advance_running_ne_returned h₂⟩

/-- From construction with `autostart`, in every interleaving of the owner's calls, the receiver's
steps and the clock, every step the threads can take succeeds: `shutdown()` and the destructor
never join a thread that is not joinable. -/
theorem autostarted_node_never_faults (cfg : Config) (clock : Nat) {evs : List NodeEvent}
    {n : MultiscanNode} (hrun : NodeRun cfg (construct true clock) evs n) (ev : NodeEvent)
    (hen : n.enabled ev = true) : ∃ n', n.next cfg ev = .ok n' := by
  have hsafe : NodeSafe n :=
    hrun.invariant NodeSafe next_safe ⟨fun _ => ⟨nofun, nofun⟩, fun h => absurd rfl h⟩
  cases ev with
  | forceStop =>
    cases h : n.stopAndJoin with
    | ok n' => exact ⟨n', h⟩
    | error f => exact absurd (stopAndJoin_faults_iff.mp ⟨f, h⟩) (hsafe.2 (by simp_all [enabled])).2
  | _ => exact ⟨_, rfl⟩

theorem autostarted_node_never_faults_at_force_stop :
    NodeRun {} (construct true 0) [.guard, .setUp true, .loopGuard true, .receive, .shutdown]
        ⟨false, .receiving true, .stopping, 0⟩ ∧
      (⟨false, .receiving true, .stopping, 0⟩ : MultiscanNode).enabled .forceStop = true ∧
      ∃ n', (⟨false, .receiving true, .stopping, 0⟩ : MultiscanNode).next {} .forceStop = .ok n' := by
  have hrun : NodeRun {} (construct true 0) [.guard, .setUp true, .loopGuard true, .receive,
      .shutdown] ⟨false, .receiving true, .stopping, 0⟩ :=
    .cons rfl rfl (.cons rfl rfl (.cons rfl rfl (.cons rfl rfl (.cons rfl rfl (.nil _)))))
  exact ⟨hrun, rfl, autostarted_node_never_faults {} 0 hrun .forceStop rfl⟩

def Unstarted (n : MultiscanNode) : Prop :=
  n.recvThread = .notJoinable ∧
    ((n.isRunning = true ∧ n.caller = .idle) ∨ (n.isRunning = false ∧ n.caller = .stopping))

theorem run_of_unstarted {cfg : Config} {n n' : MultiscanNode} {evs : List NodeEvent}
    (hrun : NodeRun cfg n evs n') (hu : Unstarted n) :
    (NodeEvent.start ∉ evs ∧ Unstarted n') ∨ (NodeEvent.start ∈ evs ∧ NodeSafe n') := by
  induction hrun with
  | nil => exact .inl ⟨List.not_mem_nil _, hu⟩
  | @cons n n₁ n' ev evs hen hnext hrest ih =>
    obtain ⟨ht, hmode⟩ := hu
    have go : Unstarted n₁ → ev ≠ .start →
        (NodeEvent.start ∉ ev :: evs ∧ Unstarted n') ∨ (NodeEvent.start ∈ ev :: evs ∧ NodeSafe n') :=
      fun hu₁ hev => (ih hu₁).imp (fun ⟨hs, hu'⟩ => ⟨by simp [hs, Ne.symm hev], hu'⟩)
        (fun ⟨hs, hsafe⟩ => ⟨List.mem_cons_of_mem _ hs, hsafe⟩)
    cases hb : ev.byReceiver
    · cases ev with
      | start =>
        cases hnext
        have hr : n.isRunning = true := by
          rcases hmode with ⟨hr, -⟩ | ⟨-, hc⟩
          · exact hr
          · simp [enabled, hc] at hen
        have hsafe : NodeSafe n.start := by
          simp only [start, ht, RecvThread.joinable, Bool.not_false, if_true]
          refine ⟨fun _ => ⟨nofun, nofun⟩, fun hc => absurd ?_ hc⟩
          simpa [enabled] using hen
        exact .inr ⟨List.mem_cons_self _ _, hrest.invariant NodeSafe next_safe hsafe⟩
      | shutdown =>
        cases hnext
        rcases hmode with ⟨hr, -⟩ | ⟨-, hc⟩
        · exact go (by simp [Unstarted, shutdown, hr, ht]) nofun
        · simp [enabled, hc] at hen
      | forceStop => simp [next, stopAndJoin, ht] at hnext
      | joined => rcases hmode with ⟨-, hc⟩ | ⟨-, hc⟩ <;> simp [enabled, hc] at hen
      | tick => cases hnext; exact go ⟨ht, hmode⟩ nofun
      | _ => cases hb
    · exact absurd ht (enabled_byReceiver hb hen)

/-- On a node constructed without `autostart`, when `shutdown()` (or the destructor) has cleared
`is_running` and goes on to `ForceStop()` and `join()`, the join throws exactly when no
`start()` came before: `is_running` held its initialiser, and `join()` is called on a thread
that was never started. -/
theorem shutdown_faults_iff_never_started (cfg : Config) (clock : Nat) {evs : List NodeEvent}
    {n : MultiscanNode} (hrun : NodeRun cfg (construct false clock) evs n)
    (hstop : n.caller = .stopping) :
    (∃ f, n.next cfg .forceStop = .error f) ↔ NodeEvent.start ∉ evs := by
  change (∃ f, n.stopAndJoin = .error f) ↔ _
  rw [stopAndJoin_faults_iff]
  rcases run_of_unstarted hrun ⟨rfl, .inl ⟨rfl, rfl⟩⟩ with ⟨hs, ht, -⟩ | ⟨hs, hsafe⟩
  · exact iff_of_true ht hs
  · exact iff_of_false (hsafe.2 (by simp [hstop])).2 (not_not.mpr hs)

theorem shutdown_faults_on_unstarted_node :
    NodeRun {} (construct false 0) [.shutdown] ⟨false, .notJoinable, .stopping, 0⟩ ∧
      (⟨false, .notJoinable, .stopping, 0⟩ : MultiscanNode).caller = .stopping ∧
      ∃ f, (⟨false, .notJoinable, .stopping, 0⟩ : MultiscanNode).next {} .forceStop = .error f := by
  have hrun : NodeRun {} (construct false 0) [.shutdown] ⟨false, .notJoinable, .stopping, 0⟩ :=
    .cons rfl rfl (.nil _)
  exact ⟨hrun, rfl, (shutdown_faults_iff_never_started {} 0 hrun rfl).mpr (by decide)⟩

/-- A restart sleep ends only when the clock reaches its end: from a state in which the owner is
inside `shutdown()` while the receiver sleeps until `wake`, every run in which `shutdown()`
returns ends with the clock at `wake` or later. `sleep_for` is not cut short by `shutdown()`. -/
theorem shutdown_waits_out_restart_sleep {cfg : Config} {n n' : MultiscanNode}
    {evs : List NodeEvent} {wake : Nat} (hsleep : n.recvThread = .sleeping wake)
    (hwait : n.caller ≠ .idle) (hrun : NodeRun cfg n evs n') (hidle : n'.caller = .idle) :
    wake ≤ n'.clock := by
  have step : ∀ {m m' : MultiscanNode} {ev : NodeEvent},
      (m.recvThread = .sleeping wake ∧ m.caller ≠ .idle) ∨ wake ≤ m.clock →
      m.enabled ev = true → m.next cfg ev = .ok m' →
      (m'.recvThread = .sleeping wake ∧ m'.caller ≠ .idle) ∨ wake ≤ m'.clock := by
    intro m m' ev hm hen hnext
    rcases hm with ⟨ht, hc⟩ | hle
    · cases ev with
      | forceStop =>
        obtain ⟨-, -, -, hc', ht'⟩ := stopAndJoin_eq_ok hnext
        exact .inl ⟨by rw [ht', ht], by simp [hc']⟩
      | wake => simp only [enabled, ht, decide_eq_true_eq] at hen; cases hnext; exact .inr hen
      | tick => cases hnext; exact .inl ⟨ht, hc⟩
      | _ => simp [enabled, ht, hc] at hen
    · exact .inr (Nat.le_trans hle (next_clock hnext))
  rcases hrun.invariant _ step (.inl ⟨hsleep, hwait⟩) with ⟨-, hc⟩ | hle
  · exact absurd hidle hc
  · exact hle

theorem shutdown_waits_out_restart_sleep_of_one_ms :
    (⟨false, .sleeping 1, .joining, 0⟩ : MultiscanNode).recvThread = .sleeping 1 ∧
      (⟨false, .sleeping 1, .joining, 0⟩ : MultiscanNode).caller ≠ .idle ∧
      NodeRun {} ⟨false, .sleeping 1, .joining, 0⟩ [.tick, .wake, .guard, .joined]
        ⟨false, .notJoinable, .idle, 1⟩ ∧
      (⟨false, .notJoinable, .idle, 1⟩ : MultiscanNode).caller = .idle ∧
      1 ≤ (⟨false, .notJoinable, .idle, 1⟩ : MultiscanNode).clock := by
  have hrun : NodeRun {} ⟨false, .sleeping 1, .joining, 0⟩ [.tick, .wake, .guard, .joined]
      ⟨false, .notJoinable, .idle, 1⟩ :=
    .cons rfl rfl (.cons rfl rfl (.cons rfl rfl (.cons rfl rfl (.nil _))))
  exact ⟨rfl, by decide, hrun, rfl, shutdown_waits_out_restart_sleep rfl (by decide) hrun rfl⟩

/-- `ForceStop()` wakes only a `Receive` that is pending. From every state in which the receiver
has passed the decode loop's guard and is about to call a blocking `Receive` (as the first one of
every connection is) while the owner is between calls, the interleaving in which `shutdown()`
clears `is_running` and calls `ForceStop()` before that `Receive` is issued leaves the owner in
`join()` until a datagram arrives: no run without one lets `shutdown()` return. -/
theorem shutdown_race_waits_for_datagram {cfg : Config} {n : MultiscanNode}
    (hat : n.recvThread = .atReceive true) (hidle : n.caller = .idle) :
    ∃ n₁, NodeRun cfg n [.shutdown, .forceStop, .receive] n₁ ∧
      ∀ evs n', NodeRun cfg n₁ evs n' → NodeEvent.datagram ∉ evs → n'.caller = .joining := by
  refine ⟨⟨false, .receiving true, .joining, n.clock⟩, ?_, fun evs n' hrun hsilent => ?_⟩
  · have h₁ : n.shutdown = ⟨false, .atReceive true, .stopping, n.clock⟩ := by
      simp [shutdown, hat]
    have h₂ : (⟨false, .atReceive true, .stopping, n.clock⟩ : MultiscanNode).next cfg .forceStop =
        .ok ⟨false, .atReceive true, .joining, n.clock⟩ := rfl
    exact .cons (by simp [enabled, hidle]) (by simp [next, h₁])
      (.cons (by rfl) h₂ (.cons (by rfl) rfl (.nil _)))
  · have step : ∀ {m m' : MultiscanNode} {ev : NodeEvent}, ev ≠ .datagram →
        m.recvThread = .receiving true ∧ m.caller = .joining →
        m.enabled ev = true → m.next cfg ev = .ok m' →
        m'.recvThread = .receiving true ∧ m'.caller = .joining := by
      intro m m' ev hev ⟨ht, hc⟩ hen hnext
      cases ev with
      | tick => cases hnext; exact ⟨ht, hc⟩
      | datagram => exact absurd rfl hev
      | _ => simp [enabled, ht, hc] at hen
    exact (hrun.invariant_on (· ≠ .datagram) _ step (fun ev hev h => hsilent (h ▸ hev))
      ⟨rfl, rfl⟩).2

theorem shutdown_race_waits_for_datagram_at_first_receive :
    NodeRun {} (construct true 0) [.guard, .setUp true, .loopGuard true]
        ⟨true, .atReceive true, .idle, 0⟩ ∧
      (⟨true, .atReceive true, .idle, 0⟩ : MultiscanNode).recvThread = .atReceive true ∧
      (⟨true, .atReceive true, .idle, 0⟩ : MultiscanNode).caller = .idle ∧
      ∃ n₁, NodeRun {} ⟨true, .atReceive true, .idle, 0⟩ [.shutdown, .forceStop, .receive] n₁ ∧
        ∀ evs n', NodeRun {} n₁ evs n' → NodeEvent.datagram ∉ evs → n'.caller = .joining :=
  ⟨.cons rfl rfl (.cons rfl rfl (.cons rfl rfl (.nil _))), rfl, rfl,
    shutdown_race_waits_for_datagram rfl rfl⟩

def RecvThread.stepsToReturn : RecvThread → Nat
  | .notJoinable | .returned => 0
  | .atGuard => 1
  | .atSleepCheck | .sleeping _ => 2
  | .closing => 3
  | .atLoopGuard _ => 4
  | .settingUp | .processing => 5
  | .receiving _ => 6
  | .atReceive _ => 7

theorem advance_stopped {n : MultiscanNode} {clock delay : Nat} {ev : NodeEvent}
    (hev : ev.byReceiver = true) (hen : n.enabled ev = true) :
    advance false clock delay n.recvThread ev ≠ .notJoinable ∧
      1 + (advance false clock delay n.recvThread ev).stepsToReturn ≤
        n.recvThread.stepsToReturn := by
  obtain ⟨r, t, c, k⟩ := n
  cases ev <;> simp only [enabled, NodeEvent.byReceiver, beq_iff_eq, Bool.false_eq_true] at hen hev
  all_goals first
    | (subst hen; simp only [advance]; (try split) <;> simp_all [RecvThread.stepsToReturn])
    | (split at hen <;> simp_all [advance, RecvThread.stepsToReturn])

theorem next_after_shutdown {cfg : Config} {m m' : MultiscanNode} {ev : NodeEvent}
    (hev : ev ≠ .joined) (hr : m.isRunning = false) (hj : m.recvThread ≠ .notJoinable)
    (hen : m.enabled ev = true) (hnext : m.next cfg ev = .ok m') :
    m'.isRunning = false ∧ m'.recvThread ≠ .notJoinable ∧
      (if ev.byReceiver then 1 else 0) + m'.recvThread.stepsToReturn ≤
        m.recvThread.stepsToReturn := by
  cases hb : ev.byReceiver
  · cases ev with
    | start => cases hnext; simp [start, (RecvThread.joinable_eq_true).mpr hj, hr, hj]
    | shutdown => cases hnext; simp [shutdown, hr, hj]
    | forceStop =>
      obtain ⟨-, hr', -, -, ht⟩ := stopAndJoin_eq_ok hnext
      refine ⟨hr'.trans hr, ?_⟩
      rw [ht]
      split <;> simp_all [RecvThread.stepsToReturn]
    | joined => exact absurd rfl hev
    | tick => cases hnext; exact ⟨hr, hj, by simp⟩
    | _ => cases hb
  · rw [next_byReceiver hb hnext, if_pos rfl]
    have hr' : m.isRunning = false := hr
    rw [hr']
    exact ⟨rfl, advance_stopped hb hen⟩

/-- Once `shutdown()` has cleared `is_running` while a receiver thread exists, in every
interleaving up to the join nothing sets it again, and the receiver takes at most
`stepsToReturn` more steps (seven from inside a pass): it finishes the pass it is in, leaves the
decode loop, skips the restart sleep and leaves the outer loop, entering no new connection and
no new sleep. -/
theorem receiver_returns_after_shutdown {cfg : Config} {n n' : MultiscanNode}
    {evs : List NodeEvent} (hrun : NodeRun cfg n evs n') (hjoined : NodeEvent.joined ∉ evs)
    (hthread : n.recvThread ≠ .notJoinable) (hcleared : n.isRunning = false) :
    n'.isRunning = false ∧
      (evs.filter NodeEvent.byReceiver).length + n'.recvThread.stepsToReturn ≤
        n.recvThread.stepsToReturn := by
  induction hrun with
  | nil => exact ⟨hcleared, by simp⟩
  | @cons m m' m'' ev evs hen hnext _ ih =>
    have hev : ev ≠ .joined := fun h => hjoined (h ▸ List.mem_cons_self _ _)
    obtain ⟨hr', hj', hle⟩ := next_after_shutdown hev hcleared hthread hen hnext
    obtain ⟨hr'', hle'⟩ := ih (fun h => hjoined (List.mem_cons_of_mem _ h)) hj' hr'
    refine ⟨hr'', ?_⟩
    rw [List.filter_cons]
    cases hb : ev.byReceiver <;> simp [hb] at hle ⊢ <;> omega

theorem receiver_returns_from_a_pass_after_shutdown :
    NodeRun {} ⟨false, .atReceive false, .joining, 0⟩
        [.receive, .expire, .passEnds false, .loopGuard true, .closed, .sleepCheck, .guard]
        ⟨false, .returned, .joining, 0⟩ ∧
      NodeEvent.joined ∉
        [NodeEvent.receive, .expire, .passEnds false, .loopGuard true, .closed, .sleepCheck, .guard] ∧
      RecvThread.atReceive false ≠ .notJoinable ∧
      (⟨false, .returned, .joining, 0⟩ : MultiscanNode).isRunning = false ∧
      ([NodeEvent.receive, .expire, .passEnds false, .loopGuard true, .closed, .sleepCheck,
          .guard].filter NodeEvent.byReceiver).length +
        RecvThread.returned.stepsToReturn ≤ (RecvThread.atReceive false).stepsToReturn := by
  have hrun : NodeRun {} ⟨false, .atReceive false, .joining, 0⟩
      [.receive, .expire, .passEnds false, .loopGuard true, .closed, .sleepCheck, .guard]
      ⟨false, .returned, .joining, 0⟩ :=
    .cons rfl rfl (.cons rfl rfl (.cons rfl rfl (.cons rfl rfl (.cons rfl rfl
      (.cons rfl rfl (.cons rfl rfl (.nil _)))))))
  exact ⟨hrun, by decide, nofun, receiver_returns_after_shutdown hrun (by decide) nofun rfl⟩

end MultiscanDriver
