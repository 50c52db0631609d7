import VitaOxiPad.Client.HeartbeatGap
import VitaOxiPad.Lib.Pacer
import VitaOxiPad.Link.Control
import VitaOxiPad.Server.Silence
/-!
# A client that keeps its connection alive

The console closes a connection on which it has heard nothing for 26 seconds.  Here every
action takes place at a time, the clocks of the two sides run alike, and the client's turns,
the network and the console are late by bounded amounts.  How far apart the client's
heartbeats are follows from what its turns wait for.
-/

namespace VitaOxiPad.Link

open NetProtocol Server Framing Watchdog
open Client (LoopState Turn)

variable {ε : Type}

/-- The bounds are in microseconds. -/
structure Timing where
  /-- What the client's clock, in nanoseconds, is ahead of the console's. -/
  offset : Nat
  /-- From the accepting of the connection to the client's main loop. -/
  grace : Nat
  /-- What a turn of the client is late by, each time that it begins, wakes or writes. -/
  slack : Nat
  /-- From the writing of a heartbeat to its handling. -/
  delay : Nat
  deriving DecidableEq, Repr

def Timing.clientClock (timing : Timing) (time : Nat) : Nat := 1000 * time + timing.offset

/-- From a heartbeat to the next. -/
def Timing.period (timing : Timing) (heartbeatFreq : UInt32) : Nat :=
  (Client.heartbeatInterval heartbeatFreq + 1) * 1000000 + 3 * timing.slack

/-- What the times of a run's actions come to. -/
structure Clocks where
  now : Nat
  /-- When the client has written its heartbeats. -/
  beats : List Nat
  /-- The client's clock when its main loop begins, and its turns since. -/
  handshake : Nat
  turns : List Turn
  deriving DecidableEq, Repr

def Phase.loopState : Phase → Option LoopState
  | .looping _ state => some state
  | _ => none

theorem Phase.loopState_eq_some {phase : Phase} {state : LoopState}
    (h : phase.loopState = some state) :
    ∃ heartbeatFreq, phase = .looping heartbeatFreq state := by
  cases phase <;> cases h
  exact ⟨_, rfl⟩

def Beats (s : System) : Action → Prop
  | .turn t =>
      match s.phase with
      | .looping heartbeatFreq state => t.HeartbeatDue heartbeatFreq state.lastTime
      | _ => False
  | _ => False

instance decidableBeats (s : System) : ∀ a, Decidable (Beats s a)
  | .turn t => by
      unfold Beats
      cases s.phase <;> infer_instance
  | .console _ | .greet | .connect _ _ => .isFalse id

def Clocks.next (w : Clocks) (s : System) (action : Nat × Action) : Clocks where
  now := action.1
  beats := if Beats s action.2 then w.beats ++ [action.1] else w.beats
  handshake :=
    match action.2 with
    | .connect _ clock => clock
    | _ => w.handshake
  turns :=
    match action.2 with
    | .turn t => w.turns ++ [t]
    | _ => w.turns

def timedRun (L : Setup ε) (s : System) (actions : List (Nat × Action)) :
    Except (Stop ε) (System × Clocks) :=
  StepRun.run (StepRun.recording (fun s action => s.step L action.2)
    fun s action w => w.next s action) (s, ⟨0, [], 0, []⟩) actions

def beatsHeard (L : Setup ε) (thread : NetThread) : Nat :=
  (handledOn L.sock thread.trace).count .heartbeat

/-- The heartbeats that have been written and not handled. -/
def Clocks.inflight (L : Setup ε) (w : Clocks) (thread : NetThread) : List Nat :=
  w.beats.drop (beatsHeard L thread)

/-- The reading is taken after the last action and not after this one. -/
def Clocks.Reads (w : Clocks) (time : Nat) (reading : UInt64) : Prop :=
  w.now ≤ reading.toNat ∧ reading.toNat ≤ time

/-- The readings of the clocks that the action takes. -/
def ReadsClocks (timing : Timing) (w : Clocks) (time : Nat) : Action → Prop
  | .console (.event input) =>
      (∀ size, w.Reads time (input.receive.clock size)) ∧ w.Reads time input.accept.heartbeatClock
  | .console (.send input) => w.Reads time input.heartbeatClock
  | .console _ | .greet => True
  | .connect _ clock => clock = timing.clientClock time
  | .turn t => t.resetClock = timing.clientClock time

/-- The client is in the turn: its turns have been prompt, and so is this one, which has not
ended or has just done so. -/
structure InTurn (timing : Timing) (w : Clocks) (time : Nat) (heartbeatFreq : UInt32)
    (state : LoopState) (t : Turn) : Prop where
  prompt : Client.Prompt heartbeatFreq (1000 * timing.slack) w.handshake w.handshake
    (w.turns ++ [t])
  begun : state.lastTime ≤ t.pollClock
  ending : timing.clientClock time ≤ t.checkClock + 1000 * timing.slack

structure OnTime (L : Setup ε) (timing : Timing) (s : System) (w : Clocks) (time : Nat) :
    Prop where
  later : w.now ≤ time
  /-- Before its main loop, the client has not been accepted long ago. -/
  joining : s.phase.loopState = none → ∀ client ∈ s.thread.client, client.sock = L.sock →
    time ≤ client.heartbeatTime.toNat + timing.grace
  turning : ∀ heartbeatFreq state, s.phase = .looping heartbeatFreq state →
    ∃ t, InTurn timing w time heartbeatFreq state t
  arriving : ∀ client ∈ s.thread.client, client.sock = L.sock →
    ∀ sent ∈ w.inflight L s.thread, time ≤ sent + timing.delay

/-! ## What one step of the console does to the time of a client -/

/-- The client has the time it had and no heartbeat has been handled, or it has a time that
has been read in the step. -/
theorem console_time {L : Setup ε} {timing : Timing} {w : Clocks} {s t : NetThread} {i : Input}
    {time : Nat} (hclocks : ReadsClocks timing w time (.console i))
    (h : s.step L.platform i = .ok t) {client : Server.Client} (hclient : t.client = some client)
    (hsock : client.sock = L.sock) :
    (beatsHeard L t = beatsHeard L s ∧ ∃ c, s.client = some c ∧ c.sock = L.sock ∧
      client.heartbeatTime = c.heartbeatTime) ∨ w.Reads time client.heartbeatTime := by
  have hreads : ∀ clock, i.BringsTime clock → w.Reads time clock := by
    intro clock hbrings
    cases i with
    | event event =>
        rcases hbrings with rfl | ⟨size, rfl⟩
        · exact hclocks.2
        · exact hclocks.1 size
    | _ => cases hbrings
  cases NetThread.timeFrom_step h hclient with
  | kept hc hcsock htime hbeats =>
      rw [hsock] at hcsock hbeats
      exact .inl ⟨hbeats, _, hc, hcsock, htime⟩
  | beaten _ hbrings => exact .inr (hreads _ hbrings)
  | accepted _ hbrings => exact .inr (hreads _ hbrings)

/-! ## Runs -/

/-- The client in its main loop keeps count of its heartbeats, and none has been due for long. -/
structure Beating (L : Setup ε) (timing : Timing) (s : System) (w : Clocks)
    (heartbeatFreq : UInt32) (state : LoopState) : Prop where
  written : s.writes.length = L.opening.length + w.beats.length
  lastTime : state.lastTime = Client.lastBeat heartbeatFreq w.handshake w.turns
  fed : ∃ last ≤ w.now, state.lastTime = timing.clientClock last ∧
    ∀ client ∈ s.thread.client, client.sock = L.sock →
      Fed timing.grace (timing.period heartbeatFreq) client.heartbeatTime.toNat last
        (w.inflight L s.thread)

/-- What the console has heard, and the client written, is not long ago. -/
structure Watched (L : Setup ε) (timing : Timing) (s : System) (w : Clocks) : Prop where
  past : ∀ sent ∈ w.beats, sent ≤ w.now
  early : s.phase.loopState = none → w.beats = [] ∧ w.turns = []
  heard : ∀ client ∈ s.thread.client, client.sock = L.sock →
    client.heartbeatTime.toNat ≤ w.now
  looping : ∀ heartbeatFreq state, s.phase = .looping heartbeatFreq state →
    Beating L timing s w heartbeatFreq state

variable {L : Setup ε} {timing : Timing}

theorem watched_initial (ctrl : CtrlState) (padData : SceCtrlData) :
    Watched L timing (.initial ctrl padData) ⟨0, [], 0, []⟩ where
  past := by simp
  early _ := ⟨rfl, rfl⟩
  heard client h := by cases h
  looping heartbeatFreq state h := by cases h

theorem not_mem_opening (L : Setup ε) : Message.heartbeat ∉ L.opening := by
  rw [Setup.opening_eq]
  split_ifs <;> simp

/-- The console has not handled more heartbeats than the client has written. -/
theorem beatsHeard_le {s : System} {w : Clocks} (hstep : InStep L s)
    (hwatched : Watched L timing s w) {heartbeatFreq : UInt32} {state : LoopState}
    (hphase : s.phase = .looping heartbeatFreq state) :
    beatsHeard L s.thread ≤ w.beats.length := by
  obtain ⟨messages, hscript, hwrites, hheard⟩ := hstep.script
  rw [hphase] at hscript
  obtain ⟨-, beats, hmessages⟩ := hscript
  have hlength := (hwatched.looping heartbeatFreq state hphase).written
  rw [hwrites, List.length_map, hmessages, List.length_append, List.length_replicate] at hlength
  obtain ⟨before, after, happend, -, hhandled, -⟩ := hheard.heard
  have hpart : handledOn L.sock s.thread.trace <+: messages := by
    rw [happend]
    exact hhandled.trans (List.prefix_append before after)
  have hcount := hpart.sublist.count_le Message.heartbeat
  rw [hmessages, List.count_append, List.count_eq_zero_of_not_mem (not_mem_opening L),
    List.count_replicate_self, Nat.zero_add] at hcount
  exact hcount.trans (Nat.add_left_cancel hlength).le

theorem Watched.console {s t : System} {w : Clocks} {time : Nat} {i : Input}
    (hs : Watched L timing s w) (honTime : OnTime L timing s w time)
    (hclocks : ReadsClocks timing w time (.console i))
    (hthread : s.thread.step L.platform i = .ok t.thread) (hphase : t.phase = s.phase)
    (hwrites : t.writes = s.writes) :
    Watched L timing t (w.next s (time, .console i)) where
  past sent hsent := (hs.past sent hsent).trans honTime.later
  early h := hs.early (by rwa [hphase] at h)
  heard client hclient hsock := by
    rcases console_time hclocks hthread hclient hsock with ⟨-, c, hc, hcsock, htime⟩ | hread
    · rw [htime]
      exact (hs.heard c hc hcsock).trans honTime.later
    · exact hread.2
  looping heartbeatFreq state h := by
    obtain ⟨hwritten, hlastTime, last, hpast, hlast, hfed⟩ :=
      hs.looping heartbeatFreq state (hphase ▸ h)
    refine ⟨by rwa [hwrites], hlastTime, last, hpast.trans honTime.later, hlast,
      fun client hclient hsock => ?_⟩
    rcases console_time hclocks hthread hclient hsock with
      ⟨hcount, c, hc, hcsock, htime⟩ | hread
    · have hkept := hfed c hc hcsock
      rwa [← htime, Clocks.inflight, ← hcount] at hkept
    · apply Fed.of_heard (Nat.zero_le _) (Nat.zero_le _) (hpast.trans hread.1)
      exact fun sent hsent => (hs.past sent (List.mem_of_mem_drop hsent)).trans hread.1

theorem beats_turn_iff {s : System} {heartbeatFreq : UInt32} {state : LoopState}
    (hphase : s.phase = .looping heartbeatFreq state) (t : Turn) :
    Beats s (.turn t) ↔ t.HeartbeatDue heartbeatFreq state.lastTime := by
  unfold Beats
  rw [hphase]

theorem Watched.connect {s t : System} {w : Clocks} {time : Nat} {read : List UInt8}
    {clock : Nat} {r : Client.Connected} (hs : Watched L timing s w)
    (honTime : OnTime L timing s w time)
    (hclocks : ReadsClocks timing w time (.connect read clock)) (hphase : s.phase = .greeted)
    (hr : Client.connect L.flatbuffers ⟨L.boundPort, L.pollingInterval, [read], clock⟩ = .ok r)
    (ht : t = { s with
      phase := .looping r.heartbeatFreq r.state, writes := ctrlWrites r.io }) :
    Watched L timing t (w.next s (time, .connect read clock)) := by
  subst ht
  have hearly : s.phase.loopState = none := by rw [hphase]; rfl
  obtain ⟨hnone, hturns⟩ := hs.early hearly
  obtain ⟨handshake, rest, -, hstate⟩ := connect_ok hr
  have htime : r.state.lastTime = clock := by rw [hstate]; rfl
  refine ⟨?_, by rintro ⟨⟩, ?_, ?_⟩
  · exact fun sent hsent => (hs.past sent hsent).trans honTime.later
  · exact fun client hclient hsock => (hs.heard client hclient hsock).trans honTime.later
  · rintro heartbeatFreq state ⟨⟩
    refine ⟨?_, ?_, time, le_rfl, htime.trans hclocks, fun client hclient hsock => ?_⟩
    · show (ctrlWrites r.io).length = L.opening.length + w.beats.length
      rw [(connect_writes hr).1, hnone, List.length_map, List.length_nil, Nat.add_zero]
    · show r.state.lastTime = Client.lastBeat r.heartbeatFreq clock w.turns
      rw [hturns, htime]
      rfl
    · have hinflight : (w.next s (time, .connect read clock)).inflight L s.thread = [] := by
        show w.beats.drop (beatsHeard L s.thread) = []
        rw [hnone, List.drop_nil]
      exact ⟨fun _ => honTime.joining hearly client hclient hsock, by simp [hinflight]⟩

/-- The client's last heartbeat is not long ago, by what its turns wait for. -/
theorem Watched.beating {s : System} {w : Clocks} {time : Nat} {heartbeatFreq : UInt32}
    {state : LoopState} (hs : Watched L timing s w) (honTime : OnTime L timing s w time)
    (hphase : s.phase = .looping heartbeatFreq state) :
    timing.clientClock time ≤ state.lastTime + 1000 * timing.period heartbeatFreq := by
  obtain ⟨t, hprompt, hbegun, hending⟩ := honTime.turning heartbeatFreq state hphase
  have hlast := (hs.looping heartbeatFreq state hphase).lastTime
  rw [hlast] at hbegun ⊢
  have hcheck := hprompt.checkClock_le hbegun
  unfold Timing.period
  omega

theorem Watched.turn {s t : System} {w : Clocks} {time : Nat} {turn : Turn}
    {heartbeatFreq : UInt32} {state state' : LoopState} (hs : Watched L timing s w)
    (hstep : InStep L s) (honTime : OnTime L timing s w time)
    (hclocks : ReadsClocks timing w time (.turn turn))
    (hphase : s.phase = .looping heartbeatFreq state)
    (hturn : Client.loopTurn L.flatbuffers L.device heartbeatFreq state turn = .ok state')
    (ht : t = { s with
      phase := .looping heartbeatFreq state'
      writes := s.writes ++ heartbeatWrites (state'.io.drop state.io.length) }) :
    Watched L timing t (w.next s (time, .turn turn)) := by
  subst ht
  obtain ⟨messages, hscript, -, -⟩ := hstep.script
  rw [hphase] at hscript
  have htime := (Client.loopTurn_keepsTime ⟨rfl, hscript.1⟩ hturn).lastTime
  obtain ⟨hwritten, hlastTime, last, hpast, hlast, hfed⟩ := hs.looping heartbeatFreq state hphase
  have hturns : state'.lastTime =
      Client.lastBeat heartbeatFreq w.handshake (w.turns ++ [turn]) := by
    rw [Client.lastBeat_concat, ← hlastTime, htime]
  have hwrote := (loopTurn_writes hscript.1 hturn).2
  have hheard : ∀ client ∈ s.thread.client, client.sock = L.sock →
      client.heartbeatTime.toNat ≤ time :=
    fun client hclient hsock => (hs.heard client hclient hsock).trans honTime.later
  have hold : ∀ sent ∈ w.beats, sent ≤ time :=
    fun sent hsent => (hs.past sent hsent).trans honTime.later
  by_cases hdue : turn.HeartbeatDue heartbeatFreq state.lastTime
  · have hbeats : (w.next s (time, .turn turn)).beats = w.beats ++ [time] :=
      if_pos ((beats_turn_iff hphase turn).mpr hdue)
    have hcount := beatsHeard_le hstep hs hphase
    rw [if_pos hdue] at htime hwrote
    refine ⟨?_, by rintro ⟨⟩, hheard, ?_⟩
    · intro sent hsent
      rw [hbeats, List.mem_append, List.mem_singleton] at hsent
      rcases hsent with hsent | rfl
      · exact hold sent hsent
      · exact le_rfl
    · rintro heartbeatFreq state ⟨⟩
      refine ⟨?_, hturns, time, le_rfl, htime.trans hclocks, fun client hclient hsock => ?_⟩
      · rw [hbeats]
        dsimp only
        rw [hwrote, List.length_append, List.length_append, hwritten]
        rfl
      have hbeat := hs.beating honTime hphase
      rw [hlast, Timing.clientClock, Timing.clientClock] at hbeat
      rw [Clocks.inflight, hbeats, List.drop_append_of_le_length hcount]
      exact (hfed client hclient hsock).beat (by omega)
  · have hbeats : (w.next s (time, .turn turn)).beats = w.beats :=
      if_neg fun h => hdue ((beats_turn_iff hphase turn).mp h)
    rw [if_neg hdue] at htime hwrote
    refine ⟨by rwa [hbeats], by rintro ⟨⟩, hheard, ?_⟩
    rintro heartbeatFreq state ⟨⟩
    refine ⟨?_, hturns, last, hpast.trans honTime.later, htime.trans hlast,
      fun client hclient hsock => ?_⟩
    · rw [hbeats]
      dsimp only
      rw [hwrote, List.append_nil, hwritten]
    · rw [Clocks.inflight, hbeats]
      exact hfed client hclient hsock

theorem Watched.step {s t : System} {w : Clocks} {time : Nat} {a : Action}
    (hs : Watched L timing s w) (hstep : InStep L s) (honTime : OnTime L timing s w time)
    (hclocks : ReadsClocks timing w time a) (h : s.step L a = .ok t) :
    Watched L timing t (w.next s (time, a)) := by
  cases step_ok h with
  | console _ hthread _ => exact hs.console honTime hclocks hthread rfl rfl
  | greet hphase =>
      refine ⟨?_, fun _ => hs.early (by rw [hphase]; rfl), ?_, by rintro heartbeatFreq state ⟨⟩⟩
      · exact fun sent hsent => (hs.past sent hsent).trans honTime.later
      · exact fun client hclient hsock => (hs.heard client hclient hsock).trans honTime.later
  | connect hphase _ hr => exact hs.connect honTime hclocks hphase hr rfl
  | turn hphase _ hturn => exact hs.turn hstep honTime hclocks hphase hturn rfl

/-- No readable event cuts a message in two, and every action comes in time. -/
structure InTime (L : Setup ε) (timing : Timing) (start : System)
    (actions : List (Nat × Action)) : Prop where
  cuts : ∀ done s w, done <+: actions → timedRun L start done = .ok (s, w) → AtBoundary s
  times : ∀ done time a s w, done ++ [(time, a)] <+: actions →
    timedRun L start done = .ok (s, w) → OnTime L timing s w time
  clocks : ∀ done time a s w, done ++ [(time, a)] <+: actions →
    timedRun L start done = .ok (s, w) → ReadsClocks timing w time a

theorem InTime.of_prefix {start : System} {done actions : List (Nat × Action)}
    (h : InTime L timing start actions) (hdone : done <+: actions) :
    InTime L timing start done where
  cuts first s w hpre := h.cuts first s w (hpre.trans hdone)
  times first time a s w hpre := h.times first time a s w (hpre.trans hdone)
  clocks first time a s w hpre := h.clocks first time a s w (hpre.trans hdone)

theorem run_watched (hpeer : ∀ sock, L.platform.getpeername sock = sock.peer)
    (hopening : Understood L L.opening) {ctrl : CtrlState} {padData : SceCtrlData}
    {actions : List (Nat × Action)} (h : InTime L timing (.initial ctrl padData) actions)
    {s : System} {w : Clocks} (hrun : timedRun L (.initial ctrl padData) actions = .ok (s, w)) :
    InStep L s ∧ Watched L timing s w := by
  induction actions using List.reverseRecOn generalizing s w with
  | nil =>
      cases hrun
      exact ⟨inStep_initial L ctrl padData, watched_initial ctrl padData⟩
  | append_singleton actions action ih =>
      obtain ⟨time, a⟩ := action
      have hpre := List.prefix_append actions [(time, a)]
      obtain ⟨u, hu, hlast⟩ := (StepRun.run_concat_eq_ok_iff _ actions _ _).mp hrun
      obtain ⟨hstep, hrecord⟩ := StepRun.recording_eq_ok_iff.mp hlast
      obtain ⟨hinStep, hwatched⟩ := ih (h.of_prefix hpre) hu
      have honTime := h.times actions time a u.1 u.2 List.prefix_rfl hu
      have hclocks := h.clocks actions time a u.1 u.2 List.prefix_rfl hu
      dsimp only at hrecord hstep
      refine ⟨hinStep.step hpeer hopening hstep (h.cuts _ s w List.prefix_rfl hrun), ?_⟩
      rw [hrecord]
      exact hwatched.step hinStep honTime hclocks hstep

/-- The console has heard the client no longer ago than the bounds allow. -/
theorem Watched.recent {s : System} {w : Clocks} {time limit : Nat} (hs : Watched L timing s w)
    (honTime : OnTime L timing s w time) (hgrace : timing.grace < limit)
    (hbounds : ∀ heartbeatFreq state, s.phase = .looping heartbeatFreq state →
      timing.grace + timing.period heartbeatFreq + timing.delay < limit)
    {client : Server.Client} (hclient : s.thread.client = some client)
    (hsock : client.sock = L.sock) : time < client.heartbeatTime.toNat + limit := by
  cases hloop : s.phase.loopState with
  | none =>
      have hjoining := honTime.joining hloop client hclient hsock
      omega
  | some state =>
      obtain ⟨heartbeatFreq, hphase⟩ := Phase.loopState_eq_some hloop
      obtain ⟨-, -, last, -, hlast, hfed⟩ := hs.looping heartbeatFreq state hphase
      have hbeat := hs.beating honTime hphase
      rw [hlast, Timing.clientClock, Timing.clientClock] at hbeat
      have hnow := (hfed client hclient hsock).now_le (Nat.zero_le _) (by omega)
        (honTime.arriving client hclient hsock)
      have hbound := hbounds heartbeatFreq state hphase
      omega

/-- Whatever else happens, while no readable event cuts a message and the client's turns are
prompt, the console finds the client's last heartbeat recent enough, and comes to the sending
of a pad.  The bounds allow the interval that the client has been given, and a second. -/
theorem never_timed_out (L : Setup ε) (hpeer : ∀ sock, L.platform.getpeername sock = sock.peer)
    (hopening : Understood L L.opening) (timing : Timing)
    (ctrl : CtrlState) (padData : SceCtrlData) (actions : List (Nat × Action)) (time : Nat)
    (input : SendInput)
    (hin : InTime L timing (.initial ctrl padData) (actions ++ [(time, .console (.send input))]))
    (s : System) (w : Clocks)
    (hrun : timedRun L (.initial ctrl padData) actions = .ok (s, w))
    (hgrace : timing.grace < (maxHeartbeatInterval.toNat + 1) * 1000000)
    (hbounds : ∀ heartbeatFreq state, s.phase = .looping heartbeatFreq state →
      timing.grace + timing.period heartbeatFreq + timing.delay <
        (maxHeartbeatInterval.toNat + 1) * 1000000)
    (client : Server.Client) (hclient : s.thread.client = some client)
    (hsock : client.sock = L.sock) :
    s.thread.step L.platform (.send input) = .ok (s.thread.sendPad L.platform client input) := by
  have hbefore := hin.of_prefix (List.prefix_append actions _)
  obtain ⟨-, hwatched⟩ := run_watched hpeer hopening hbefore hrun
  have honTime := hin.times actions time _ s w List.prefix_rfl hrun
  have hrecent := hwatched.recent honTime hgrace hbounds hclient hsock
  obtain ⟨hafter, hnow⟩ : w.Reads time input.heartbeatClock :=
    hin.clocks actions time _ s w List.prefix_rfl hrun
  have hpast := (hwatched.heard client hclient hsock).trans hafter
  have hsecs := timeSinceLastHeartbeat_le maxHeartbeatInterval.toNat hpast (by omega)
  have hkept : s.thread.checkHeartbeat client input.heartbeatClock = s.thread := by
    apply if_neg
    rw [UInt64.lt_iff_toNat_lt]
    exact not_lt.mpr hsecs
  show s.thread.finish L.platform input = _
  simp only [NetThread.finish, hclient, hkept]

/-- The event, with the clock at the instant whenever it is read. -/
def atInstant (now : UInt64) (input : EventInput) : EventInput :=
  { input with
    accept := { input.accept with heartbeatClock := now }
    receive := { input.receive with clock := fun _ => now } }

def timedIteration (now : UInt64) (low : UInt8) (events : List EventInput) :
    List (Nat × Action) :=
  (iteration now low (events.map (atInstant now))).map fun a => (now.toNat, a)

def Timing.sample : Timing := ⟨5000, 100000, 100000, 1000000⟩

def turnFromTo (begun ended : Nat) : Turn where
  pollClock := Timing.sample.clientClock begun
  pollOk := true
  readyEvents := 0
  checkClock := Timing.sample.clientClock ended
  ctrlWriteOk := true
  resetClock := Timing.sample.clientClock ended
  recv := .wouldBlock

def wokenByPad : Turn :=
  { turnFromTo 30000 50000 with readyEvents := 1, recv := .datagram (padPacket 3) }

/-- The interval ends the second turn and the third, and the last is still to end. -/
def turnsKeepingUp : List Turn :=
  [wokenByPad, turnFromTo 50000 20030000, turnFromTo 20030000 40030000,
    turnFromTo 40030000 60030000]

/-- The client connects, and writes heartbeats after twenty seconds and after forty. -/
def keepingUp : List (Nat × Action) :=
  timedIteration 0 1 [.connect 0] ++ [(0, .greet)] ++
    timedIteration 10000 2 [{ EventInput.connect 0 with
      sockType := .client, receive := .wouldBlock greetingPacket }] ++
    timedIteration 20000 3 [{ EventInput.connect 0 with
      events := ⟨false, true, false, false⟩, sockType := .client, sends := [52] }] ++
    [(30000, .connect responsePacket (Timing.sample.clientClock 30000))] ++
    timedIteration 40000 4 [{ EventInput.connect 0 with
      sockType := .client, receive := .wouldBlock configPacket }] ++
    [(50000, .turn wokenByPad), (20030000, .turn (turnFromTo 50000 20030000))] ++
    timedIteration 20040000 5 [{ EventInput.connect 0 with
      sockType := .client, receive := .wouldBlock heartbeatMagic }] ++
    [(40030000, .turn (turnFromTo 20030000 40030000))]

def lastSend : Nat × Action := (40040000, .console (.send (.instant 40040000 true)))

instance (timing : Timing) (w : Clocks) (time : Nat) (heartbeatFreq : UInt32)
    (state : LoopState) (t : Turn) : Decidable (InTurn timing w time heartbeatFreq state t) :=
  decidable_of_iff
    (Client.Prompt heartbeatFreq (1000 * timing.slack) w.handshake w.handshake (w.turns ++ [t]) ∧
      state.lastTime ≤ t.pollClock ∧ timing.clientClock time ≤ t.checkClock + 1000 * timing.slack)
    ⟨fun ⟨prompt, begun, ending⟩ => ⟨prompt, begun, ending⟩,
      fun h => ⟨h.prompt, h.begun, h.ending⟩⟩

def InOneOf (turns : List Turn) (timing : Timing) (w : Clocks) (time : Nat) : Phase → Prop
  | .looping heartbeatFreq state => ∃ t ∈ turns, InTurn timing w time heartbeatFreq state t
  | _ => True

instance decidableInOneOf (turns : List Turn) (timing : Timing) (w : Clocks) (time : Nat) :
    ∀ phase, Decidable (InOneOf turns timing w time phase)
  | .looping _ _ => inferInstanceAs (Decidable (∃ t ∈ turns, InTurn _ _ _ _ _ t))
  | .connected | .greeted => .isTrue trivial

theorem OnTime.of_inOneOf {L : Setup ε} {s : System} {w : Clocks} {time : Nat}
    (h : w.now ≤ time ∧
      (s.phase.loopState = none → ∀ client ∈ s.thread.client, client.sock = L.sock →
        time ≤ client.heartbeatTime.toNat + timing.grace) ∧
      InOneOf turnsKeepingUp timing w time s.phase ∧
      ∀ client ∈ s.thread.client, client.sock = L.sock →
        ∀ sent ∈ w.inflight L s.thread, time ≤ sent + timing.delay) :
    OnTime L timing s w time := by
  obtain ⟨hlater, hjoining, hturns, harriving⟩ := h
  refine ⟨hlater, hjoining, fun heartbeatFreq state hphase => ?_, harriving⟩
  rw [hphase] at hturns
  obtain ⟨t, -, ht⟩ := hturns
  exact ⟨t, ht⟩

theorem ReadsClocks.of_instant {w w' : Clocks} {time : Nat} {a : Action}
    (h : ReadsClocks timing w' time a) (hnow : w'.now = time) (hlater : w.now ≤ time) :
    ReadsClocks timing w time a := by
  have hreads : ∀ reading, w'.Reads time reading → w.Reads time reading :=
    fun reading hread => ⟨(hnow ▸ hlater).trans hread.1, hread.2⟩
  cases a with
  | console input =>
      cases input with
      | event input => exact ⟨fun size => hreads _ (h.1 size), hreads _ h.2⟩
      | send input => exact hreads _ h
      | ctrl read => trivial
      | netStatus states => trivial
  | greet => trivial
  | connect read clock => exact h
  | turn t => exact h

theorem readsClocks_timedIteration {now : UInt64} {low : UInt8} {events : List EventInput} :
    ∀ action ∈ timedIteration now low events,
      ReadsClocks timing ⟨action.1, [], 0, []⟩ action.1 action.2 := by
  intro action haction
  simp only [timedIteration, iteration, List.map_append, List.map_cons, List.map_nil,
    List.mem_append, List.mem_cons, List.mem_map, List.not_mem_nil, or_false] at haction
  rcases haction with ((rfl | rfl) | ⟨-, ⟨-, ⟨input, -, rfl⟩, rfl⟩, rfl⟩) | rfl
  · trivial
  · trivial
  · exact ⟨fun _ => ⟨le_rfl, le_rfl⟩, le_rfl, le_rfl⟩
  · exact ⟨le_rfl, le_rfl⟩

theorem readsClocks_keepingUp :
    ∀ action ∈ keepingUp ++ [lastSend],
      ReadsClocks .sample ⟨action.1, [], 0, []⟩ action.1 action.2 := by
  intro action haction
  simp only [keepingUp, List.mem_append, List.mem_cons, List.not_mem_nil, or_false] at haction
  rcases haction with ((((((((h | rfl) | h) | h) | rfl) | h) | (rfl | rfl)) | h) | rfl) | rfl
  · exact readsClocks_timedIteration action h
  · trivial
  · exact readsClocks_timedIteration action h
  · exact readsClocks_timedIteration action h
  · rfl
  · exact readsClocks_timedIteration action h
  · rfl
  · rfl
  · exact readsClocks_timedIteration action h
  · rfl
  · exact ⟨by decide, by decide⟩

theorem inTime_keepingUp :
    InTime .sample .sample (.initial .idle ⟨0, 0, 0, 0, 0, 0⟩) (keepingUp ++ [lastSend]) := by
  have hcuts : ∀ done ∈ (keepingUp ++ [lastSend]).inits,
      ((timedRun .sample (.initial .idle ⟨0, 0, 0, 0, 0, 0⟩) done).toOption.all fun r =>
        (List.range 5).any fun n =>
          r.1.received = ((r.1.writes.take n).flatten).length) = true := by
    decide +kernel
  have htimes : ∀ done ∈ (keepingUp ++ [lastSend]).inits,
      ((timedRun .sample (.initial .idle ⟨0, 0, 0, 0, 0, 0⟩) done.dropLast).toOption.all fun r =>
        done.getLast?.all fun action =>
          r.2.now ≤ action.1 ∧
          (r.1.phase.loopState = none → ∀ client ∈ r.1.thread.client,
            client.sock = Setup.sample.sock →
              action.1 ≤ client.heartbeatTime.toNat + Timing.sample.grace) ∧
          InOneOf turnsKeepingUp .sample r.2 action.1 r.1.phase ∧
          ∀ client ∈ r.1.thread.client, client.sock = Setup.sample.sock →
            ∀ sent ∈ r.2.inflight .sample r.1.thread,
              action.1 ≤ sent + Timing.sample.delay) = true := by
    decide +kernel
  have honTime : ∀ done time a s w, done ++ [(time, a)] <+: keepingUp ++ [lastSend] →
      timedRun .sample (.initial .idle ⟨0, 0, 0, 0, 0, 0⟩) done = .ok (s, w) →
      OnTime .sample .sample s w time := by
    intro done time a s w hpre hrun
    have hdone := htimes _ ((List.mem_inits _ _).mpr hpre)
    rw [List.dropLast_concat, List.getLast?_concat, hrun] at hdone
    exact .of_inOneOf (of_decide_eq_true hdone)
  refine ⟨fun done s w hpre hrun => ?_, honTime, fun done time a s w hpre hrun => ?_⟩
  · have hdone := hcuts done ((List.mem_inits _ _).mpr hpre)
    rw [hrun] at hdone
    obtain ⟨n, -, hn⟩ := List.any_eq_true.mp hdone
    exact ⟨n, of_decide_eq_true hn⟩
  · have hinstant := readsClocks_keepingUp (time, a) (hpre.subset (by simp))
    exact hinstant.of_instant rfl (honTime done time a s w hpre hrun).later

theorem never_timed_out_of_keepingUp :
    ∃ s w client, timedRun .sample (.initial .idle ⟨0, 0, 0, 0, 0, 0⟩) keepingUp = .ok (s, w) ∧
      s.thread.client = some client ∧ client.heartbeatTime = 20040000 ∧
      s.thread.step Setup.sample.platform (.send (.instant 40040000 true)) =
        .ok (s.thread.sendPad Setup.sample.platform client (.instant 40040000 true)) := by
  have hend : (timedRun .sample (.initial .idle ⟨0, 0, 0, 0, 0, 0⟩) keepingUp).toOption.map
      (fun r => (r.1.thread.client.map fun c => (c.heartbeatTime, c.sock),
        match r.1.phase with
        | .looping heartbeatFreq _ => heartbeatFreq
        | _ => 0)) = some (some (20040000, Setup.sample.sock), 25) := by decide +kernel
  obtain ⟨⟨s, w⟩, hrun, hs⟩ := StepRun.exists_ok_of_map hend
  obtain ⟨hclient, hfreq⟩ := Prod.mk.inj hs
  obtain ⟨client, hclient, htime⟩ := Option.map_eq_some_iff.mp hclient
  obtain ⟨htime, hsock⟩ := Prod.mk.inj htime
  have hbounds : ∀ heartbeatFreq state, s.phase = .looping heartbeatFreq state →
      Timing.sample.grace + Timing.sample.period heartbeatFreq + Timing.sample.delay <
        (maxHeartbeatInterval.toNat + 1) * 1000000 := by
    intro heartbeatFreq state hphase
    dsimp only at hfreq
    rw [hphase] at hfreq
    rw [show heartbeatFreq = 25 from hfreq]
    decide
  exact ⟨s, w, client, hrun, hclient, htime, never_timed_out .sample (fun _ => rfl)
    understood_sample .sample _ _ keepingUp 40040000 _ inTime_keepingUp s w hrun (by decide)
    hbounds client hclient hsock⟩

end VitaOxiPad.Link
