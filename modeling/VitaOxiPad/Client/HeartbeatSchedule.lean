import VitaOxiPad.Client.PadDelivery
/-!
# The heartbeat schedule

A turn of the main loop waits until the next heartbeat at most, and sends one
when it is due.  Both look at the time since the last one on the system clock,
which may have been set back since.
-/

namespace VitaOxiPad.Client

open NetProtocol
open VitaReports (MainReport)

/-- The time of the last heartbeat after some turns, at first that of the handshake. -/
def lastBeat (heartbeatFreq : UInt32) (handshake : Nat) (turns : List Turn) : Nat :=
  turns.foldl
    (fun last t => if t.HeartbeatDue heartbeatFreq last then t.resetClock else last) handshake

/-- The turn waits no longer than the interval, and sends a heartbeat exactly when one is
due.  It ends the loop only if the wait or the sending fails. -/
def OnSchedule (heartbeatFreq : UInt32) (lastBeat : Nat) (s : LoopState) (t : Turn) : Prop :=
  match heartbeatTurn heartbeatFreq s t with
  | .ok s' => ∃ secs ≤ heartbeatInterval heartbeatFreq, s'.io = s.io ++ [.wait secs] ++
      if t.HeartbeatDue heartbeatFreq lastBeat then [.ctrlWrite heartbeatMagic] else []
  | .error (.fault .poll) => t.pollOk = false
  | .error (.fault .ctrlSocket) =>
      t.HeartbeatDue heartbeatFreq lastBeat ∧ t.ctrlWriteOk = false
  | .error _ => False

/-! ## One turn -/

section

variable {heartbeatFreq : UInt32} {s : LoopState} {t : Turn}

/-- A reading before the last heartbeat is a panic. -/
theorem heartbeatTurn_of_before (h : ¬ t.NotBefore s.lastTime) :
    heartbeatTurn heartbeatFreq s t = .error (.fault .clockWentBack) := by
  by_cases hwait : s.lastTime ≤ t.pollClock
  · obtain ⟨hok, hcheck⟩ : t.pollOk = true ∧ t.checkClock < s.lastTime := by
      simpa [Turn.NotBefore, hwait] using h
    simp only [heartbeatTurn, elapsedSecs_of_le hwait, elapsedSecs_of_lt hcheck, hok, bind,
      Except.bind, if_true]
  · simp only [heartbeatTurn, elapsedSecs_of_lt (not_le.mp hwait), bind, Except.bind]

theorem heartbeatTurn_of_poll_failed (hwait : s.lastTime ≤ t.pollClock)
    (hfailed : t.pollOk = false) :
    heartbeatTurn heartbeatFreq s t = .error (.fault .poll) := by
  simp only [heartbeatTurn, elapsedSecs_of_le hwait, hfailed, bind, Except.bind,
    Bool.false_eq_true, if_false]
  rfl

theorem heartbeatTurn_of_notBefore (heartbeatFreq : UInt32)
    (hclock : t.NotBefore s.lastTime) (hok : t.pollOk = true)
    (hempty : s.conn.outgoingBuffer = []) :
    ∃ secs ≤ heartbeatInterval heartbeatFreq, heartbeatTurn heartbeatFreq s t =
      if t.HeartbeatDue heartbeatFreq s.lastTime then
        if t.ctrlWriteOk then
          .ok { s with
            io := s.io ++ [.wait secs] ++ [.ctrlWrite heartbeatMagic]
            lastTime := t.resetClock }
        else .error (.fault .ctrlSocket)
      else .ok { s with io := s.io ++ [.wait secs] } := by
  obtain ⟨hwait, hcheck⟩ := hclock
  have hsame : s.conn.sendHeartbeat.retrieveOutData = (heartbeatMagic, s.conn) := by
    simp only [Connection.sendHeartbeat, Connection.retrieveOutData, hempty, List.nil_append,
      Prod.mk.injEq, true_and]
    rw [← hempty]
  refine ⟨_, Nat.sub_le (heartbeatInterval heartbeatFreq)
    ((t.pollClock - s.lastTime) / 1000000000), ?_⟩
  simp only [heartbeatTurn, elapsedSecs_of_le hwait, elapsedSecs_of_le (hcheck hok), hok, hsame,
    bind, Except.bind, pure, Except.pure, if_true, due_iff (hcheck hok)]
  rfl

/-- With the last heartbeat remembered, a turn is on schedule exactly when the clock has not
been set back before it. -/
theorem onSchedule_iff (hempty : s.conn.outgoingBuffer = []) :
    OnSchedule heartbeatFreq s.lastTime s t ↔ t.NotBefore s.lastTime := by
  unfold OnSchedule
  constructor
  · intro h
    by_contra hbefore
    rw [heartbeatTurn_of_before hbefore] at h
    exact h
  · intro hclock
    cases hok : t.pollOk with
    | false =>
        rw [heartbeatTurn_of_poll_failed hclock.1 hok]
    | true =>
        obtain ⟨secs, hsecs, hturn⟩ :=
          heartbeatTurn_of_notBefore heartbeatFreq hclock hok hempty
        rw [hturn]
        by_cases hdue : t.HeartbeatDue heartbeatFreq s.lastTime
        · rw [if_pos hdue]
          cases hwrite : t.ctrlWriteOk with
          | true => exact ⟨secs, hsecs, by rw [if_pos hdue]⟩
          | false => exact ⟨hdue, rfl⟩
        · rw [if_neg hdue]
          exact ⟨secs, hsecs, by rw [if_neg hdue, List.append_nil]⟩

end

/-! ## The whole loop -/

structure KeepsTime (last : Nat) (s : LoopState) : Prop where
  lastTime : s.lastTime = last
  sent : s.conn.outgoingBuffer = []

variable {ε : Type} {fb : Flatbuffers ε} {device : List MainReport → Bool}
  {heartbeatFreq : UInt32}

theorem heartbeatTurn_keepsTime {s s' : LoopState} {t : Turn}
    (hempty : s.conn.outgoingBuffer = []) (h : heartbeatTurn heartbeatFreq s t = .ok s') :
    KeepsTime (if t.HeartbeatDue heartbeatFreq s.lastTime then t.resetClock else s.lastTime)
      s' := by
  have hclock : t.NotBefore s.lastTime := by
    by_contra hbefore
    rw [heartbeatTurn_of_before hbefore] at h
    cases h
  cases hok : t.pollOk with
  | false =>
      rw [heartbeatTurn_of_poll_failed hclock.1 hok] at h
      cases h
  | true =>
      obtain ⟨secs, -, hturn⟩ :=
        heartbeatTurn_of_notBefore heartbeatFreq hclock hok hempty
      rw [hturn] at h
      split_ifs at h ⊢ <;> cases h <;> exact ⟨rfl, hempty⟩

theorem receiveTurn_keepsTime {last : Nat} {s s' : LoopState} {t : Turn} (hs : KeepsTime last s)
    (h : receiveTurn fb device s t = .ok s') : KeepsTime last s' := by
  unfold receiveTurn at h
  split_ifs at h
  · cases h
    exact hs
  · split at h
    · cases h
    · cases h
      exact hs
    · rename_i bytes _
      cases hreceive : receive fb device s.inbox (bytes.take bufferSize) with
      | error e =>
          rw [hreceive] at h
          cases h
      | ok inbox =>
          rw [hreceive] at h
          cases h
          exact ⟨hs.lastTime, hs.sent⟩

theorem loopTurn_keepsTime {last : Nat} {s s' : LoopState} {t : Turn} (hs : KeepsTime last s)
    (h : loopTurn fb device heartbeatFreq s t = .ok s') :
    KeepsTime (if t.HeartbeatDue heartbeatFreq last then t.resetClock else last) s' := by
  obtain ⟨rfl, hempty⟩ := hs
  unfold loopTurn at h
  cases hbeat : heartbeatTurn heartbeatFreq s t with
  | error e =>
      rw [hbeat] at h
      cases h
  | ok u =>
      rw [hbeat] at h
      exact receiveTurn_keepsTime (heartbeatTurn_keepsTime hempty hbeat) h

theorem lastBeat_concat (heartbeatFreq : UInt32) (handshake : Nat) (turns : List Turn)
    (t : Turn) :
    lastBeat heartbeatFreq handshake (turns ++ [t]) =
      if t.HeartbeatDue heartbeatFreq (lastBeat heartbeatFreq handshake turns) then t.resetClock
      else lastBeat heartbeatFreq handshake turns := by
  rw [lastBeat, List.foldl_concat]
  rfl

theorem mainLoop_keepsTime {turns : List Turn} {s s' : LoopState}
    (hempty : s.conn.outgoingBuffer = []) (h : mainLoop fb device heartbeatFreq s turns = .ok s') :
    KeepsTime (lastBeat heartbeatFreq s.lastTime turns) s' := by
  induction turns using List.reverseRecOn generalizing s' with
  | nil =>
      cases h
      exact ⟨rfl, hempty⟩
  | append_singleton turns t ih =>
      obtain ⟨u, hu, hturn⟩ := (StepRun.run_concat_eq_ok_iff s turns t s').mp h
      rw [lastBeat_concat]
      exact loopTurn_keepsTime (ih hu) hturn

def LoopState.start (incomingBuffer : List UInt8) (lastTime : Nat) : LoopState :=
  ⟨⟨incomingBuffer, []⟩, lastTime, 0, [], []⟩

/-- Every turn of every run is on schedule exactly when neither of its readings of the clock
is earlier than the last heartbeat. -/
theorem heartbeats_on_schedule_iff (fb : Flatbuffers ε) (device : List MainReport → Bool)
    (heartbeatFreq : UInt32) (incomingBuffer : List UInt8) (handshake : Nat)
    (turns : List Turn) :
    (∀ done t s, done ++ [t] <+: turns →
      mainLoop fb device heartbeatFreq (.start incomingBuffer handshake) done = .ok s →
      OnSchedule heartbeatFreq (lastBeat heartbeatFreq handshake done) s t) ↔
    ∀ done t s, done ++ [t] <+: turns →
      mainLoop fb device heartbeatFreq (.start incomingBuffer handshake) done = .ok s →
      t.NotBefore (lastBeat heartbeatFreq handshake done) := by
  have hturn : ∀ done t s,
      mainLoop fb device heartbeatFreq (.start incomingBuffer handshake) done = .ok s →
      (OnSchedule heartbeatFreq (lastBeat heartbeatFreq handshake done) s t ↔
        t.NotBefore (lastBeat heartbeatFreq handshake done)) := by
    intro done t s hdone
    obtain ⟨hlast, hempty⟩ := mainLoop_keepsTime rfl hdone
    change s.lastTime = lastBeat heartbeatFreq handshake done at hlast
    rw [← hlast]
    exact onSchedule_iff hempty
  constructor
  · intro h done t s hpre hdone
    exact (hturn done t s hdone).mp (h done t s hpre hdone)
  · intro h done t s hpre hdone
    exact (hturn done t s hdone).mpr (h done t s hpre hdone)

def setBack : Turn where
  pollClock := 1000000000
  pollOk := true
  readyEvents := 0
  checkClock := 1000000000
  ctrlWriteOk := true
  resetClock := 1000000000
  recv := .wouldBlock

theorem not_heartbeats_on_schedule_of_setBack :
    mainLoop padOnly (fun _ => true) 25 (.start [] 3600000000000) [setBack] =
        .error (.fault .clockWentBack) ∧
      ¬ OnSchedule 25 3600000000000 (.start [] 3600000000000) setBack := by
  constructor
  · decide +kernel
  · intro h
    exact h

end VitaOxiPad.Client
