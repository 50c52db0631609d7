import VitaOxiPad.Client.EventsFraming
/-!
# The client's main loop

The `loop` at the end of `cli/src/main.rs`.  A turn waits for a datagram, sends
a heartbeat when one is due, reads at most one datagram, and hands the pad
reports in it to the device unless their timestamp is stale.

A turn's readings of the clock and the outcomes of its system calls are its
inputs.  The device is a predicate: whether `send_report` returns `Ok` on the
last of the reports it has been given.
-/

namespace VitaOxiPad.Client

open NetProtocol Framing
open VitaReports (MainReport)

variable {ε : Type}

def bufferSize : Nat := 2048

inductive Recv where
  | datagram (bytes : List UInt8)
  | wouldBlock
  | failed
  deriving DecidableEq, Repr

/-- What the outside supplies to one turn of the loop, clocks in nanoseconds. -/
structure Turn where
  pollClock : Nat
  pollOk : Bool
  /-- `events.len()` after the wait. -/
  readyEvents : Nat
  checkClock : Nat
  ctrlWriteOk : Bool
  resetClock : Nat
  recv : Recv
  deriving DecidableEq, Repr

inductive Stop where
  | panic (p : Panic)
  | clockWentBack
  | poll
  | ctrlSocket
  | padSocket
  | device
  deriving DecidableEq, Repr

/-- The clock and the sockets can end the loop whatever has been received. -/
def Stop.External : Stop → Prop
  | clockWentBack | poll | ctrlSocket | padSocket => True
  | panic _ | device => False

inductive Io where
  | wait (timeoutSecs : Nat)
  | ctrlWrite (bytes : List UInt8)
  deriving DecidableEq, Repr

structure Inbox where
  incomingBuffer : List UInt8
  lastTimestamp : UInt64
  reports : List MainReport
  deriving DecidableEq, Repr

structure LoopState where
  conn : Connection
  lastTime : Nat
  lastTimestamp : UInt64
  reports : List MainReport
  io : List Io
  deriving DecidableEq, Repr

namespace LoopState

def inbox (s : LoopState) : Inbox := ⟨s.conn.incomingBuffer, s.lastTimestamp, s.reports⟩

def withInbox (s : LoopState) (inbox : Inbox) : LoopState :=
  { s with
    conn := { s.conn with incomingBuffer := inbox.incomingBuffer }
    lastTimestamp := inbox.lastTimestamp
    reports := inbox.reports }

end LoopState

/-- `last_time.elapsed()` in whole seconds, unwrapped. -/
def elapsedSecs (now lastTime : Nat) : Except (FuelLoop.Halt Stop) Nat :=
  if lastTime ≤ now then .ok ((now - lastTime) / 1000000000)
  else .error (.fault .clockWentBack)

def heartbeatTurn (heartbeatFreq : UInt32) (s : LoopState) (t : Turn) :
    Except (FuelLoop.Halt Stop) LoopState := do
  let interval := heartbeatFreq.toNat - 5
  let waited ← elapsedSecs t.pollClock s.lastTime
  let s := { s with io := s.io ++ [.wait (interval - waited)] }
  if t.pollOk then
    let passed ← elapsedSecs t.checkClock s.lastTime
    if interval ≤ passed then
      let (bytes, conn) := s.conn.sendHeartbeat.retrieveOutData
      if t.ctrlWriteOk then
        return { s with conn := conn, io := s.io ++ [.ctrlWrite bytes], lastTime := t.resetClock }
      else throw (.fault .ctrlSocket)
    else return s
  else throw (.fault .poll)

/-- The body of `for event in conn.events()`. -/
def handleEvent (device : List MainReport → Bool) (s : Inbox) :
    Item ε → Except Stop Inbox
  | .ok (.padDataReceived data) =>
      if data.timestamp ≤ s.lastTimestamp then .ok s
      else
        let reports := s.reports ++ [data]
        if device reports then
          .ok { s with lastTimestamp := data.timestamp, reports := reports }
        else .error .device
  | _ => .ok s

def forStep (fb : Flatbuffers ε) (device : List MainReport → Bool) (s : Inbox) :
    Except Stop (Inbox ⊕ Inbox) :=
  match next fb s.incomingBuffer with
  | .error p => .error (.panic p)
  | .ok (none, rest) => .ok (.inr { s with incomingBuffer := rest })
  | .ok (some item, rest) =>
      (handleEvent device { s with incomingBuffer := rest } item).map .inl

def forEvents (fb : Flatbuffers ε) (device : List MainReport → Bool) (s : Inbox) :
    Except (FuelLoop.Halt Stop) Inbox :=
  FuelLoop.run (forStep fb device) (fun s => s.incomingBuffer.length) s

def receive (fb : Flatbuffers ε) (device : List MainReport → Bool) (s : Inbox)
    (receivedData : List UInt8) : Except (FuelLoop.Halt Stop) Inbox :=
  if receivedData = [] then .ok s
  else forEvents fb device { s with incomingBuffer := s.incomingBuffer ++ receivedData }

/-- The bottom of a turn: a datagram longer than the buffer is cut to it. -/
def receiveTurn (fb : Flatbuffers ε) (device : List MainReport → Bool) (s : LoopState)
    (t : Turn) : Except (FuelLoop.Halt Stop) LoopState :=
  if t.readyEvents = 0 then .ok s
  else
    match t.recv with
    | .failed => .error (.fault .padSocket)
    | .wouldBlock => .ok s
    | .datagram bytes => (receive fb device s.inbox (bytes.take bufferSize)).map s.withInbox

def loopTurn (fb : Flatbuffers ε) (device : List MainReport → Bool)
    (heartbeatFreq : UInt32) (s : LoopState) (t : Turn) :
    Except (FuelLoop.Halt Stop) LoopState := do
  receiveTurn fb device (← heartbeatTurn heartbeatFreq s t) t

def mainLoop (fb : Flatbuffers ε) (device : List MainReport → Bool)
    (heartbeatFreq : UInt32) (s : LoopState) (turns : List Turn) :
    Except (FuelLoop.Halt Stop) LoopState :=
  StepRun.run (loopTurn fb device heartbeatFreq) s turns

def Turn.datagram (t : Turn) : Option (List UInt8) :=
  if t.readyEvents = 0 then none
  else
    match t.recv with
    | .datagram bytes => some bytes
    | _ => none

def datagrams (turns : List Turn) : List (List UInt8) := turns.filterMap Turn.datagram

/-- The datagrams the turns read, as `recv_from` puts them in the buffer. -/
def delivered (turns : List Turn) : List (List UInt8) :=
  (datagrams turns).map (List.take bufferSize)

theorem delivered_cons (t : Turn) (turns : List Turn) :
    delivered (t :: turns) =
      (t.datagram.map (List.take bufferSize)).toList ++ delivered turns := by
  simp only [delivered, datagrams, List.filterMap_cons]
  cases t.datagram <;> rfl

/-! ## The inbox sees the delivered datagrams and nothing else -/

theorem elapsedSecs_cases (now lastTime : Nat) :
    (∃ secs, elapsedSecs now lastTime = .ok secs) ∨
      elapsedSecs now lastTime = .error (.fault .clockWentBack) := by
  unfold elapsedSecs
  split_ifs
  · exact Or.inl ⟨_, rfl⟩
  · exact Or.inr rfl

theorem heartbeatTurn_cases (heartbeatFreq : UInt32) (s : LoopState) (t : Turn) :
    (∃ s', heartbeatTurn heartbeatFreq s t = .ok s' ∧ s'.inbox = s.inbox) ∨
      ∃ e, heartbeatTurn heartbeatFreq s t = .error (.fault e) ∧ e.External := by
  unfold heartbeatTurn
  rcases elapsedSecs_cases t.pollClock s.lastTime with ⟨waited, hwaited⟩ | hwaited
  · rcases elapsedSecs_cases t.checkClock s.lastTime with ⟨passed, hpassed⟩ | hpassed
    · simp only [hwaited, hpassed, bind, Except.bind, pure, Except.pure]
      split_ifs
      · exact Or.inl ⟨_, rfl, rfl⟩
      · exact Or.inr ⟨.ctrlSocket, rfl, trivial⟩
      · exact Or.inl ⟨_, rfl, rfl⟩
      · exact Or.inr ⟨.poll, rfl, trivial⟩
    · simp only [hwaited, hpassed, bind, Except.bind]
      split_ifs
      · exact Or.inr ⟨.clockWentBack, rfl, trivial⟩
      · exact Or.inr ⟨.poll, rfl, trivial⟩
  · refine Or.inr ⟨.clockWentBack, ?_, trivial⟩
    rw [hwaited]
    rfl

theorem loopTurn_cases (fb : Flatbuffers ε) (device : List MainReport → Bool)
    (heartbeatFreq : UInt32) (s : LoopState) (t : Turn) :
    (∃ e, loopTurn fb device heartbeatFreq s t = .error (.fault e) ∧ e.External) ∨
      (∃ s', loopTurn fb device heartbeatFreq s t = .ok s' ∧
        StepRun.run (receive fb device) s.inbox
          (t.datagram.map (List.take bufferSize)).toList = .ok s'.inbox) ∨
      ∃ e, loopTurn fb device heartbeatFreq s t = .error e ∧
        StepRun.run (receive fb device) s.inbox
          (t.datagram.map (List.take bufferSize)).toList = .error e := by
  rcases heartbeatTurn_cases heartbeatFreq s t with ⟨s', hs', hinbox⟩ | ⟨e, he, hext⟩
  · have hturn : loopTurn fb device heartbeatFreq s t = receiveTurn fb device s' t := by
      rw [loopTurn, hs']
      rfl
    rw [hturn, receiveTurn, Turn.datagram, ← hinbox]
    by_cases hready : t.readyEvents = 0
    · rw [if_pos hready, if_pos hready]
      exact Or.inr (Or.inl ⟨s', rfl, rfl⟩)
    · rw [if_neg hready, if_neg hready]
      cases t.recv with
      | failed => exact Or.inl ⟨_, rfl, trivial⟩
      | wouldBlock => exact Or.inr (Or.inl ⟨s', rfl, rfl⟩)
      | datagram bytes =>
          right
          simp only [Option.map, Option.toList, StepRun.run_singleton]
          cases receive fb device s'.inbox (bytes.take bufferSize) with
          | error e => exact Or.inr ⟨e, rfl, rfl⟩
          | ok inbox => exact Or.inl ⟨s'.withInbox inbox, rfl, rfl⟩
  · refine Or.inl ⟨e, ?_, hext⟩
    rw [loopTurn, he]
    rfl

/-- `heartbeat_freq.saturating_sub(5)`, in seconds. -/
def heartbeatInterval (heartbeatFreq : UInt32) : Nat := heartbeatFreq.toNat - 5

/-- That many whole seconds have passed when the turn checks. -/
def Turn.HeartbeatDue (heartbeatFreq : UInt32) (lastBeat : Nat) (t : Turn) : Prop :=
  lastBeat + heartbeatInterval heartbeatFreq * 1000000000 ≤ t.checkClock

instance (heartbeatFreq : UInt32) (lastBeat : Nat) (t : Turn) :
    Decidable (t.HeartbeatDue heartbeatFreq lastBeat) :=
  inferInstanceAs (Decidable (_ ≤ _))

/-- Neither reading of the turn is earlier than the last heartbeat. -/
def Turn.NotBefore (lastBeat : Nat) (t : Turn) : Prop :=
  lastBeat ≤ t.pollClock ∧ (t.pollOk = true → lastBeat ≤ t.checkClock)

/-- Nothing outside ends the loop in this turn: the clock is not earlier than the last
heartbeat, and neither the wait nor a socket fails. -/
structure Turn.Unhindered (heartbeatFreq : UInt32) (lastBeat : Nat) (t : Turn) : Prop where
  clock : t.NotBefore lastBeat
  polled : t.pollOk = true
  written : t.HeartbeatDue heartbeatFreq lastBeat → t.ctrlWriteOk = true
  received : t.readyEvents ≠ 0 → t.recv ≠ .failed

/-- The same in each of some turns, with the time of the last heartbeat before them. -/
def Unhindered (heartbeatFreq : UInt32) : Nat → List Turn → Prop
  | _, [] => True
  | last, t :: turns =>
      t.Unhindered heartbeatFreq last ∧
        Unhindered heartbeatFreq
          (if t.HeartbeatDue heartbeatFreq last then t.resetClock else last) turns

section

variable {heartbeatFreq : UInt32} {s : LoopState} {t : Turn}

theorem elapsedSecs_of_le {now lastTime : Nat} (h : lastTime ≤ now) :
    elapsedSecs now lastTime = .ok ((now - lastTime) / 1000000000) := if_pos h

theorem elapsedSecs_of_lt {now lastTime : Nat} (h : now < lastTime) :
    elapsedSecs now lastTime = .error (.fault .clockWentBack) := if_neg (not_le.mpr h)

theorem due_iff (hcheck : s.lastTime ≤ t.checkClock) :
    heartbeatFreq.toNat - 5 ≤ (t.checkClock - s.lastTime) / 1000000000 ↔
      t.HeartbeatDue heartbeatFreq s.lastTime := by
  rw [Nat.le_div_iff_mul_le (by decide), Turn.HeartbeatDue, heartbeatInterval]
  omega

theorem heartbeatTurn_of_unhindered (h : t.Unhindered heartbeatFreq s.lastTime) :
    ∃ s', heartbeatTurn heartbeatFreq s t = .ok s' ∧ s'.inbox = s.inbox ∧
      s'.lastTime = if t.HeartbeatDue heartbeatFreq s.lastTime then t.resetClock
        else s.lastTime := by
  obtain ⟨hwait, hcheck⟩ := h.clock
  simp only [heartbeatTurn, elapsedSecs_of_le hwait, elapsedSecs_of_le (hcheck h.polled),
    h.polled, bind, Except.bind, pure, Except.pure, if_true, due_iff (hcheck h.polled)]
  by_cases hdue : t.HeartbeatDue heartbeatFreq s.lastTime
  · rw [if_pos hdue, if_pos hdue, if_pos (h.written hdue)]
    exact ⟨_, rfl, rfl, rfl⟩
  · rw [if_neg hdue, if_neg hdue]
    exact ⟨_, rfl, rfl, rfl⟩

theorem receiveTurn_of_run {fb : Flatbuffers ε} {device : List MainReport → Bool}
    (hrecv : t.readyEvents ≠ 0 → t.recv ≠ .failed) {inbox : Inbox}
    (hrun : StepRun.run (receive fb device) s.inbox
      (t.datagram.map (List.take bufferSize)).toList = .ok inbox) :
    ∃ s', receiveTurn fb device s t = .ok s' ∧ s'.inbox = inbox ∧ s'.lastTime = s.lastTime := by
  rw [Turn.datagram] at hrun
  rw [receiveTurn]
  by_cases hready : t.readyEvents = 0
  · rw [if_pos hready] at hrun ⊢
    cases hrun
    exact ⟨s, rfl, rfl, rfl⟩
  · rw [if_neg hready] at hrun ⊢
    cases hevent : t.recv with
    | failed => exact absurd hevent (hrecv hready)
    | wouldBlock =>
        rw [hevent] at hrun
        cases hrun
        exact ⟨s, rfl, rfl, rfl⟩
    | datagram bytes =>
        simp only [hevent, Option.map, Option.toList, StepRun.run_singleton] at hrun
        exact ⟨s.withInbox inbox, by simp only [hrun, Except.map], rfl, rfl⟩

/-- In unhindered turns the loop does to its inbox what receiving the datagrams does. -/
theorem mainLoop_of_unhindered {fb : Flatbuffers ε} {device : List MainReport → Bool}
    {turns : List Turn} (h : Unhindered heartbeatFreq s.lastTime turns) {inbox : Inbox}
    (hrun : StepRun.run (receive fb device) s.inbox (delivered turns) = .ok inbox) :
    ∃ s', mainLoop fb device heartbeatFreq s turns = .ok s' ∧ s'.inbox = inbox := by
  induction turns generalizing s with
  | nil =>
      cases hrun
      exact ⟨s, rfl, rfl⟩
  | cons t turns ih =>
      obtain ⟨hturn, hturns⟩ := h
      rw [delivered_cons] at hrun
      obtain ⟨middle, hmiddle, hrest⟩ := (StepRun.run_append_eq_ok_iff _ _ _ _).mp hrun
      obtain ⟨u, hu, hinbox, hlast⟩ := heartbeatTurn_of_unhindered hturn
      rw [← hinbox] at hmiddle
      obtain ⟨v, hv, rfl, hsame⟩ := receiveTurn_of_run hturn.received hmiddle
      have hloop : loopTurn fb device heartbeatFreq s t = .ok v := by
        rw [loopTurn, hu]
        exact hv
      rw [← hlast, ← hsame] at hturns
      obtain ⟨s', hs', hinbox'⟩ := ih hturns hrest
      exact ⟨s', (StepRun.run_cons_of_ok hloop turns).trans hs', hinbox'⟩

end

/-! ## One turn of the `for` loop -/

theorem forStep_of_item {fb : Flatbuffers ε} {device : List MainReport → Bool}
    {s s' : Inbox} {item : Item ε} {rest : List UInt8}
    (h : next fb s.incomingBuffer = .ok (some item, rest))
    (hbody : handleEvent device { s with incomingBuffer := rest } item = .ok s') :
    forStep fb device s = .ok (.inl s') := by
  rw [forStep, h]
  simp only [hbody]
  rfl

theorem forStep_of_none {fb : Flatbuffers ε} {device : List MainReport → Bool}
    {s : Inbox} {rest : List UInt8} (h : next fb s.incomingBuffer = .ok (none, rest)) :
    forStep fb device s = .ok (.inr { s with incomingBuffer := rest }) := by
  rw [forStep, h]

theorem handleEvent_incomingBuffer {device : List MainReport → Bool} {s s' : Inbox}
    {item : Item ε} (h : handleEvent device s item = .ok s') :
    s'.incomingBuffer = s.incomingBuffer := by
  unfold handleEvent at h
  split at h
  · dsimp only at h
    split_ifs at h <;> cases h <;> rfl
  · cases h; rfl

theorem forStep_decreases (fb : Flatbuffers ε) (device : List MainReport → Bool) :
    FuelLoop.Decreases (forStep fb device) fun s => s.incomingBuffer.length := by
  intro s s' h
  unfold forStep at h
  split at h
  · cases h
  · cases h
  · rename_i item rest hnext
    cases hbody : handleEvent device { s with incomingBuffer := rest } item with
    | error e => rw [hbody] at h; cases h
    | ok t =>
        rw [hbody] at h
        cases h
        have hbuf : s'.incomingBuffer = rest := handleEvent_incomingBuffer hbody
        dsimp only
        rw [hbuf]
        exact next_some_length fb hnext

theorem forEvents_frame {fb : Flatbuffers ε} {device : List MainReport → Bool}
    {frame rest : List UInt8} {item : Item ε} {s s' : Inbox}
    (hframe : WholeFrame fb frame (some item))
    (hbody : handleEvent device { s with incomingBuffer := rest } item = .ok s') :
    forEvents fb device { s with incomingBuffer := frame ++ rest } =
      forEvents fb device s' := by
  apply FuelLoop.run_of_next (forStep_decreases fb device)
  exact forStep_of_item (hframe.next rest) hbody

theorem forEvents_nil (fb : Flatbuffers ε) (device : List MainReport → Bool) {s : Inbox}
    (h : s.incomingBuffer = []) : forEvents fb device s = .ok s := by
  have hnone : next fb s.incomingBuffer = .ok (none, s.incomingBuffer) := by
    rw [h, next_waiting fb waiting_nil]
  rw [forEvents, FuelLoop.run_of_done (forStep_of_none hnone)]

end VitaOxiPad.Client
