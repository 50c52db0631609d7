import VitaOxiPad.Server.Ctrl
import VitaOxiPad.Server.IngoingData
/-!
# The network thread

The main loop of `net_thread` in `server/src/net.cpp`.  An iteration reads the
controller, looks at the network state, handles the epoll events one by one and
then, if there is a client, checks its heartbeat and sends it a pad.  Each of
these is one step.  A step stops the run where the code dereferences an empty
optional, and otherwise appends to the trace what it asked of the system.
-/

namespace VitaOxiPad.Server

open NetProtocol

def maxHeartbeatInterval : UInt64 := 25

def secondInMicros : UInt32 := 1000 * 1000

def netPort : UInt16 := 5000

inductive MainEvent where
  | pcDisconnect
  | pcConnect
  | netConnect
  | netDisconnect
  deriving DecidableEq, Repr

def MainEvent.mask : MainEvent → UInt32
  | pcDisconnect => 0x1
  | pcConnect => 0x2
  | netConnect => 0x4
  | netDisconnect => 0x8

/-- The states `netctl_cb` is called with. -/
inductive NetCtlState where
  | disconnected
  | connecting
  | finalizing
  | connected
  | other
  deriving DecidableEq, Repr

def netCtlConnected : UInt32 := 1
def netCtlDisconnected : UInt32 := 2

def netctlCb (eventFlag : UInt32) : NetCtlState → UInt32
  | .disconnected | .connecting | .finalizing => eventFlag ||| netCtlDisconnected
  | .connected => eventFlag ||| netCtlConnected
  | .other => eventFlag

structure EpollEvents where
  epollin : Bool
  epollout : Bool
  epollhup : Bool
  epollerr : Bool
  deriving DecidableEq, Repr

inductive SocketType where
  | server
  | client
  deriving DecidableEq, Repr

structure PadSend where
  sock : Socket
  padMode : Bool
  sentDataTime : UInt64
  pollingTime : UInt64
  pad : NetProtocol.Pad
  packet : List UInt8
  clientAddr : Option SockaddrIn
  deriving DecidableEq, Repr

/-- What the thread asks of the system, and what it does to the client's session. -/
inductive Effect where
  | accepted (sock : Socket)
  | epollAdd (sock : Socket) (events : EpollEvents)
  | epollMod (sock : Socket) (events : EpollEvents)
  | epollDel (sock : Socket)
  | closed (sock : Socket)
  | setEventFlag (event : MainEvent)
  /-- Both server sockets are bound and the TCP one is listening. -/
  | listening
  | handled (sock : Socket) (message : Message)
  | sent (sock : Socket) (bytes : List UInt8)
  /-- The whole handshake response has been sent. -/
  | responded (sock : Socket)
  | padSent (send : PadSend)
  deriving DecidableEq, Repr

/-- The fields of `SharedData` that the thread writes. -/
structure SharedData where
  events : UInt32
  clientIp : Option UInt32
  padData : SceCtrlData
  deriving DecidableEq, Repr

structure NetThread where
  client : Option Client
  timeout : UInt32
  ctrl : CtrlState
  sharedData : SharedData
  connectState : UInt32
  /-- How many connections have been accepted. -/
  accepts : Nat
  trace : List Effect
  deriving DecidableEq, Repr

structure Platform where
  flatbuffers : Flatbuffers
  getpeername : Socket → SockaddrIn
  serverUdpFd : Int32

/-- Where `client->` is evaluated on an empty optional. -/
inductive Site where
  | epollOut
  | padSending
  deriving DecidableEq, Repr

inductive Stop where
  | emptyClient (site : Site) (s : NetThread)
  | halt (h : FuelLoop.Halt Fault)
  /-- A loop that retries a call has run out of results. -/
  | stuck

/-! ## Inputs -/

structure Accept where
  fd : Int32
  peer : SockaddrIn
  heartbeatClock : UInt64
  sentDataClock : UInt64
  deriving DecidableEq, Repr

structure EventInput where
  events : EpollEvents
  sockType : SocketType
  accept : Accept
  receive : Receive
  /-- The results of `sceNetSend`. -/
  sends : List Int32

structure SendInput where
  heartbeatClock : UInt64
  pollingClock : UInt64
  sentDataClock : UInt64
  timeoutClock : UInt64
  padMode : Bool
  batteryLevel : Int32
  /-- The result of `sceNetSendto`. -/
  sendtoResult : Int32
  deriving DecidableEq, Repr

inductive Input where
  | ctrl (read : CtrlRead)
  | netStatus (states : List NetCtlState)
  | event (input : EventInput)
  | send (input : SendInput)

structure Iteration where
  ctrl : CtrlRead
  states : List NetCtlState
  events : List EventInput
  send : SendInput

def Iteration.inputs (iteration : Iteration) : List Input :=
  [.ctrl iteration.ctrl, .netStatus iteration.states] ++
    iteration.events.map .event ++ [.send iteration.send]

namespace NetThread

/-! ## Steps -/

def initial (ctrl : CtrlState) (padData : SceCtrlData) : NetThread where
  client := none
  timeout := minPollingIntervalMicros
  ctrl := ctrl
  sharedData := ⟨0, none, padData⟩
  connectState := 0
  accepts := 0
  trace := []

def emit (s : NetThread) (effects : List Effect) : NetThread :=
  { s with trace := s.trace ++ effects }

/-- `client.reset()`: the destructor of `EpollSocket` runs if there is a client. -/
def resetClient (s : NetThread) : NetThread :=
  match s.client with
  | none => s
  | some client =>
      { s.emit [.epollDel client.sock, .closed client.sock] with client := none }

def disconnectClient (s : NetThread) : NetThread :=
  (s.emit [.setEventFlag .pcDisconnect]).resetClient

def clientEvents : EpollEvents := ⟨true, true, true, true⟩

def reinitEvents : EpollEvents := ⟨true, false, true, true⟩

def addClient (P : Platform) (s : NetThread) (a : Accept) : NetThread :=
  if 0 ≤ a.fd then
    let sock : Socket := ⟨s.accepts, a.fd, a.peer⟩
    let client := Client.new P.getpeername sock a.heartbeatClock a.sentDataClock
    { s.emit [.accepted sock, .epollAdd sock clientEvents, .setEventFlag .pcConnect] with
      client := some client
      accepts := s.accepts + 1 }
  else s

def refuseClient (s : NetThread) (a : Accept) : NetThread :=
  if 0 ≤ a.fd then
    let sock : Socket := ⟨s.accepts, a.fd, a.peer⟩
    { s.emit [.accepted sock, .closed sock] with accepts := s.accepts + 1 }
  else s

/-- What follows the accepting or refusing, if there is a client. -/
def announceClient (s : NetThread) : NetThread :=
  match s.client with
  | none => s
  | some client =>
      { s.emit [.setEventFlag .pcConnect] with
        sharedData := { s.sharedData with
          clientIp := some client.ip
          events := s.sharedData.events ||| MainEvent.pcConnect.mask } }

/-- `handle_ingoing_data` and the `catch` clauses around it. -/
def readable (P : Platform) (s : NetThread) (client : Client) (input : Receive) :
    Except Stop NetThread :=
  match handleIngoingData P.flatbuffers P.getpeername client input with
  | .error h => .error (.halt h)
  | .ok r =>
      let s := { s.emit (r.handled.map (.handled client.sock)) with client := some r.client }
      if r.thrown.any Thrown.disconnects then .ok s.disconnectClient else .ok s

end NetThread

/-- `send_all`: its result and the pieces it sent. -/
def sendAll : List UInt8 → List Int32 → Int32 → Option (Int32 × List (List UInt8))
  | [], _, bytesSent => some (bytesSent, [])
  | _ :: _, [], _ => none
  | b :: buf, bytesSent :: sends, _ =>
      if bytesSent < 0 then some (bytesSent, [])
      else
        let n := bytesSent.toNatClampNeg
        (sendAll ((b :: buf).drop n) sends bytesSent).map fun (result, pieces) =>
          (result, (b :: buf).take n :: pieces)

namespace NetThread

/-- `send_handshake_response`, the new registration, and the `catch` clauses. -/
def sendHandshakeResponse (P : Platform) (s : NetThread) (client : Client)
    (sends : List Int32) : Except Stop NetThread :=
  let packet := P.flatbuffers.finishHandshake
    ⟨.server, netPort, maxHeartbeatInterval.toUInt32⟩
  match sendAll packet sends 0 with
  | none => .error .stuck
  | some (sent, pieces) =>
      let s := s.emit (pieces.map (.sent client.sock))
      if sent ≤ 0 then
        if sent = sceNetEconnreset then .ok s.disconnectClient else .ok s
      else
        .ok { s.emit [.responded client.sock, .epollMod client.sock reinitEvents] with
          client := some { client with state := .connected } }

def handleEvent (P : Platform) (s : NetThread) (input : EventInput) :
    Except Stop NetThread :=
  if input.events.epollhup || input.events.epollerr then
    match input.sockType with
    | .client => .ok s.disconnectClient
    | .server => .ok s
  else if input.events.epollin then
    match input.sockType, s.client with
    | .server, none => .ok (s.addClient P input.accept).announceClient
    | .server, some _ => .ok (s.refuseClient input.accept).announceClient
    | .client, none => .ok s
    | .client, some client => s.readable P client input.receive
  else if input.events.epollout then
    match input.sockType, s.client with
    | .server, _ => .ok s
    | .client, none => .error (.emptyClient .epollOut s)
    | .client, some client =>
        match client.state with
        | .waitingForServerConfirm => s.sendHandshakeResponse P client input.sends
        | _ => .ok s
  else .ok s

/-- The callbacks, then the poll of `connect_state`, which clears what it returns. -/
def netStatus (s : NetThread) (states : List NetCtlState) : NetThread :=
  let flag := states.foldl netctlCb s.connectState
  let pattern := netCtlConnected ||| netCtlDisconnected
  let event := flag &&& pattern
  let s := { s with connectState := flag &&& ~~~pattern }
  if event = netCtlConnected then s.emit [.listening, .setEventFlag .netConnect]
  else if event = netCtlDisconnected then
    { (s.emit [.setEventFlag .netDisconnect]).resetClient with timeout := secondInMicros }
  else s

def storeTimeout (s : NetThread) (client : Client) (now : UInt64) : NetThread :=
  { s with timeout := (client.remainingPollingTime now).toUInt32 }

def padSend (P : Platform) (s : NetThread) (client : Client) (input : SendInput) : PadSend :=
  let pad := ctrlAsNetprotocol s.ctrl input.batteryLevel
  { sock := client.sock
    padMode := input.padMode
    sentDataTime := input.sentDataClock
    pollingTime := client.pollingTime
    pad := pad
    packet := P.flatbuffers.finishPad pad
    clientAddr := client.dataConnInfo }

def sendPad (P : Platform) (s : NetThread) (client : Client) (input : SendInput) : NetThread :=
  if client.state = .connected ∧ client.isPollingTimeElapsed input.pollingClock ∧
      input.padMode then
    if 0 ≤ P.serverUdpFd then
      let s := { s.emit [.padSent (s.padSend P client input)] with
        client := some (client.updateSentDataTime input.sentDataClock) }
      if input.sendtoResult < 0 then s
      else s.storeTimeout (client.updateSentDataTime input.sentDataClock) input.timeoutClock
    else s
  else s.storeTimeout client input.timeoutClock

def checkHeartbeat (s : NetThread) (client : Client) (now : UInt64) : NetThread :=
  if maxHeartbeatInterval < client.timeSinceLastHeartbeat now then s.disconnectClient else s

def finish (P : Platform) (s : NetThread) (input : SendInput) : Except Stop NetThread :=
  match s.client with
  | none => .ok s
  | some client =>
      let s := s.checkHeartbeat client input.heartbeatClock
      match s.client with
      | none => .error (.emptyClient .padSending s)
      | some client => .ok (s.sendPad P client input)

def readCtrl (s : NetThread) (read : CtrlRead) : Except Stop NetThread :=
  match getCtrl s.ctrl read with
  | none => .error .stuck
  | some ctrl =>
      .ok { s with ctrl := ctrl, sharedData := { s.sharedData with padData := ctrl.pad } }

def step (P : Platform) (s : NetThread) : Input → Except Stop NetThread
  | .ctrl read => s.readCtrl read
  | .netStatus states => .ok (s.netStatus states)
  | .event input => s.handleEvent P input
  | .send input => s.finish P input

/-- A run of some steps.  The steps of whole iterations followed by the first
steps of one more are what the loop has done at any moment. -/
def run (P : Platform) (s : NetThread) (inputs : List Input) : Except Stop NetThread :=
  StepRun.run (step P) s inputs

def handleEvents (P : Platform) (s : NetThread) (events : List EventInput) :
    Except Stop NetThread :=
  StepRun.run (handleEvent P) s events

def iterate (P : Platform) (s : NetThread) (iteration : Iteration) : Except Stop NetThread :=
  run P s iteration.inputs

def loop (P : Platform) (s : NetThread) (iterations : List Iteration) : Except Stop NetThread :=
  StepRun.run (iterate P) s iterations

theorem loop_eq_run (P : Platform) (s : NetThread) (iterations : List Iteration) :
    loop P s iterations = run P s (iterations.flatMap Iteration.inputs) :=
  (StepRun.run_flatMap Iteration.inputs s iterations).symm

theorem iterate_eq_ok_iff (P : Platform) (s t : NetThread) (iteration : Iteration) :
    iterate P s iteration = .ok t ↔
      ∃ u v, s.readCtrl iteration.ctrl = .ok u ∧
        handleEvents P (u.netStatus iteration.states) iteration.events = .ok v ∧
        v.finish P iteration.send = .ok t := by
  have hevents : ∀ s : NetThread, StepRun.run (step P) s (iteration.events.map .event) =
      handleEvents P s iteration.events := fun s => StepRun.run_map Input.event s _
  simp only [iterate, run, Iteration.inputs, List.cons_append, List.nil_append,
    StepRun.run_cons_eq_ok_iff, StepRun.run_concat_eq_ok_iff, hevents, step, Except.ok.injEq]
  constructor
  · rintro ⟨u, hu, -, rfl, v, hv, ht⟩
    exact ⟨u, v, hu, hv, ht⟩
  · rintro ⟨u, v, hu, hv, ht⟩
    exact ⟨u, hu, _, rfl, v, hv, ht⟩

theorem readCtrl_client {s t : NetThread} {read : CtrlRead} (h : s.readCtrl read = .ok t) :
    t.client = s.client ∧ t.trace = s.trace ∧ t.accepts = s.accepts ∧
      t.connectState = s.connectState := by
  unfold readCtrl at h
  split at h
  · cases h
  · cases h
    exact ⟨rfl, rfl, rfl, rfl⟩

theorem resetClient_client (s : NetThread) : s.resetClient.client = none := by
  unfold resetClient
  split
  · assumption
  · rfl

/-! ## What the poll of `connect_state` does -/

def pollEvent (s : NetThread) (states : List NetCtlState) : UInt32 :=
  states.foldl netctlCb s.connectState &&& (netCtlConnected ||| netCtlDisconnected)

def LosesNetwork (s : NetThread) (states : List NetCtlState) : Prop :=
  states.foldl netctlCb s.connectState &&& (netCtlConnected ||| netCtlDisconnected) =
    netCtlDisconnected

def polled (s : NetThread) (states : List NetCtlState) : NetThread :=
  { s with connectState :=
      states.foldl netctlCb s.connectState &&& ~~~(netCtlConnected ||| netCtlDisconnected) }

theorem netStatus_cases (s : NetThread) (states : List NetCtlState) :
    (s.pollEvent states = netCtlConnected ∧ ¬ s.LosesNetwork states ∧
      s.netStatus states = (s.polled states).emit [.listening, .setEventFlag .netConnect]) ∨
    (s.LosesNetwork states ∧
      s.netStatus states =
        { ((s.polled states).emit [.setEventFlag .netDisconnect]).resetClient with
          timeout := secondInMicros }) ∨
    (s.pollEvent states ≠ netCtlConnected ∧ ¬ s.LosesNetwork states ∧
      s.netStatus states = s.polled states) := by
  unfold netStatus pollEvent LosesNetwork polled
  dsimp only
  split_ifs with hcome hgone
  · have hkept : ¬ netCtlConnected = netCtlDisconnected := by decide
    rw [hcome]
    exact .inl ⟨rfl, hkept, rfl⟩
  · exact .inr (.inl ⟨hgone, rfl⟩)
  · exact .inr (.inr ⟨hcome, hgone, rfl⟩)

/-- At the end of an iteration there is no client, or it is not late and may be sent a pad. -/
theorem finish_cases {P : Platform} {s t : NetThread} {input : SendInput}
    (h : s.finish P input = .ok t) :
    (s.client = none ∧ t = s) ∨
      ∃ client, s.client = some client ∧
        ¬ maxHeartbeatInterval < client.timeSinceLastHeartbeat input.heartbeatClock ∧
        t = s.sendPad P client input := by
  unfold finish at h
  cases hclient : s.client with
  | none =>
      rw [hclient] at h
      cases h
      exact .inl ⟨rfl, rfl⟩
  | some client =>
      rw [hclient] at h
      dsimp only at h
      by_cases hlate : maxHeartbeatInterval < client.timeSinceLastHeartbeat input.heartbeatClock
      · have hnone : (s.checkHeartbeat client input.heartbeatClock).client = none := by
          rw [checkHeartbeat, if_pos hlate]
          exact resetClient_client _
        rw [hnone] at h
        cases h
      · have hkept : s.checkHeartbeat client input.heartbeatClock = s := if_neg hlate
        rw [hkept, hclient] at h
        cases h
        exact .inr ⟨client, rfl, hlate, rfl⟩

/-! ## What the two handshake steps do -/

def received (s : NetThread) (client : Client) (r : Ingoing) : NetThread :=
  { s.emit (r.handled.map (.handled client.sock)) with client := some r.client }

theorem readable_ok {P : Platform} {s t : NetThread} {client : Client} {input : Receive}
    (h : s.readable P client input = .ok t) :
    ∃ r, handleIngoingData P.flatbuffers P.getpeername client input = .ok r ∧
      ((r.thrown.any Thrown.disconnects ∧ t = (s.received client r).disconnectClient) ∨
        (¬ r.thrown.any Thrown.disconnects ∧ t = s.received client r)) := by
  unfold readable at h
  split at h
  · cases h
  · rename_i r hr
    refine ⟨r, hr, ?_⟩
    dsimp only at h
    split_ifs at h with hthrown <;> cases h
    · exact .inl ⟨hthrown, rfl⟩
    · exact .inr ⟨hthrown, rfl⟩

def response (P : Platform) : List UInt8 :=
  P.flatbuffers.finishHandshake ⟨.server, netPort, maxHeartbeatInterval.toUInt32⟩

def answered (s : NetThread) (client : Client) : NetThread :=
  { s.emit [.responded client.sock, .epollMod client.sock reinitEvents] with
    client := some { client with state := .connected } }

theorem sendHandshakeResponse_ok {P : Platform} {s t : NetThread} {client : Client}
    {sends : List Int32} (h : s.sendHandshakeResponse P client sends = .ok t) :
    ∃ sent pieces, sendAll (response P) sends 0 = some (sent, pieces) ∧
      ((¬ 0 < sent ∧ (t = (s.emit (pieces.map (.sent client.sock))).disconnectClient ∨
          t = s.emit (pieces.map (.sent client.sock)))) ∨
        (0 < sent ∧ t = (s.emit (pieces.map (.sent client.sock))).answered client)) := by
  unfold sendHandshakeResponse at h
  dsimp only at h
  split at h
  · cases h
  · rename_i sent pieces hsend
    refine ⟨sent, pieces, hsend, ?_⟩
    split_ifs at h with hfailed <;> cases h
    · exact .inl ⟨Int32.not_lt.mpr hfailed, .inl rfl⟩
    · exact .inl ⟨Int32.not_lt.mpr hfailed, .inr rfl⟩
    · exact .inr ⟨Int32.not_le.mp hfailed, rfl⟩

theorem readable_ne_emptyClient (P : Platform) (s t : NetThread) (client : Client)
    (input : Receive) (site : Site) :
    s.readable P client input ≠ .error (.emptyClient site t) := by
  unfold readable
  split
  · simp
  · dsimp only
    split_ifs <;> simp

theorem sendHandshakeResponse_ne_emptyClient (P : Platform) (s t : NetThread)
    (client : Client) (sends : List Int32) (site : Site) :
    s.sendHandshakeResponse P client sends ≠ .error (.emptyClient site t) := by
  unfold sendHandshakeResponse
  dsimp only
  split
  · simp
  · split_ifs <;> simp

end NetThread

/-! ## Inputs of an uneventful iteration -/

def Platform.sample : Platform := ⟨samplePackets, Socket.peer, 4⟩

def CtrlRead.idle (timeStamp : UInt64) : CtrlRead where
  result := 1
  pad := ⟨timeStamp, 0, 128, 128, 128, 128⟩
  retries := []
  touchFront := ⟨[]⟩
  touchBack := ⟨[]⟩
  motion := ⟨⟨0, 0, 0⟩, ⟨0, 0, 0⟩⟩

def CtrlState.idle : CtrlState where
  pad := ⟨0, 0, 0, 0, 0, 0⟩
  motion := ⟨⟨0, 0, 0⟩, ⟨0, 0, 0⟩⟩
  touchFront := ⟨[]⟩
  touchBack := ⟨[]⟩
  lastTs := 1024

def SendInput.instant (now : UInt64) (padMode : Bool) : SendInput where
  heartbeatClock := now
  pollingClock := now
  sentDataClock := now
  timeoutClock := now
  padMode := padMode
  batteryLevel := 100
  sendtoResult := 0

/-- A connection to accept at an instant, from the address 192.168.1.2. -/
def EventInput.connect (now : UInt64) : EventInput where
  events := ⟨true, false, false, false⟩
  sockType := .server
  accept := ⟨3, ⟨0x0201a8c0, 0x5000⟩, now, now⟩
  receive := .wouldBlock []
  sends := []

/-- An iteration at one instant, reading the instant as the controller's time stamp. -/
def Iteration.instant (now : UInt64) (padMode : Bool) (events : List EventInput) :
    Iteration where
  ctrl := .idle (now + 2048)
  states := []
  events := events
  send := .instant now padMode

end VitaOxiPad.Server
