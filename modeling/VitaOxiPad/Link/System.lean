import VitaOxiPad.Client.ConnectionPhase
import VitaOxiPad.Server.PadRoundTrip
import VitaOxiPad.Server.Timestamps
/-!
# The console and the PC

The network thread of a console, one client process, and what is between them.
Their steps interleave in any order.  The control socket carries a stream of bytes
each way.  The pad socket loses, repeats and reorders datagrams, but makes none up.
Other clients connect to the console as they like and send it anything.
-/

namespace VitaOxiPad.Link

open NetProtocol Server
open Client (ConnectIo ConnectStop LoopState Turn)
open Client.VitaReports (MainReport)

variable {ε : Type}

structure Setup (ε : Type) where
  platform : Platform
  flatbuffers : Client.Flatbuffers ε
  device : List MainReport → Bool
  /-- The console's end of the client's control socket. -/
  sock : Socket
  boundPort : UInt16
  pollingInterval : Option UInt64

/-- The loop of the network thread, by the input it takes next. -/
inductive Point where
  | ctrl
  | netStatus
  | event
  deriving DecidableEq, Repr

def Point.next : Point → Input → Option Point
  | ctrl, .ctrl _ => some netStatus
  | netStatus, .netStatus _ => some event
  | event, .event _ => some event
  | event, .send _ => some ctrl
  | _, _ => none

inductive Phase where
  | connected
  /-- The handshake has been written. -/
  | greeted
  | looping (heartbeatFreq : UInt32) (state : LoopState)
  deriving DecidableEq, Repr

structure System where
  thread : NetThread
  point : Point
  phase : Phase
  /-- What the client has written to its control socket. -/
  writes : List (List UInt8)
  /-- How many bytes of it the console has received. -/
  received : Nat
  deriving DecidableEq, Repr

inductive Action where
  | console (input : Input)
  | greet
  /-- The client's one read of the control socket, and the clock after it. -/
  | connect (read : List UInt8) (clock : Nat)
  | turn (t : Turn)

inductive Stop (ε : Type) where
  | console (stop : Server.Stop)
  | connect (stop : ConnectStop ε)
  | loop (stop : FuelLoop.Halt Client.Stop)
  /-- Neither the program nor the network can do this here. -/
  | impossible

instance (input : EventInput) : Decidable (NetThread.Reads input) :=
  inferInstanceAs (Decidable (_ ∧ _ ∧ _ ∧ _))

def ctrlWrites : List ConnectIo → List (List UInt8) :=
  List.filterMap fun
    | .ctrlWrite bytes => some bytes
    | .padSend _ => none

def heartbeatWrites : List Client.Io → List (List UInt8) :=
  List.filterMap fun
    | .ctrlWrite bytes => some bytes
    | .wait _ => none

namespace Setup

variable (L : Setup ε)

/-- Where the client has bound its pad socket, as the console addresses it. -/
def padAddr : SockaddrIn := { L.sock.peer with sinPort := sceNetHtons L.boundPort }

def padsSent (thread : NetThread) : List PadSend :=
  (NetThread.pads thread.trace).filter (·.clientAddr = some L.padAddr)

def answers (thread : NetThread) : List UInt8 :=
  (thread.trace.filterMap fun
    | .sent sock bytes => if sock = L.sock then some bytes else none
    | _ => none).flatten

/-- What the input takes from the client's control socket. -/
def taken (thread : NetThread) : Input → List UInt8
  | .event input =>
      if NetThread.Reads input ∧ thread.client.map (·.sock) = some L.sock then
        input.receive.bytes
      else []
  | _ => []

def greeting : List UInt8 :=
  (Client.Connection.new.sendHandshake L.flatbuffers ⟨.client, L.boundPort, 0⟩).retrieveOutData.1

end Setup

namespace System

def initial (ctrl : CtrlState) (padData : SceCtrlData) : System where
  thread := .initial ctrl padData
  point := .ctrl
  phase := .connected
  writes := []
  received := 0

/-- The bytes in flight to the console. -/
def upstream (s : System) : List UInt8 := s.writes.flatten.drop s.received

def reports (s : System) : List MainReport :=
  match s.phase with
  | .looping _ state => state.reports
  | _ => []

def console (L : Setup ε) (s : System) (input : Input) : Except (Stop ε) System :=
  match s.point.next input with
  | none => .error .impossible
  | some point =>
      if L.taken s.thread input <+: s.upstream then
        match s.thread.step L.platform input with
        | .error stop => .error (.console stop)
        | .ok thread =>
            .ok { s with
              thread := thread
              point := point
              received := s.received + (L.taken s.thread input).length }
      else .error .impossible

def connect (L : Setup ε) (s : System) (read : List UInt8) (clock : Nat) :
    Except (Stop ε) System :=
  if s.phase = .greeted ∧ read <+: L.answers s.thread then
    match Client.connect L.flatbuffers ⟨L.boundPort, L.pollingInterval, [read], clock⟩ with
    | .error stop => .error (.connect stop)
    | .ok r =>
        .ok { s with phase := .looping r.heartbeatFreq r.state, writes := ctrlWrites r.io }
  else .error .impossible

def turn (L : Setup ε) (s : System) (t : Turn) : Except (Stop ε) System :=
  match s.phase with
  | .looping heartbeatFreq state =>
      if ∀ bytes ∈ t.datagram, bytes ∈ (L.padsSent s.thread).map (·.packet) then
        match Client.loopTurn L.flatbuffers L.device heartbeatFreq state t with
        | .error stop => .error (.loop stop)
        | .ok state' =>
            .ok { s with
              phase := .looping heartbeatFreq state'
              writes := s.writes ++ heartbeatWrites (state'.io.drop state.io.length) }
      else .error .impossible
  | _ => .error .impossible

def step (L : Setup ε) (s : System) : Action → Except (Stop ε) System
  | .console input => s.console L input
  | .greet =>
      if s.phase = .connected then .ok { s with phase := .greeted, writes := [L.greeting] }
      else .error .impossible
  | .connect read clock => s.connect L read clock
  | .turn t => s.turn L t

def run (L : Setup ε) (s : System) (actions : List Action) : Except (Stop ε) System :=
  StepRun.run (step L) s actions

end System

inductive Step (L : Setup ε) (s : System) : Action → System → Prop
  | console {input : Input} {point : Point} {thread : NetThread}
      (hpoint : s.point.next input = some point)
      (hthread : s.thread.step L.platform input = .ok thread)
      (htaken : L.taken s.thread input <+: s.upstream) :
      Step L s (.console input)
        { s with
          thread := thread
          point := point
          received := s.received + (L.taken s.thread input).length }
  | greet (hphase : s.phase = .connected) :
      Step L s .greet { s with phase := .greeted, writes := [L.greeting] }
  | connect {read : List UInt8} {clock : Nat} {r : Client.Connected}
      (hphase : s.phase = .greeted) (hread : read <+: L.answers s.thread)
      (hr : Client.connect L.flatbuffers ⟨L.boundPort, L.pollingInterval, [read], clock⟩ =
        .ok r) :
      Step L s (.connect read clock)
        { s with phase := .looping r.heartbeatFreq r.state, writes := ctrlWrites r.io }
  | turn {t : Turn} {heartbeatFreq : UInt32} {state state' : LoopState}
      (hphase : s.phase = .looping heartbeatFreq state)
      (hair : ∀ bytes ∈ t.datagram, bytes ∈ (L.padsSent s.thread).map (·.packet))
      (hturn : Client.loopTurn L.flatbuffers L.device heartbeatFreq state t = .ok state') :
      Step L s (.turn t)
        { s with
          phase := .looping heartbeatFreq state'
          writes := s.writes ++ heartbeatWrites (state'.io.drop state.io.length) }

theorem step_ok {L : Setup ε} {s t : System} {a : Action} (h : s.step L a = .ok t) :
    Step L s a t := by
  cases a with
  | console input =>
      simp only [System.step, System.console] at h
      split at h
      · cases h
      · rename_i point hpoint
        split_ifs at h with htaken
        split at h
        · cases h
        · rename_i thread hthread
          cases h
          exact .console hpoint hthread htaken
  | greet =>
      simp only [System.step] at h
      split_ifs at h with hphase
      cases h
      exact .greet hphase
  | connect read clock =>
      simp only [System.step, System.connect] at h
      split_ifs at h with hphase
      split at h
      · cases h
      · rename_i r hr
        cases h
        exact .connect hphase.1 hphase.2 hr
  | turn t =>
      simp only [System.step, System.turn] at h
      split at h
      · rename_i heartbeatFreq state hphase
        split_ifs at h with hair
        split at h
        · cases h
        · rename_i state' hturn
          cases h
          exact .turn hphase hair hturn
      · cases h

theorem handshakeResponse_outgoing {fb : Client.Flatbuffers ε} {conn conn' : Client.Connection}
    {reads : List (List UInt8)} {handshake : Client.Handshake}
    (h : Client.handshakeResponse fb conn reads = .ok (handshake, conn')) :
    conn'.outgoingBuffer = conn.outgoingBuffer := by
  unfold Client.handshakeResponse at h
  dsimp only at h
  split at h
  · cases h
  · cases h
  · split at h
    · cases h
      rfl
    · cases h
    · cases h

/-- The client has understood the response, and begins its main loop with what follows it. -/
theorem connect_ok {L : Setup ε} {read : List UInt8} {clock : Nat} {r : Client.Connected}
    (h : Client.connect L.flatbuffers ⟨L.boundPort, L.pollingInterval, [read], clock⟩ = .ok r) :
    ∃ handshake rest,
      Client.handshakeResponse L.flatbuffers .new [read] = .ok (handshake, ⟨rest, []⟩) ∧
        r.state = .start rest clock := by
  cases hresponse : Client.handshakeResponse L.flatbuffers .new [read] with
  | error e =>
      have herror : Client.connect L.flatbuffers
          ⟨L.boundPort, L.pollingInterval, [read], clock⟩ = .error e :=
        Client.connect_of_error hresponse
      rw [herror] at h
      cases h
  | ok response =>
      obtain ⟨handshake, rest, outgoing⟩ := response
      have hempty : outgoing = [] := handshakeResponse_outgoing hresponse
      rw [hempty] at hresponse ⊢
      have hok : ∃ r', Client.connect L.flatbuffers
          ⟨L.boundPort, L.pollingInterval, [read], clock⟩ = .ok r' ∧
            r'.heartbeatFreq = handshake.heartbeatFreq ∧ r'.state = .start rest clock :=
        Client.connect_of_response hresponse
      obtain ⟨r', hr', -, hstate⟩ := hok
      rw [h] at hr'
      cases hr'
      exact ⟨handshake, rest, rfl, hstate⟩

/-! ## A session -/

/-- A client handshake with port 1234 and no heartbeat frequency. -/
def greetingPacket : List UInt8 :=
  [40, 0, 0, 0, 12, 0, 0, 0, 8, 0, 12, 0, 7, 0, 8, 0, 8, 0, 0, 0, 0, 0, 0, 2, 12, 0, 0, 0,
    8, 0, 8, 0, 0, 0, 6, 0, 8, 0, 0, 0, 0, 0, 210, 4]

/-- The handshake that `send_handshake_response` builds. -/
def responsePacket : List UInt8 :=
  [48, 0, 0, 0, 12, 0, 0, 0, 8, 0, 14, 0, 7, 0, 8, 0, 8, 0, 0, 0, 0, 0, 0, 2, 16, 0, 0, 0,
    0, 0, 10, 0, 12, 0, 5, 0, 6, 0, 8, 0, 10, 0, 0, 0, 0, 1, 136, 19, 25, 0, 0, 0]

/-- The low bytes of the timestamps of the pads that arrive. -/
def Setup.sampleLows : List UInt8 := [3, 4, 5, 6]

/-- A client that asks for a polling interval of 10000. -/
def Setup.sample : Setup Unit where
  platform :=
    { flatbuffers :=
        { Flatbuffers.ofPackets [(greetingPacket, .handshake ⟨.client, 1234, 0⟩),
            (configPacket, .config configTable)] with
          finishHandshake := fun handshake =>
            if handshake = ⟨.server, 5000, 25⟩ then responsePacket else []
          finishPad := fun pad =>
            let low := pad.timestamp.toUInt8
            if pad = padTable low then padPacket low else [] }
      getpeername := Socket.peer
      serverUdpFd := 4 }
  flatbuffers := .ofTables ()
    ((responsePacket, ⟨.handshake, some ⟨.server, 5000, 25⟩, none⟩) ::
      sampleLows.map fun low => (padPacket low, ⟨.pad, none, some (padTable low)⟩))
    [(⟨.handshake, .handshake ⟨.client, 1234, 0⟩⟩, greetingPacket),
      (⟨.config, .config configTable⟩, configPacket)]
  device := fun _ => true
  sock := ⟨0, 3, ⟨0x0201a8c0, 0x5000⟩⟩
  boundPort := 1234
  pollingInterval := some 10000

def usedRead (low : UInt8) : CtrlRead where
  result := 1
  pad := (CtrlState.inUse low).pad
  retries := []
  touchFront := (CtrlState.inUse low).touchFront
  touchBack := (CtrlState.inUse low).touchBack
  motion := (CtrlState.inUse low).motion

def iteration (now : UInt64) (low : UInt8) (events : List EventInput) : List Action :=
  [.console (.ctrl (usedRead low)), .console (.netStatus [])] ++
    events.map (fun input => .console (.event input)) ++
    [.console (.send { SendInput.instant now true with batteryLevel := 87 })]

def joining : List Action :=
  iteration 0 1 [.connect 0] ++ [.greet] ++
    iteration 10000 2 [{ EventInput.connect 0 with
      sockType := .client, receive := .wouldBlock greetingPacket }] ++
    iteration 20000 3 [{ EventInput.connect 0 with
      events := ⟨false, true, false, false⟩, sockType := .client, sends := [52] }] ++
    [.connect responsePacket 0]

end VitaOxiPad.Link
