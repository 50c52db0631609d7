import VitaOxiPad.Server.Flatbuffers
/-!
# The server's client object

`server/include/client.hpp`.  A `Client` is created for an accepted connection,
collects what it receives in `buffer_`, and takes messages off the front of it:
heartbeats by comparison with the magic bytes, packets by their content type.
Readings of the process clock are arguments.
-/

namespace VitaOxiPad.Server

open NetProtocol

/-- `SceNetSockaddrIn`, address and port in network byte order. -/
structure SockaddrIn where
  sinAddr : UInt32
  sinPort : UInt16
  deriving DecidableEq, Repr

def sceNetHtons (port : UInt16) : UInt16 := (port <<< 8) ||| (port >>> 8)

/-- An accepted connection.  Descriptors are used again, serials are not. -/
structure Socket where
  serial : Nat
  fd : Int32
  peer : SockaddrIn
  deriving DecidableEq, Repr

/-- `MIN_POLLING_INTERVAL_MICROS`: the division is an integer one. -/
def minPollingIntervalMicros : UInt32 := 1 * 1000 / 144 * 1000

namespace Client

inductive State where
  | waitingForHandshake
  | waitingForServerConfirm
  | connected
  deriving DecidableEq, Repr

end Client

structure Client where
  sock : Socket
  /-- The address that `ip()` prints. -/
  ip : UInt32
  heartbeatTime : UInt64
  sentDataTime : UInt64
  pollingTime : UInt64
  state : Client.State
  /-- `buffer_`: `none` until it first holds a byte, while its `data()` is a null pointer. -/
  storage : Option (List UInt8)
  /-- `none` until it is first set. -/
  dataConnInfo : Option SockaddrIn
  deriving DecidableEq, Repr

/-- The null pointers that are dereferenced: the content of a packet, and `buffer_.data()`. -/
inductive Fault where
  | nullContent
  | nullData
  deriving DecidableEq, Repr

namespace Client

def maxBufferAcceptableSize : Nat := 1 * 1024 * 1024

def buffer (client : Client) : List UInt8 := client.storage.getD []

/-- Storage is allocated for the first byte, and neither `erase` nor `clear` gives it back. -/
def setBuffer (client : Client) (bytes : List UInt8) : Client :=
  { client with storage := if client.storage = none ∧ bytes = [] then none else some bytes }

def new (getpeername : Socket → SockaddrIn) (sock : Socket)
    (heartbeatClock sentDataClock : UInt64) : Client where
  sock := sock
  ip := (getpeername sock).sinAddr
  heartbeatTime := heartbeatClock
  sentDataTime := sentDataClock
  pollingTime := minPollingIntervalMicros.toUInt64
  state := .waitingForHandshake
  storage := none
  dataConnInfo := none

def timeSinceLastHeartbeat (client : Client) (now : UInt64) : UInt64 :=
  (now - client.heartbeatTime) / 1000000

def updateHeartbeatTime (now : UInt64) (client : Client) : Client :=
  { client with heartbeatTime := now }

def timeSinceLastSentData (client : Client) (now : UInt64) : UInt64 :=
  now - client.sentDataTime

def updateSentDataTime (now : UInt64) (client : Client) : Client :=
  { client with sentDataTime := now }

def isPollingTimeElapsed (client : Client) (now : UInt64) : Bool :=
  client.pollingTime < client.timeSinceLastSentData now

/-- `std::clamp` of the difference, which wraps around below zero. -/
def remainingPollingTime (client : Client) (now : UInt64) : UInt64 :=
  let remaining := client.pollingTime - client.timeSinceLastSentData now
  if remaining < 0 then 0
  else if client.pollingTime < remaining then client.pollingTime
  else remaining

/-- An error is the `ClientException`, thrown by a client it leaves emptied. -/
def addToBuffer (client : Client) (data : List UInt8) : Except Client Client :=
  if client.buffer.length + data.length > maxBufferAcceptableSize then
    .error (client.setBuffer [])
  else .ok (client.setBuffer (client.buffer ++ data))

def handleHandshake (getpeername : Socket → SockaddrIn)
    (handshake : NetProtocol.Handshake) (client : Client) : Client :=
  let clientaddr := { getpeername client.sock with sinPort := sceNetHtons handshake.port }
  { client with
    dataConnInfo := some clientaddr
    state := .waitingForServerConfirm }

def handleConfig (config : NetProtocol.Config) (client : Client) : Client :=
  if minPollingIntervalMicros.toUInt64 < config.pollingInterval then
    { client with pollingTime := config.pollingInterval }
  else client

def handle (getpeername : Socket → SockaddrIn) (now : UInt64) (client : Client) :
    Message → Client
  | .handshake handshake => client.handleHandshake getpeername handshake
  | .config config => client.handleConfig config
  | .heartbeat => client.updateHeartbeatTime now

def handleHeartbeat (now : UInt64) (client : Client) : Option Client :=
  if client.buffer.length < heartbeatMagic.length ∨
      client.buffer.take heartbeatMagic.length ≠ heartbeatMagic then none
  else
    let client := client.updateHeartbeatTime now
    some (client.setBuffer (client.buffer.drop heartbeatMagic.length))

end Client

/-- `handlers`: what the entry for a content type makes of the content. -/
def handlers (fb : Flatbuffers) : PacketContent → Option (List UInt8 → Option Message)
  | .handshake => some fun buffer => (fb.contentAsHandshake buffer).map .handshake
  | .config => some fun buffer => (fb.contentAsConfig buffer).map .config
  | _ => none

/-- `Client::handle_data`: the message it handled before returning true, if any,
and the client after the call. -/
def Client.handleData (fb : Flatbuffers) (getpeername : Socket → SockaddrIn)
    (outside : Int → UInt8) (client : Client) : Except Fault (Option Message × Client) :=
  if client.storage = none then .error .nullData
  else
    let data := memory client.buffer outside
    match handlers fb (fb.contentType data).tag with
    | none => .ok (none, client)
    | some handler =>
        match fb.verify client.buffer with
        | none => .ok (none, client.setBuffer [])
        | some size =>
            match handler client.buffer with
            | none => .error .nullContent
            | some message =>
                -- no packet is a heartbeat, so no clock is read
                let client := client.handle getpeername 0 message
                .ok (some message, client.setBuffer (client.buffer.drop size))

namespace Client

@[simp] theorem buffer_setBuffer (client : Client) (bytes : List UInt8) :
    (client.setBuffer bytes).buffer = bytes := by
  unfold setBuffer buffer
  split_ifs with h
  · exact h.2.symm
  · rfl

@[simp] theorem setBuffer_buffer (client : Client) : client.setBuffer client.buffer = client := by
  obtain ⟨sock, ip, heartbeat, sent, polling, state, storage, info⟩ := client
  cases storage <;> simp [setBuffer, buffer]

theorem setBuffer_setBuffer (client : Client) {first second : List UInt8}
    (h : second = [] → first = []) :
    (client.setBuffer first).setBuffer second = client.setBuffer second := by
  by_cases hnone : client.storage = none ∧ first = []
  · simp [setBuffer, hnone.1, hnone.2]
  · have hkept : ¬ (client.storage = none ∧ second = []) := fun hsecond =>
      hnone ⟨hsecond.1, h hsecond.2⟩
    simp [setBuffer, if_neg hnone, if_neg hkept]

theorem storage_of_buffer {client : Client} (h : client.buffer ≠ []) : client.storage ≠ none := by
  intro hnone
  rw [buffer, hnone] at h
  exact h rfl

theorem storage_setBuffer {client : Client} (h : client.storage ≠ none) (bytes : List UInt8) :
    (client.setBuffer bytes).storage ≠ none := by
  have hsome : (client.setBuffer bytes).storage = some bytes := if_neg fun hnone => h hnone.1
  rw [hsome]
  exact Option.some_ne_none bytes

theorem storage_setBuffer_append {client : Client} {bytes : List UInt8}
    (h : client.storage ≠ none ∨ bytes ≠ []) :
    (client.setBuffer (client.buffer ++ bytes)).storage ≠ none := by
  rcases h with hstorage | hbytes
  · exact storage_setBuffer hstorage _
  · apply storage_of_buffer
    rw [buffer_setBuffer]
    exact List.append_ne_nil_of_right_ne_nil _ hbytes

@[simp] theorem handle_sock (getpeername : Socket → SockaddrIn) (now : UInt64)
    (client : Client) (message : Message) :
    (client.handle getpeername now message).sock = client.sock := by
  cases message with
  | handshake handshake => rfl
  | config config =>
      simp only [handle, handleConfig]
      split_ifs <;> rfl
  | heartbeat => rfl

@[simp] theorem handle_storage (getpeername : Socket → SockaddrIn) (now : UInt64)
    (client : Client) (message : Message) :
    (client.handle getpeername now message).storage = client.storage := by
  cases message with
  | handshake handshake => rfl
  | config config =>
      simp only [handle, handleConfig]
      split_ifs <;> rfl
  | heartbeat => rfl

@[simp] theorem handle_buffer (getpeername : Socket → SockaddrIn) (now : UInt64)
    (client : Client) (message : Message) :
    (client.handle getpeername now message).buffer = client.buffer := by
  rw [buffer, handle_storage, buffer]

theorem foldl_handle_sock (getpeername : Socket → SockaddrIn) (now : UInt64)
    (client : Client) (messages : List Message) :
    (messages.foldl (handle getpeername now) client).sock = client.sock := by
  induction messages generalizing client with
  | nil => rfl
  | cons message messages ih => rw [List.foldl_cons, ih, handle_sock]

def settings (client : Client) : Client :=
  { client with storage := none, heartbeatTime := 0 }

@[simp] theorem settings_setBuffer (client : Client) (bytes : List UInt8) :
    (client.setBuffer bytes).settings = client.settings := rfl

theorem handle_settings (getpeername : Socket → SockaddrIn) (now : UInt64)
    (client : Client) (message : Message) :
    (client.handle getpeername now message).settings =
      (client.settings.handle getpeername 0 message).settings := by
  cases message with
  | handshake handshake => rfl
  | config config =>
      simp only [handle, handleConfig]
      split_ifs <;> rfl
  | heartbeat => rfl

theorem foldl_handle_settings (getpeername : Socket → SockaddrIn)
    {client client' : Client} (messages : List Message)
    (h : client.settings = client'.settings) :
    (messages.foldl (handle getpeername 0) client).settings =
      (messages.foldl (handle getpeername 0) client').settings := by
  induction messages generalizing client client' with
  | nil => exact h
  | cons message messages ih =>
      apply ih
      rw [handle_settings getpeername 0 client, handle_settings getpeername 0 client', h]

end Client

end VitaOxiPad.Server
