import VitaOxiPad.Client.Connection
import VitaOxiPad.Server.Segmentation
/-!
# From the client's connection to the server's client object

The bytes a client's `Connection` hands out are the messages it was asked to
send, back to back.  A server that receives them in readable events that cut no
message in two handles each message when it comes, and stops every time with an
empty buffer, whatever content type it reads there.
-/

namespace VitaOxiPad.Server

open NetProtocol Framing
open VitaOxiPad.Client (Connection)

variable {ε : Type} {fb : Flatbuffers}

inductive ConnectionCall where
  | sendHandshake (args : NetProtocol.Handshake)
  | sendConfig (args : NetProtocol.Config)
  | sendHeartbeat
  | retrieveOutData
  deriving DecidableEq, Repr

def ConnectionCall.message : ConnectionCall → Option Message
  | sendHandshake args => some (.handshake args)
  | sendConfig args => some (.config args)
  | sendHeartbeat => some .heartbeat
  | retrieveOutData => none

structure Outbox where
  conn : Connection
  retrieved : List (List UInt8)
  deriving DecidableEq, Repr

def Outbox.call (clientFb : Client.Flatbuffers ε) (s : Outbox) : ConnectionCall → Outbox
  | .sendHandshake args => { s with conn := s.conn.sendHandshake clientFb args }
  | .sendConfig args => { s with conn := s.conn.sendConfig clientFb args }
  | .sendHeartbeat => { s with conn := s.conn.sendHeartbeat }
  | .retrieveOutData =>
      let (data, conn) := s.conn.retrieveOutData
      ⟨conn, s.retrieved ++ [data]⟩

def Outbox.calls (clientFb : Client.Flatbuffers ε) (calls : List ConnectionCall) : Outbox :=
  calls.foldl (Outbox.call clientFb) ⟨Connection.new, []⟩

def encode (clientFb : Client.Flatbuffers ε) : Message → List UInt8
  | .handshake args => clientFb.finishSizePrefixed ⟨.handshake, .handshake args⟩
  | .config args => clientFb.finishSizePrefixed ⟨.config, .config args⟩
  | .heartbeat => heartbeatMagic

/-- Retrieved or still in the connection: the bytes of the messages sent so far. -/
theorem foldl_call (clientFb : Client.Flatbuffers ε) (calls : List ConnectionCall) (s : Outbox) :
    (calls.foldl (Outbox.call clientFb) s).retrieved.flatten ++
        (calls.foldl (Outbox.call clientFb) s).conn.outgoingBuffer =
      s.retrieved.flatten ++ s.conn.outgoingBuffer ++
        stream (encode clientFb) (calls.filterMap ConnectionCall.message) := by
  induction calls generalizing s with
  | nil => simp
  | cons call calls ih =>
      rw [List.foldl_cons, ih]
      cases call with
      | sendHandshake args =>
          simp [Outbox.call, Connection.sendHandshake, ConnectionCall.message, encode]
      | sendConfig args =>
          simp [Outbox.call, Connection.sendConfig, ConnectionCall.message, encode]
      | sendHeartbeat =>
          simp [Outbox.call, Connection.sendHeartbeat, ConnectionCall.message, encode]
      | retrieveOutData =>
          rw [List.filterMap_cons_none rfl]
          simp [Outbox.call, Connection.retrieveOutData]

theorem calls_retrieved {clientFb : Client.Flatbuffers ε} {calls : List ConnectionCall}
    (h : (Outbox.calls clientFb calls).conn.outgoingBuffer = []) :
    (Outbox.calls clientFb calls).retrieved.flatten =
      stream (encode clientFb) (calls.filterMap ConnectionCall.message) := by
  have hcall := foldl_call clientFb calls ⟨Connection.new, []⟩
  unfold Outbox.calls at h ⊢
  calc (calls.foldl (Outbox.call clientFb) ⟨Connection.new, []⟩).retrieved.flatten
      = [] ++ [] ++ stream (encode clientFb) (calls.filterMap ConnectionCall.message) := by
        rw [h, List.append_nil] at hcall
        exact hcall
    _ = stream (encode clientFb) (calls.filterMap ConnectionCall.message) := rfl

def sentMessages (clientFb : Client.Flatbuffers ε) (sent : List Message)
    (h : ∀ m ∈ sent, m = .heartbeat ∨ Decodes fb (encode clientFb m) m) :
    List (ClientMessage fb) :=
  sent.attach.map fun m : { m // m ∈ sent } =>
    { bytes := encode clientFb m.val
      message := m.val
      sound := by
        rcases h m.val m.2 with hm | hm
        · exact Or.inl ⟨hm, by rw [hm]; rfl⟩
        · exact Or.inr hm }

section

variable {clientFb : Client.Flatbuffers ε} {sent : List Message}
  (h : ∀ m ∈ sent, m = .heartbeat ∨ Decodes fb (encode clientFb m) m)

theorem map_message_sentMessages :
    (sentMessages clientFb sent h).map ClientMessage.message = sent := by
  rw [sentMessages, List.map_map]
  exact List.attach_map_val.trans (List.map_id sent)

theorem bytes_sentMessages :
    ∀ m ∈ sentMessages clientFb sent h, m.bytes = encode clientFb m.message := by
  intro m hm
  obtain ⟨_, -, rfl⟩ := List.mem_map.mp hm
  rfl

end

/-- A readable event of whole messages handles them and empties the buffer,
whatever content type is read over the emptied buffer. -/
theorem receive_whole_messages {getpeername : Socket → SockaddrIn} {client₀ : Client}
    {s : List Message × Client} {done more : List (ClientMessage fb)} {input : Receive}
    (hs : Handled getpeername client₀ done [] s)
    (hstorage : s.2.storage ≠ none ∨ input.bytes ≠ [])
    (hwould : input.received.toUInt32 = sceNetErrorEwouldblock)
    (hroom : input.bytes.length ≤ Client.maxBufferAcceptableSize)
    (hbrings : input.bytes = stream ClientMessage.bytes more) :
    ∃ s', receive fb getpeername s input = .ok s' ∧
      Handled getpeername client₀ (done ++ more) [] s' ∧ s'.2.storage ≠ none := by
  have hnil : [] ++ input.bytes = stream ClientMessage.bytes more ++ [] := by
    rw [List.nil_append, List.append_nil, hbrings]
  obtain ⟨s', hreceive, hs'⟩ := receive_stream hs hstorage hwould (by simpa using hroom) hnil
    (by decide) (fb.verify_short (by decide))
  rw [ite_self] at hs'
  exact ⟨s', hreceive, hs'⟩

/-- `buffer_` has held a byte before the first of the events is handled. -/
def StartsWithBytes (client₀ : Client) (inputs : List Receive) : Prop :=
  client₀.storage ≠ none ∨ ∀ input ∈ inputs.head?, input.bytes ≠ []

theorem StartsWithBytes.arrived_pos {client₀ : Client} {pre post : List Receive}
    {input : Receive} (h : StartsWithBytes client₀ (pre ++ input :: post)) :
    client₀.storage ≠ none ∨ 0 < arrived Receive.bytes (pre ++ [input]) := by
  refine h.imp id fun hhead => ?_
  have hpos : ∀ first rest, pre ++ [input] = first :: rest →
      0 < arrived Receive.bytes (pre ++ [input]) := by
    intro first rest heq
    have hfirst : first.bytes ≠ [] := by
      apply hhead first
      have hall : pre ++ input :: post = first :: (rest ++ post) := by
        rw [← List.cons_append, ← heq]
        simp
      rw [hall]
      rfl
    rw [heq, arrived, List.flatMap_cons, List.length_append]
    have := List.length_pos_of_ne_nil hfirst
    omega
  cases pre with
  | nil => exact hpos input [] rfl
  | cons first pre => exact hpos first (pre ++ [input]) rfl

/-- An event that begins and ends between messages, with some byte before its end. -/
def Whole (client₀ : Client) (messages : List (ClientMessage fb)) (n : Nat)
    (input : Receive) : Prop :=
  pending ClientMessage.bytes messages n = [] ∧
    pending ClientMessage.bytes messages (n - input.bytes.length) = [] ∧
      (client₀.storage ≠ none ∨ 0 < n)

/-- Readable events that end between messages leave exactly the messages that
have come to their end handled. -/
theorem run_whole_messages (getpeername : Socket → SockaddrIn)
    {messages : List (ClientMessage fb)} {client₀ : Client} (hclient₀ : client₀.buffer = [])
    {inputs : List Receive} (hfirst : StartsWithBytes client₀ inputs)
    (hwould : ∀ input ∈ inputs, input.received.toUInt32 = sceNetErrorEwouldblock)
    (hroom : ∀ input ∈ inputs, input.bytes.length ≤ Client.maxBufferAcceptableSize)
    (hinputs : inputs.flatMap Receive.bytes = stream ClientMessage.bytes messages)
    (hcuts : ∀ pre post, inputs = pre ++ post →
      pending ClientMessage.bytes messages (arrived Receive.bytes pre) = [])
    (pre post : List Receive) (hsplit : inputs = pre ++ post) :
    ∃ s, StepRun.run (receive fb getpeername) ([], client₀) pre = .ok s ∧
      Handled getpeername client₀
        (completed ClientMessage.bytes messages (arrived Receive.bytes pre)) [] s := by
  have hadv : Advances ClientMessage.bytes Receive.bytes (receive fb getpeername)
      (Tracked getpeername client₀) (Whole client₀) messages inputs := by
    intro n input hmem s more hs hwithin hcompletes hbrings ⟨hafter, hbefore, hcome⟩
    have hstorage := hs.has_storage (by omega) hcome
    have hhandled := hs.handled
    rw [Nat.add_sub_cancel] at hbefore
    rw [hbefore] at hhandled hbrings
    rw [hafter, List.nil_append, List.append_nil] at hbrings
    obtain ⟨s', hreceive, hs', hstorage'⟩ :=
      receive_whole_messages hhandled hstorage (hwould input hmem) (hroom input hmem) hbrings
    refine ⟨s', hreceive, Handled.tracked ?_ hwithin hcome hstorage'⟩
    rwa [hafter, hcompletes]
  subst hsplit
  have hwhole : AllGood Receive.bytes (Whole client₀) messages pre := by
    rintro before input after rfl
    rw [List.append_assoc, List.cons_append] at hfirst
    refine ⟨hcuts _ (after ++ post) (by simp), ?_, hfirst.arrived_pos⟩
    rw [arrived_append, arrived_singleton, Nat.add_sub_cancel]
    exact hcuts before (input :: after ++ post) (by simp)
  obtain ⟨s, hrun, hs⟩ :=
    run_holds (tracked_nothing getpeername messages hclient₀) pre post hadv hinputs hwhole
  have hhandled := hs.handled
  rw [hcuts pre post rfl] at hhandled
  exact ⟨s, hrun, hhandled⟩

/-- Whatever a client sends through its connection, a server that gets the bytes
in readable events that cut no message in two handles exactly the messages sent,
once each and in order, with an empty buffer after every event. -/
theorem handles_sent_messages (clientFb : Client.Flatbuffers ε) (fb : Flatbuffers)
    (getpeername : Socket → SockaddrIn) (calls : List ConnectionCall)
    (hall : (Outbox.calls clientFb calls).conn.outgoingBuffer = [])
    (hdecodes : ∀ m ∈ calls.filterMap ConnectionCall.message,
      m = .heartbeat ∨ Decodes fb (encode clientFb m) m)
    (client₀ : Client) (hclient₀ : client₀.buffer = []) (inputs : List Receive)
    (hfirst : StartsWithBytes client₀ inputs)
    (hwould : ∀ input ∈ inputs, input.received.toUInt32 = sceNetErrorEwouldblock)
    (hroom : ∀ input ∈ inputs, input.bytes.length ≤ Client.maxBufferAcceptableSize)
    (hinputs : inputs.flatMap Receive.bytes = (Outbox.calls clientFb calls).retrieved.flatten)
    (hcuts : ∀ pre post, inputs = pre ++ post → pending (encode clientFb)
      (calls.filterMap ConnectionCall.message) (arrived Receive.bytes pre) = []) :
    let sent := calls.filterMap ConnectionCall.message
    (∀ pre post, inputs = pre ++ post →
      ∃ client, StepRun.run (receive fb getpeername) ([], client₀) pre =
          .ok (completed (encode clientFb) sent (arrived Receive.bytes pre), client) ∧
        client.buffer = []) ∧
    ∃ client, StepRun.run (receive fb getpeername) ([], client₀) inputs = .ok (sent, client) ∧
      client.settings = (sent.foldl (Client.handle getpeername 0) client₀).settings := by
  intro sent
  set messages : List (ClientMessage fb) := sentMessages clientFb sent hdecodes
  have hsent : messages.map ClientMessage.message = sent := map_message_sentMessages hdecodes
  have hbytes : ∀ m ∈ messages, m.bytes = encode clientFb m.message :=
    bytes_sentMessages hdecodes
  have hpending : ∀ pre post, inputs = pre ++ post →
      pending ClientMessage.bytes messages (arrived Receive.bytes pre) = [] := by
    intro pre post hsplit
    rw [← pending_map hbytes, hsent]
    exact hcuts pre post hsplit
  have hstream : inputs.flatMap Receive.bytes = stream ClientMessage.bytes messages := by
    calc inputs.flatMap Receive.bytes
        = (Outbox.calls clientFb calls).retrieved.flatten := hinputs
      _ = stream (encode clientFb) sent := calls_retrieved hall
      _ = stream ClientMessage.bytes messages := by rw [← stream_map hbytes, hsent]
  have hrun := run_whole_messages getpeername hclient₀ hfirst hwould hroom hstream hpending
  constructor
  · intro pre post hsplit
    obtain ⟨⟨handled, client⟩, hok, hhandled, hbuffer, -⟩ := hrun pre post hsplit
    refine ⟨client, ?_, hbuffer⟩
    rw [hok, ← hsent, completed_map hbytes, ← hhandled]
  · obtain ⟨⟨handled, client⟩, hok, hhandled, -, hsettings⟩ :=
      hrun inputs [] (List.append_nil inputs).symm
    have hend : arrived Receive.bytes inputs = (stream ClientMessage.bytes messages).length := by
      rw [arrived, hstream]
    rw [hend, completed_length, hsent] at hhandled hsettings
    exact ⟨client, by rw [hok, ← hhandled], hsettings⟩

def sampleBuilder : Client.Flatbuffers Unit :=
  .ofTables () [] [(⟨.handshake, .handshake handshakeTable⟩, handshakePacket),
    (⟨.config, .config configTable⟩, configPacket)]

theorem handles_sent_messages_in_two_events :
    ∃ client, StepRun.run (receive samplePackets Socket.peer) ([], sampleClient)
        [.wouldBlock (handshakePacket ++ configPacket), .wouldBlock heartbeatMagic] =
        .ok ([.handshake handshakeTable, .config configTable, .heartbeat], client) ∧
      client.settings = ([.handshake handshakeTable, .config configTable, .heartbeat].foldl
        (Client.handle Socket.peer 0) sampleClient).settings := by
  refine (handles_sent_messages sampleBuilder samplePackets Socket.peer
    [.sendHandshake handshakeTable, .sendConfig configTable, .sendHeartbeat, .retrieveOutData]
    (by decide) ?_ sampleClient rfl _ (.inr (by decide)) (by decide) (by decide) (by decide)
    ?_).2
  · intro m hm
    have hcases : m = .handshake handshakeTable ∨ m = .config configTable ∨ m = .heartbeat := by
      simpa [ConnectionCall.message] using hm
    rcases hcases with rfl | rfl | rfl
    · exact Or.inr decodes_handshakePacket
    · exact Or.inr decodes_configPacket
    · exact Or.inl rfl
  · intro pre post hsplit
    rcases pre with _ | ⟨a, _ | ⟨b, _ | ⟨c, pre⟩⟩⟩
    · decide +kernel
    · cases hsplit
      decide +kernel
    · cases hsplit
      decide +kernel
    · simp at hsplit

end VitaOxiPad.Server
