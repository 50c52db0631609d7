import VitaOxiPad.Lib.Framing
import VitaOxiPad.Server.IngoingData
/-!
# Segmentation of the server's incoming stream

A client's stream is a list of messages.  The dispatcher asks for the content
type before it asks whether the packet is whole, and clears the buffer when the
verifier says no.  So the bytes of an unfinished message survive a readable
event only if the content type read over them has no handler.
-/

namespace VitaOxiPad.Server

open ByteOrder NetProtocol Framing

variable {fb : Flatbuffers} {getpeername : Socket → SockaddrIn}

/-- A finished packet and what the generated code makes of it at the front of a
buffer, whatever follows. -/
structure Decodes (fb : Flatbuffers) (bytes : List UInt8) (message : Message) : Prop where
  size_prefixed : bytes.length = ofLe (bytes.take 4) + 4
  short : bytes.length < 2 ^ 31
  content : ∀ rest outside, ∃ handler,
    handlers fb (fb.contentType (memory (bytes ++ rest) outside)).tag = some handler ∧
      handler (bytes ++ rest) = some message
  accepted : ∀ rest, fb.verify (bytes ++ rest) = some bytes.length

structure ClientMessage (fb : Flatbuffers) where
  bytes : List UInt8
  message : Message
  sound : message = .heartbeat ∧ bytes = heartbeatMagic ∨ Decodes fb bytes message

def ClientMessage.heartbeat : ClientMessage fb where
  bytes := heartbeatMagic
  message := .heartbeat
  sound := Or.inl ⟨rfl, rfl⟩

theorem Decodes.not_heartbeat {bytes : List UInt8} {message : Message}
    (h : Decodes fb bytes message) (rest : List UInt8) :
    ¬ heartbeatMagic <+: bytes ++ rest := by
  intro hmagic
  have hlen := h.size_prefixed
  have hshort := h.short
  obtain ⟨tail, htail⟩ := hmagic
  have hfour : (bytes ++ rest).take 4 = bytes.take 4 :=
    List.take_append_of_le_length (by omega)
  have htake : bytes.take 4 = heartbeatMagic.take 4 := by
    rw [← hfour, ← htail]
    exact List.take_append_of_le_length (by simp)
  have hbig : ofLe (heartbeatMagic.take 4) = 4294967295 := by decide
  rw [htake, hbig] at hlen
  omega

theorem ClientMessage.bytes_ne_nil (m : ClientMessage fb) : m.bytes ≠ [] := by
  intro hnil
  rcases m.sound with ⟨-, hbytes⟩ | hdecodes
  · rw [hnil] at hbytes
    cases hbytes
  · have hlen := hdecodes.size_prefixed
    rw [hnil] at hlen
    simp at hlen

/-! ## One readable event -/

theorem dispatchStep_message (getpeername : Socket → SockaddrIn) (input : Receive)
    {client : Client} (handled : List Message) (m : ClientMessage fb) {rest : List UInt8}
    (hbuffer : client.buffer = m.bytes ++ rest) :
    ∃ client', dispatchStep fb getpeername input ⟨client, handled⟩ =
        .ok (.inl ⟨client', handled ++ [m.message]⟩) ∧
      client'.buffer = rest ∧ client'.storage ≠ none ∧
      client'.settings = (client.handle getpeername 0 m.message).settings := by
  have hstorage : client.storage ≠ none := by
    apply Client.storage_of_buffer
    rw [hbuffer]
    exact List.append_ne_nil_of_left_ne_nil m.bytes_ne_nil rest
  rcases m.sound with ⟨hmessage, hbytes⟩ | hdecodes
  · rw [hbytes] at hbuffer
    rw [hmessage]
    let beaten := client.updateHeartbeatTime (input.clock client.buffer.length)
    refine ⟨beaten.setBuffer rest, ?_, Client.buffer_setBuffer _ _,
      Client.storage_setBuffer hstorage rest, rfl⟩
    simp only [dispatchStep, handleHeartbeat_append _ hbuffer, beaten]
  · have hmagic : ¬ heartbeatMagic <+: client.buffer := by
      rw [hbuffer]
      exact hdecodes.not_heartbeat rest
    obtain ⟨handler, hhandler, hcontent⟩ :=
      hdecodes.content rest (input.outside client.buffer.length)
    rw [← hbuffer] at hhandler hcontent
    have hverify := hdecodes.accepted rest
    rw [← hbuffer] at hverify
    have hdata := handleData_accepted getpeername hhandler hverify hcontent
    rw [hbuffer, List.drop_left] at hdata
    refine ⟨(client.handle getpeername 0 m.message).setBuffer rest, ?_,
      Client.buffer_setBuffer _ _, Client.storage_setBuffer ?_ rest, rfl⟩
    rotate_left
    · rwa [Client.handle_storage]
    simp only [dispatchStep, handleHeartbeat_none _ hmagic, hbuffer, hdata]

theorem dispatch_stream (getpeername : Socket → SockaddrIn) (input : Receive)
    {client : Client} (handled : List Message) (messages : List (ClientMessage fb))
    {tail : List UInt8}
    (hbuffer : client.buffer = stream ClientMessage.bytes messages ++ tail) :
    ∃ client', dispatch fb getpeername input ⟨client, handled⟩ =
        dispatch fb getpeername input
          ⟨client', handled ++ messages.map ClientMessage.message⟩ ∧
      client'.buffer = tail ∧ (client.storage ≠ none → client'.storage ≠ none) ∧
      client'.settings = ((messages.map ClientMessage.message).foldl
        (Client.handle getpeername 0) client).settings := by
  induction messages generalizing client handled with
  | nil => exact ⟨client, by simp, by simpa using hbuffer, id, rfl⟩
  | cons m messages ih =>
      rw [stream_cons, List.append_assoc] at hbuffer
      obtain ⟨client₁, hstep, hbuffer₁, hstorage₁, hsettings₁⟩ :=
        dispatchStep_message getpeername input handled m hbuffer
      obtain ⟨client', hrun, hbuffer', hstorage', hsettings'⟩ :=
        ih (handled ++ [m.message]) hbuffer₁
      refine ⟨client', ?_, hbuffer', fun _ => hstorage' hstorage₁, ?_⟩
      · rw [dispatch, FuelLoop.run_of_next (dispatchStep_decreases fb getpeername input) hstep]
        rw [dispatch] at hrun
        rw [hrun]
        simp only [dispatch, List.map_cons, List.append_assoc, List.singleton_append]
      · rw [hsettings', List.map_cons, List.foldl_cons]
        exact Client.foldl_handle_settings getpeername _ hsettings₁

/-- Where the verifier accepts nothing the dispatcher stops: with the buffer as
it is if the content type has no handler, else with the buffer cleared. -/
theorem dispatch_unverified {input : Receive} {client : Client} (handled : List Message)
    (hmagic : ¬ heartbeatMagic <+: client.buffer) (hstorage : client.storage ≠ none)
    (hverify : fb.verify client.buffer = none) :
    dispatch fb getpeername input ⟨client, handled⟩ = .ok ⟨client.setBuffer
      (if Supported fb client.buffer (input.outside client.buffer.length) then []
        else client.buffer), handled⟩ := by
  apply FuelLoop.run_of_done
  by_cases hsupported : Supported fb client.buffer (input.outside client.buffer.length)
  · simp only [dispatchStep, handleHeartbeat_none _ hmagic,
      handleData_rejected getpeername hstorage hsupported hverify, if_pos hsupported]
  · simp only [dispatchStep, handleHeartbeat_none _ hmagic,
      handleData_unsupported getpeername hstorage hsupported, if_neg hsupported,
      Client.setBuffer_buffer]

/-- The messages have been handled in order, and the rest is in the buffer. -/
def Handled (getpeername : Socket → SockaddrIn) (client₀ : Client)
    (done : List (ClientMessage fb)) (rest : List UInt8) (s : List Message × Client) : Prop :=
  s.1 = done.map ClientMessage.message ∧ s.2.buffer = rest ∧
    s.2.settings = ((done.map ClientMessage.message).foldl
      (Client.handle getpeername 0) client₀).settings

/-- The same, and `buffer_` has storage as soon as a byte has come. -/
structure Tracked (getpeername : Socket → SockaddrIn) (client₀ : Client)
    (done : List (ClientMessage fb)) (rest : List UInt8) (s : List Message × Client) : Prop where
  handled : Handled getpeername client₀ done rest s
  storage : s.2.storage = none ↔ client₀.storage = none ∧ done = [] ∧ rest = []

theorem tracked_nothing (getpeername : Socket → SockaddrIn) (messages : List (ClientMessage fb))
    {client₀ : Client} (hclient₀ : client₀.buffer = []) :
    Tracked getpeername client₀ (completed ClientMessage.bytes messages 0)
      (pending ClientMessage.bytes messages 0) ([], client₀) := by
  rw [completed_zero _ ClientMessage.bytes_ne_nil, pending_zero _ ClientMessage.bytes_ne_nil]
  exact ⟨⟨rfl, hclient₀, rfl⟩, by simp⟩

/-- A readable event that brings some messages to their end, and a tail that the
verifier does not accept. -/
theorem receive_stream {input : Receive} {client₀ : Client} {s : List Message × Client}
    {done more : List (ClientMessage fb)} {rest tail : List UInt8}
    (hs : Handled getpeername client₀ done rest s)
    (hstorage : s.2.storage ≠ none ∨ input.bytes ≠ [])
    (hwould : input.received.toUInt32 = sceNetErrorEwouldblock)
    (hroom : rest.length + input.bytes.length ≤ Client.maxBufferAcceptableSize)
    (hbrings : rest ++ input.bytes = stream ClientMessage.bytes more ++ tail)
    (hmagic : ¬ heartbeatMagic <+: tail) (hverify : fb.verify tail = none) :
    ∃ s', receive fb getpeername s input = .ok s' ∧
      Handled getpeername client₀ (done ++ more)
        (if Supported fb tail (input.outside tail.length) then [] else tail) s' ∧
      s'.2.storage ≠ none := by
  obtain ⟨handled, client⟩ := s
  obtain ⟨rfl, hrest, hsettings⟩ := hs
  dsimp only at hrest hsettings hstorage
  have hbuffer : (client.setBuffer (client.buffer ++ input.bytes)).buffer =
      stream ClientMessage.bytes more ++ tail := by
    rw [Client.buffer_setBuffer, ← hbrings, hrest]
  obtain ⟨client', hrun, rfl, hkept, hsettings'⟩ :=
    dispatch_stream getpeername input [] more hbuffer
  have hstorage' := hkept (Client.storage_setBuffer_append hstorage)
  rw [dispatch_unverified _ hmagic hstorage' hverify] at hrun
  have hthrown : thrownFor input.received = none := if_neg (fun h => h.2 hwould)
  have hreceive : receive fb getpeername (done.map ClientMessage.message, client) input =
      .ok (done.map ClientMessage.message ++ more.map ClientMessage.message, client'.setBuffer
        (if Supported fb client'.buffer (input.outside client'.buffer.length) then []
          else client'.buffer)) := by
    rw [receive, handleIngoingData_of_room _ _ _ (by rw [hrest]; exact hroom), hrun]
    simp only [Except.map, hthrown, Option.any_none, Bool.false_eq_true, if_false,
      List.nil_append]
  refine ⟨_, hreceive, ⟨(List.map_append).symm, Client.buffer_setBuffer _ _, ?_⟩,
    Client.storage_setBuffer hstorage' _⟩
  rw [List.map_append, List.foldl_append]
  calc client'.settings
      = ((more.map ClientMessage.message).foldl (Client.handle getpeername 0)
          (client.setBuffer (client.buffer ++ input.bytes))).settings := hsettings'
    _ = _ := Client.foldl_handle_settings getpeername _ hsettings

/-! ## Any cutting of the stream -/

theorem not_heartbeat_of_part {m : ClientMessage fb} {part : List UInt8}
    (hpart : part <+: m.bytes) (hlen : part.length < m.bytes.length) :
    ¬ heartbeatMagic <+: part := by
  intro hmagic
  rcases m.sound with ⟨-, hbytes⟩ | hdecodes
  · have hle := hmagic.length_le
    rw [hbytes] at hlen
    omega
  · have hnot := hdecodes.not_heartbeat []
    rw [List.append_nil] at hnot
    exact hnot (hmagic.trans hpart)

/-- The verifier accepts no proper part of a packet in the stream. -/
def RejectsParts (messages : List (ClientMessage fb)) : Prop :=
  ∀ m ∈ messages, m.message ≠ .heartbeat → ∀ part, part <+: m.bytes →
    part.length < m.bytes.length → fb.verify part = none

theorem pending_unverified {messages : List (ClientMessage fb)}
    (hparts : RejectsParts messages) (n : Nat) :
    ¬ heartbeatMagic <+: pending ClientMessage.bytes messages n ∧
      fb.verify (pending ClientMessage.bytes messages n) = none := by
  rcases pending_spec ClientMessage.bytes messages n with hnil | ⟨m, later, hms, hpre, hlt, -⟩
  · rw [hnil]
    exact ⟨by decide, fb.verify_short (by decide)⟩
  · refine ⟨not_heartbeat_of_part hpre hlt, ?_⟩
    by_cases hmessage : m.message = .heartbeat
    · -- a part of a heartbeat is too short for a root offset
      apply fb.verify_short
      rcases m.sound with ⟨-, hbytes⟩ | hdecodes
      · rw [hbytes, length_heartbeatMagic] at hlt
        omega
      · obtain ⟨handler, hhandler, hcontent⟩ := hdecodes.content [] fun _ => 0
        exact absurd hmessage (message_ne_heartbeat hhandler hcontent)
    · apply hparts m _ hmessage _ hpre hlt
      rw [hms]
      simp

/-- A readable event that ends after the first `n` bytes of the stream does no harm:
`buffer_` has held a byte by then, and the bytes over which the dispatcher stops stay
in it, since there are none or the content type read over them has no handler. -/
def Survives (client₀ : Client) (messages : List (ClientMessage fb)) (n : Nat)
    (input : Receive) : Prop :=
  let rest := pending ClientMessage.bytes messages n
  (client₀.storage ≠ none ∨ 0 < n) ∧ (rest = [] ∨ ¬ Supported fb rest (input.outside rest.length))

/-- Nothing is completed or pending before the first byte, and only then. -/
theorem nothing_iff {messages : List (ClientMessage fb)} {n : Nat}
    (hn : n ≤ (stream ClientMessage.bytes messages).length) :
    completed ClientMessage.bytes messages n = [] ∧
      pending ClientMessage.bytes messages n = [] ↔ n = 0 := by
  constructor
  · rintro ⟨hdone, hrest⟩
    have htake := take_stream ClientMessage.bytes messages n hn
    rw [hdone, hrest, stream_nil, List.append_nil] at htake
    have hlen := congrArg List.length htake
    rw [List.length_take, List.length_nil] at hlen
    omega
  · rintro rfl
    exact ⟨completed_zero _ ClientMessage.bytes_ne_nil _,
      pending_zero _ ClientMessage.bytes_ne_nil _⟩

section

variable {messages : List (ClientMessage fb)} {client₀ : Client} {n : Nat}
  {s : List Message × Client}

theorem Tracked.has_storage {input : Receive}
    (hs : Tracked getpeername client₀ (completed ClientMessage.bytes messages n)
      (pending ClientMessage.bytes messages n) s)
    (hn : n ≤ (stream ClientMessage.bytes messages).length)
    (hcome : client₀.storage ≠ none ∨ 0 < n + input.bytes.length) :
    s.2.storage ≠ none ∨ input.bytes ≠ [] := by
  by_contra hnull
  rw [not_or, not_not, not_not, hs.storage, nothing_iff hn] at hnull
  obtain ⟨⟨hnone, hzero⟩, hbytes⟩ := hnull
  rcases hcome with hcome | hcome
  · exact hcome hnone
  · rw [hzero, hbytes] at hcome
    exact absurd hcome (by simp)

theorem Handled.tracked
    (hs : Handled getpeername client₀ (completed ClientMessage.bytes messages n)
      (pending ClientMessage.bytes messages n) s)
    (hn : n ≤ (stream ClientMessage.bytes messages).length)
    (hcome : client₀.storage ≠ none ∨ 0 < n) (hstorage : s.2.storage ≠ none) :
    Tracked getpeername client₀ (completed ClientMessage.bytes messages n)
      (pending ClientMessage.bytes messages n) s := by
  refine ⟨hs, iff_of_false hstorage ?_⟩
  rw [nothing_iff hn]
  rintro ⟨hnone, hzero⟩
  rcases hcome with hcome | hcome
  · exact hcome hnone
  · omega

end

theorem receive_pending {messages : List (ClientMessage fb)} {client₀ : Client}
    (hparts : RejectsParts messages)
    (hsize : (stream ClientMessage.bytes messages).length ≤ Client.maxBufferAcceptableSize)
    {n : Nat} {input : Receive} {s : List Message × Client} {more : List (ClientMessage fb)}
    (hwould : input.received.toUInt32 = sceNetErrorEwouldblock)
    (hs : Tracked getpeername client₀ (completed ClientMessage.bytes messages n)
      (pending ClientMessage.bytes messages n) s)
    (hwithin : n + input.bytes.length ≤ (stream ClientMessage.bytes messages).length)
    (hcompletes : completed ClientMessage.bytes messages (n + input.bytes.length) =
      completed ClientMessage.bytes messages n ++ more)
    (hbrings : pending ClientMessage.bytes messages n ++ input.bytes =
      stream ClientMessage.bytes more ++
        pending ClientMessage.bytes messages (n + input.bytes.length))
    (hcome : client₀.storage ≠ none ∨ 0 < n + input.bytes.length) :
    let rest := pending ClientMessage.bytes messages (n + input.bytes.length)
    ∃ s', receive fb getpeername s input = .ok s' ∧
      Handled getpeername client₀
        (completed ClientMessage.bytes messages (n + input.bytes.length))
        (if Supported fb rest (input.outside rest.length) then [] else rest) s' ∧
      s'.2.storage ≠ none := by
  have hunverified := pending_unverified hparts (n + input.bytes.length)
  have hfits := completed_pending_length_le ClientMessage.bytes messages
    (n + input.bytes.length)
  have hlen := congrArg List.length hbrings
  rw [hcompletes, stream_append] at hfits
  simp only [List.length_append] at hfits hlen
  have hroom : (pending ClientMessage.bytes messages n).length + input.bytes.length ≤
      Client.maxBufferAcceptableSize := by
    omega
  rw [hcompletes]
  exact receive_stream hs.handled (hs.has_storage (by omega) hcome) hwould hroom hbrings
    hunverified.1 hunverified.2

theorem receive_advances (getpeername : Socket → SockaddrIn) {messages : List (ClientMessage fb)}
    (hparts : RejectsParts messages)
    (hsize : (stream ClientMessage.bytes messages).length ≤ Client.maxBufferAcceptableSize)
    (client₀ : Client) {inputs : List Receive}
    (hwould : ∀ input ∈ inputs, input.received.toUInt32 = sceNetErrorEwouldblock) :
    Advances ClientMessage.bytes Receive.bytes (receive fb getpeername)
      (Tracked getpeername client₀) (Survives client₀) messages inputs := by
  intro n input hmem s more hs hwithin hcompletes hbrings ⟨hcome, hsurvives⟩
  obtain ⟨s', hreceive, hs', hstorage⟩ :=
    receive_pending hparts hsize (hwould input hmem) hs hwithin hcompletes hbrings hcome
  refine ⟨s', hreceive, Handled.tracked ?_ hwithin hcome hstorage⟩
  rcases hsurvives with hnil | hunsupported
  · rw [hnil] at hs' ⊢
    rwa [ite_self] at hs'
  · rwa [if_neg hunsupported] at hs'

/-- An event without a byte before it stops the server.  The pending bytes that do not
survive another are missing from the buffer from then on. -/
theorem receive_badPiece {messages : List (ClientMessage fb)} (hparts : RejectsParts messages)
    (hsize : (stream ClientMessage.bytes messages).length ≤ Client.maxBufferAcceptableSize)
    {client₀ : Client} {n : Nat} {input : Receive} {s s' : List Message × Client}
    {more : List (ClientMessage fb)}
    (hwould : input.received.toUInt32 = sceNetErrorEwouldblock)
    (hbad : BadPiece ClientMessage.bytes Receive.bytes (Tracked getpeername client₀)
      (Survives client₀) messages n input s more)
    (hreceive : receive fb getpeername s input = .ok s') :
    ¬ Handled getpeername client₀
      (completed ClientMessage.bytes messages (n + input.bytes.length))
      (pending ClientMessage.bytes messages (n + input.bytes.length)) s' := by
  intro hholds
  by_cases hcome : client₀.storage ≠ none ∨ 0 < n + input.bytes.length
  · obtain ⟨t, ht, hcleared, -⟩ := receive_pending hparts hsize hwould hbad.holds hbad.within
      hbad.completes hbad.brings hcome
    rw [hreceive] at ht
    cases ht
    have hlost := not_or.mp (fun hsurvives => hbad.bad ⟨hcome, hsurvives⟩)
    have hbuffer := hcleared.2.1
    rw [if_pos (not_not.mp hlost.2)] at hbuffer
    exact hlost.1 (hholds.2.1.symm.trans hbuffer)
  · rw [not_or, not_not, Nat.not_lt, Nat.le_zero] at hcome
    obtain ⟨hnone, hzero⟩ := hcome
    have hwithin := hbad.within
    have hstorage : s.2.storage = none :=
      hbad.holds.storage.mpr ⟨hnone, (nothing_iff (by omega)).mpr (by omega)⟩
    have hbytes : input.bytes = [] := List.eq_nil_of_length_eq_zero (by omega)
    rw [receive, handleIngoingData_of_nullData getpeername hstorage hbytes] at hreceive
    cases hreceive

/-- However the bytes of whole messages are cut into readable events, the client
is always where those bytes put it (every message that is complete has been
handled, once and in order, and the rest is in the buffer) exactly when no event
ends inside a message at a point where its bytes do not survive, or before any byte
has come.  In particular every message is then handled in the end. -/
theorem handles_messages_iff (getpeername : Socket → SockaddrIn)
    (messages : List (ClientMessage fb)) (hparts : RejectsParts messages)
    (hsize : (stream ClientMessage.bytes messages).length ≤ Client.maxBufferAcceptableSize)
    (client₀ : Client) (hclient₀ : client₀.buffer = []) (inputs : List Receive)
    (hwould : ∀ input ∈ inputs, input.received.toUInt32 = sceNetErrorEwouldblock)
    (hinputs : inputs.flatMap Receive.bytes = stream ClientMessage.bytes messages) :
    ((∀ pre post, inputs = pre ++ post →
        ∃ s, StepRun.run (receive fb getpeername) ([], client₀) pre = .ok s ∧
          Handled getpeername client₀
            (completed ClientMessage.bytes messages (arrived Receive.bytes pre))
            (pending ClientMessage.bytes messages (arrived Receive.bytes pre)) s) ↔
      ∀ pre input post, inputs = pre ++ input :: post →
        Survives client₀ messages (arrived Receive.bytes (pre ++ [input])) input) ∧
    ((∀ pre input post, inputs = pre ++ input :: post →
        Survives client₀ messages (arrived Receive.bytes (pre ++ [input])) input) →
      ∃ client, StepRun.run (receive fb getpeername) ([], client₀) inputs =
        .ok (messages.map ClientMessage.message, client) ∧ client.buffer = []) := by
  have hiff := onTrack_iff_allGood (fun done rest s hs => Tracked.handled hs)
    (receive_advances getpeername hparts hsize client₀ hwould)
    (fun n input hmem s s' more hbad => receive_badPiece hparts hsize (hwould input hmem) hbad)
    (tracked_nothing getpeername messages hclient₀) hinputs
  refine ⟨hiff, fun hgood => ?_⟩
  obtain ⟨⟨handled, client⟩, hrun, hhandled, hbuffer, -⟩ :=
    hiff.mpr hgood inputs [] (List.append_nil inputs).symm
  have hall : arrived Receive.bytes inputs = (stream ClientMessage.bytes messages).length := by
    rw [arrived, hinputs]
  rw [hall, completed_length] at hhandled
  rw [hall, pending_length] at hbuffer
  exact ⟨client, by rw [hrun, ← hhandled], hbuffer⟩

/-! ## The sample packets -/

def Message.contentType : Message → PacketContent
  | .handshake _ => .handshake
  | .config _ => .config
  | .heartbeat => .none

theorem decodes_ofPackets {packets : List (List UInt8 × Message)} {bytes : List UInt8}
    {message : Message} (hmessage : message ≠ .heartbeat)
    (hknown : ∀ rest, knownPacket packets (bytes ++ rest) = some (bytes, message))
    (hsize : bytes.length = ofLe (bytes.take 4) + 4) (hshort : bytes.length < 2 ^ 31)
    (hinside : (layoutContentType (memory bytes fun _ => 0)).Inside bytes.length)
    (htag : (layoutContentType (memory bytes fun _ => 0)).tag = message.contentType) :
    Decodes (.ofPackets packets) bytes message where
  size_prefixed := hsize
  short := hshort
  content := by
    intro rest outside
    have htype : ((Flatbuffers.ofPackets packets).contentType
        (memory (bytes ++ rest) outside)).tag = message.contentType := by
      rw [← htag, ← layoutContentType_append hinside rest outside]
      rfl
    rw [htype]
    cases message with
    | handshake handshake =>
        refine ⟨_, rfl, ?_⟩
        simp only [Flatbuffers.ofPackets, hknown, Option.map_some]
    | config config =>
        refine ⟨_, rfl, ?_⟩
        simp only [Flatbuffers.ofPackets, hknown, Option.map_some]
    | heartbeat => exact absurd rfl hmessage
  accepted := by
    intro rest
    simp only [Flatbuffers.ofPackets, hknown, Option.map_some]

theorem decodes_handshakePacket :
    Decodes samplePackets handshakePacket (.handshake handshakeTable) := by
  apply decodes_ofPackets
  · decide
  · intro rest
    rfl
  · decide
  · decide
  · decide
  · decide +kernel

theorem decodes_configPacket :
    Decodes samplePackets configPacket (.config configTable) := by
  apply decodes_ofPackets
  · decide
  · intro rest
    rfl
  · decide
  · decide
  · decide
  · decide +kernel

def sampleHandshake : ClientMessage samplePackets where
  bytes := handshakePacket
  message := .handshake handshakeTable
  sound := Or.inr decodes_handshakePacket

def sampleClient : Client := .new Socket.peer ⟨0, 3, ⟨0x0201a8c0, 0x5000⟩⟩ 0 0

theorem rejectsParts_sampleHandshake : RejectsParts [sampleHandshake] := by
  intro m hm _ part hpre hlt
  cases List.mem_singleton.mp hm
  have hnot : ∀ p ∈ [(handshakePacket, Message.handshake handshakeTable),
      (configPacket, .config configTable)], ¬ p.1 <+: part := by
    intro p hp hprefix
    have hle := hprefix.length_le
    have hwhole := hprefix.trans hpre
    simp only [List.mem_cons, List.not_mem_nil, or_false] at hp
    rcases hp with rfl | rfl
    · exact absurd hlt (Nat.not_lt.mpr hle)
    · exact absurd hwhole (by decide)
  have hknown : knownPacket [(handshakePacket, Message.handshake handshakeTable),
      (configPacket, .config configTable)] part = none := by
    apply List.find?_eq_none.mpr
    intro p hp h
    simp only [Bool.and_eq_true, List.isPrefixOf_iff_prefix] at h
    exact hnot p hp h.2
  simp only [samplePackets, Flatbuffers.ofPackets, hknown, Option.map_none]

/-- A handshake cut inside its size prefix: three bytes and the rest. -/
theorem handles_messages_cut_in_prefix :
    ∃ client, StepRun.run (receive samplePackets Socket.peer) ([], sampleClient)
        [.wouldBlock (handshakePacket.take 3), .wouldBlock (handshakePacket.drop 3)] =
      .ok ([.handshake handshakeTable], client) ∧ client.buffer = [] := by
  apply (handles_messages_iff Socket.peer [sampleHandshake] rejectsParts_sampleHandshake
    (by decide) sampleClient rfl _ (by decide) (by decide)).2
  intro pre input post hinputs
  rcases pre with _ | ⟨a, _ | ⟨b, pre⟩⟩
  · cases hinputs
    exact ⟨.inr (by decide), .inr (by decide +kernel)⟩
  · cases hinputs
    exact ⟨.inr (by decide), .inl (by decide +kernel)⟩
  · simp at hinputs

/-- The same handshake cut after its header: the verifier rejects the first forty
bytes, and the handshake is lost with them. -/
theorem handles_messages_cut_after_header :
    [handshakePacket.take 40, handshakePacket.drop 40].flatten =
        stream ClientMessage.bytes [sampleHandshake] ∧
      (StepRun.run (receive samplePackets Socket.peer) ([], sampleClient)
        [.wouldBlock (handshakePacket.take 40), .wouldBlock (handshakePacket.drop 40)]).map
          Prod.fst = .ok [] := by
  constructor
  · decide
  · decide +kernel

end VitaOxiPad.Server
