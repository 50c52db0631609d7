import VitaOxiPad.Client.HeartbeatSchedule
/-!
# The connection phase

What `main` in `cli/src/main.rs` does between connecting to the Vita and its main
loop.  It takes the handshake response from one read of the control socket.  The
calls that do not matter here (writing, creating the device) succeed.
-/

namespace VitaOxiPad.Client

open NetProtocol

variable {ε : Type}

/-- `MIN_POLLING_RATE`: the division is an integer one. -/
def minPollingRate : UInt64 := 1 * 1000 / 250 * 1000

inductive ConnectStop (ε : Type) where
  | panic (p : Panic)
  | noHandshakeResponse
  | unexpectedEvent
  | invalidResponse (e : ConnectionEventsError ε)
  deriving DecidableEq, Repr

structure ConnectInput where
  boundPort : UInt16
  /-- `args.polling_interval`. -/
  pollingInterval : Option UInt64
  /-- What successive reads of the control socket return. -/
  reads : List (List UInt8)
  clock : Nat
  deriving DecidableEq, Repr

inductive ConnectIo where
  | ctrlWrite (bytes : List UInt8)
  | padSend (bytes : List UInt8)
  deriving DecidableEq, Repr

structure Connected where
  io : List ConnectIo
  heartbeatFreq : UInt32
  state : LoopState
  deriving DecidableEq, Repr

/-- One read, and the first of the events it brings. -/
def handshakeResponse (fb : Flatbuffers ε) (conn : Connection) (reads : List (List UInt8)) :
    Except (ConnectStop ε) (Handshake × Connection) :=
  let conn := conn.receiveData (reads.headD [])
  match next fb conn.incomingBuffer with
  | .error p => .error (.panic p)
  | .ok (none, _) => .error .noHandshakeResponse
  | .ok (some event, rest) =>
      match event with
      | .ok (.handshakeResponseReceived handshake) =>
          .ok (handshake, { conn with incomingBuffer := rest })
      | .error e => .error (.invalidResponse e)
      | _ => .error .unexpectedEvent

def connect (fb : Flatbuffers ε) (input : ConnectInput) :
    Except (ConnectStop ε) Connected := do
  let pollingInterval :=
    (input.pollingInterval.map fun v => max v minPollingRate).getD minPollingRate
  let (handshake, conn) :=
    (Connection.new.sendHandshake fb ⟨.client, input.boundPort, 0⟩).retrieveOutData
  let (response, conn) ← handshakeResponse fb conn input.reads
  -- the pads come from the port that this opens in a firewall
  let (heartbeat, conn) := conn.sendHeartbeat.retrieveOutData
  let io := [.ctrlWrite handshake, .padSend heartbeat]
  if pollingInterval ≠ minPollingRate then
    let (config, conn) := (conn.sendConfig fb ⟨pollingInterval⟩).retrieveOutData
    return ⟨io ++ [.ctrlWrite config], response.heartbeatFreq, ⟨conn, input.clock, 0, [], []⟩⟩
  else return ⟨io, response.heartbeatFreq, ⟨conn, input.clock, 0, [], []⟩⟩

/-! ## What the phase makes of the first read -/

section

variable {fb : Flatbuffers ε} {input : ConnectInput}

theorem connect_of_error {e : ConnectStop ε}
    (h : handshakeResponse fb Connection.new input.reads = .error e) :
    connect fb input = .error e := by
  have hsent : (Connection.new.sendHandshake fb ⟨.client, input.boundPort, 0⟩).retrieveOutData.2 =
      Connection.new := rfl
  simp only [connect, hsent, h, bind, Except.bind]

/-- The main loop begins with nothing left to send. -/
theorem connect_of_response {handshake : Handshake} {rest : List UInt8}
    (h : handshakeResponse fb Connection.new input.reads = .ok (handshake, ⟨rest, []⟩)) :
    ∃ r, connect fb input = .ok r ∧ r.heartbeatFreq = handshake.heartbeatFreq ∧
      r.state = .start rest input.clock := by
  have hsent : (Connection.new.sendHandshake fb ⟨.client, input.boundPort, 0⟩).retrieveOutData.2 =
      Connection.new := rfl
  simp only [connect, hsent, h, bind, Except.bind, pure, Except.pure]
  split_ifs
  · exact ⟨_, rfl, rfl, rfl⟩
  · exact ⟨_, rfl, rfl, rfl⟩

theorem handshakeResponse_whole {p : SentPacket fb} {handshake : Handshake}
    (hevent : p.event = .handshakeResponseReceived handshake) (more : List (List UInt8)) :
    handshakeResponse fb Connection.new (p.bytes :: more) = .ok (handshake, ⟨[], []⟩) := by
  have hnext := (Frame.wholeFrame (.packet p)).next []
  rw [List.append_nil, Frame.event, hevent] at hnext
  have hread : (Connection.new.receiveData ((p.bytes :: more).headD [])).incomingBuffer =
      (Frame.packet p).bytes := rfl
  unfold handshakeResponse
  dsimp only
  rw [hread, hnext]
  rfl

/-- A packet that is not all there has no event yet, or makes `next` panic. -/
theorem next_part {p : SentPacket fb} {part : List UInt8} (hpart : part <+: p.bytes)
    (hlt : part.length < p.bytes.length) :
    next fb part = .ok (none, part) ∨ next fb part = .error .drainRange := by
  have hsize := p.size_prefixed
  rcases front_cases part with hb | hw | hs | hp
  · exact absurd (hb.trans hpart) p.not_heartbeat
  · exact .inl (next_waiting fb hw)
  · exact .inr (next_oneByteShort fb hs)
  · obtain ⟨-, hpos, hlen⟩ := hp
    obtain ⟨tail, htail⟩ := hpart
    have hdeclared := declaredSize_append (by omega : 4 ≤ part.length) tail
    rw [htail] at hdeclared
    omega

theorem handshakeResponse_part {p : SentPacket fb} {part : List UInt8}
    (hpart : part <+: p.bytes) (hlt : part.length < p.bytes.length)
    (more : List (List UInt8)) :
    handshakeResponse fb Connection.new (part :: more) = .error .noHandshakeResponse ∨
      handshakeResponse fb Connection.new (part :: more) = .error (.panic .drainRange) := by
  have hread : (Connection.new.receiveData ((part :: more).headD [])).incomingBuffer = part := rfl
  unfold handshakeResponse
  dsimp only
  rw [hread]
  rcases next_part hpart hlt with hnext | hnext
  · rw [hnext]
    exact .inl rfl
  · rw [hnext]
    exact .inr rfl

end

/-- However the response is split, the phase ends with its heartbeat frequency exactly when
the first read returns all of it. -/
theorem connect_of_split_iff (fb : Flatbuffers ε) (p : SentPacket fb) (handshake : Handshake)
    (hevent : p.event = .handshakeResponseReceived handshake) (input : ConnectInput)
    (hchunks : ∀ chunk ∈ input.reads, chunk ≠ []) (hsplit : input.reads.flatten = p.bytes) :
    (∃ r, connect fb input = .ok r ∧ r.heartbeatFreq = handshake.heartbeatFreq) ↔
      input.reads = [p.bytes] := by
  constructor
  · rintro ⟨r, hok, -⟩
    cases hreads : input.reads with
    | nil =>
        rw [hreads] at hsplit
        exact absurd hsplit.symm (Frame.bytes_ne_nil (.packet p))
    | cons first more =>
        rw [hreads, List.flatten_cons] at hsplit
        cases more with
        | nil =>
            rw [List.flatten_nil, List.append_nil] at hsplit
            rw [hsplit]
        | cons second more =>
            have hsecond : second ≠ [] := hchunks second (by simp [hreads])
            have hlt : first.length < p.bytes.length := by
              have hpos := List.length_pos_iff.mpr hsecond
              rw [← hsplit, List.length_append, List.flatten_cons, List.length_append]
              omega
            have hpart : first <+: p.bytes := ⟨_, hsplit⟩
            have hstop : ∃ e, connect fb input = .error e := by
              rcases handshakeResponse_part hpart hlt (second :: more) with h | h
              · exact ⟨_, connect_of_error (hreads ▸ h)⟩
              · exact ⟨_, connect_of_error (hreads ▸ h)⟩
            obtain ⟨e, he⟩ := hstop
            rw [he] at hok
            cases hok
  · intro hreads
    have hresponse := handshakeResponse_whole hevent []
    rw [← hreads] at hresponse
    obtain ⟨r, hok, hfreq, -⟩ := connect_of_response hresponse
    exact ⟨r, hok, hfreq⟩

theorem connect_of_split_whole :
    ∃ r, connect handshakeOnly ⟨4321, none, [handshakePacket], 0⟩ = .ok r ∧
      r.heartbeatFreq = 1000 :=
  (connect_of_split_iff handshakeOnly sentHandshake (.from handshakeTable) rfl
    ⟨4321, none, [handshakePacket], 0⟩ (by decide) (by decide)).mpr rfl

theorem not_connect_of_split :
    [handshakePacket.take 4, handshakePacket.drop 4].flatten = handshakePacket ∧
      connect handshakeOnly ⟨4321, none, [handshakePacket.take 4, handshakePacket.drop 4], 0⟩ =
        .error .noHandshakeResponse ∧
      connect handshakeOnly ⟨4321, none, [handshakePacket.take 51, handshakePacket.drop 51], 0⟩ =
        .error (.panic .drainRange) := by
  refine ⟨by decide, by decide +kernel, by decide +kernel⟩

end VitaOxiPad.Client
