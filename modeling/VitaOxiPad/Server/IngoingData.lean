import VitaOxiPad.Lib.FuelLoop
import VitaOxiPad.Lib.StepRun
import VitaOxiPad.Server.Client
/-!
# One readable event

`handle_ingoing_data` in `server/src/net.cpp`: receive until the socket has
nothing more, then take messages off the buffer while there are any, and report
how receiving ended.
-/

namespace VitaOxiPad.Server

open NetProtocol

def sceNetErrorEwouldblock : UInt32 := 0x80410123

def sceNetEconnreset : Int32 := 54

/-- What the outside supplies: the pieces that `sceNetRecv` returns and its last
result, and for every turn of the dispatch loop the memory around the buffer and
the clock.  Turns are told apart by the buffer's length, which only falls. -/
structure Receive where
  pieces : List (List UInt8)
  received : Int32
  outside : Nat → Int → UInt8
  clock : Nat → UInt64

def Receive.bytes (input : Receive) : List UInt8 := input.pieces.flatten

/-- A readable event that brings the bytes and ends in would-block, with zeros
around the buffer. -/
def Receive.wouldBlock (bytes : List UInt8) : Receive where
  pieces := [bytes]
  received := -2143223517
  outside _ _ := 0
  clock _ := 0

inductive Thrown where
  | netException (errorCode : Int32)
  | clientException
  deriving DecidableEq, Repr

/-- Whether the `catch` clauses of `net_thread` disconnect the client. -/
def Thrown.disconnects : Thrown → Bool
  | netException errorCode => errorCode = sceNetEconnreset ∨ errorCode = 0
  | clientException => true

structure Dispatch where
  client : Client
  handled : List Message
  deriving DecidableEq, Repr

section

variable (fb : Flatbuffers) (getpeername : Socket → SockaddrIn)

/-- One turn of `while (client.handle_heartbeat() || client.handle_data())`. -/
def dispatchStep (input : Receive) (s : Dispatch) : Except Fault (Dispatch ⊕ Dispatch) :=
  match s.client.handleHeartbeat (input.clock s.client.buffer.length) with
  | some client => .ok (.inl ⟨client, s.handled ++ [.heartbeat]⟩)
  | none =>
      match s.client.handleData fb getpeername (input.outside s.client.buffer.length) with
      | .error e => .error e
      | .ok (some message, client) => .ok (.inl ⟨client, s.handled ++ [message]⟩)
      | .ok (none, client) => .ok (.inr ⟨client, s.handled⟩)

def dispatch (input : Receive) (s : Dispatch) : Except (FuelLoop.Halt Fault) Dispatch :=
  FuelLoop.run (dispatchStep fb getpeername input) (fun s => s.client.buffer.length) s

structure Ingoing where
  client : Client
  handled : List Message
  thrown : Option Thrown
  deriving DecidableEq, Repr

def thrownFor (received : Int32) : Option Thrown :=
  if received ≤ 0 ∧ received.toUInt32 ≠ sceNetErrorEwouldblock then
    some (.netException received)
  else none

def handleIngoingData (client : Client) (input : Receive) :
    Except (FuelLoop.Halt Fault) Ingoing :=
  match StepRun.run Client.addToBuffer client input.pieces with
  | .error client => .ok ⟨client, [], some .clientException⟩
  | .ok client => do
      let s ← dispatch fb getpeername input ⟨client, []⟩
      return ⟨s.client, s.handled, thrownFor input.received⟩

inductive Ended where
  | halt (h : FuelLoop.Halt Fault)
  | disconnected
  deriving DecidableEq, Repr

def receive (s : List Message × Client) (input : Receive) :
    Except Ended (List Message × Client) :=
  match handleIngoingData fb getpeername s.2 input with
  | .error h => .error (.halt h)
  | .ok r =>
      if r.thrown.any Thrown.disconnects then .error .disconnected
      else .ok (s.1 ++ r.handled, r.client)

end

/-! ## What one turn does, by the front of the buffer -/

theorem handleHeartbeat_append (now : UInt64) {client : Client} {rest : List UInt8}
    (h : client.buffer = heartbeatMagic ++ rest) :
    client.handleHeartbeat now =
      some ((client.updateHeartbeatTime now).setBuffer rest) := by
  have htake : client.buffer.take heartbeatMagic.length = heartbeatMagic := by
    rw [h, List.take_left]
  have hdrop : client.buffer.drop heartbeatMagic.length = rest := by
    rw [h, List.drop_left]
  have hlen : ¬ client.buffer.length < heartbeatMagic.length := by
    rw [h, List.length_append]
    omega
  unfold Client.handleHeartbeat
  rw [if_neg (by simp only [htake, hlen, ne_eq, not_true_eq_false, or_self, not_false_eq_true])]
  change some ((client.updateHeartbeatTime now).setBuffer
    (client.buffer.drop heartbeatMagic.length)) = _
  rw [hdrop]

theorem handleHeartbeat_none (now : UInt64) {client : Client}
    (h : ¬ heartbeatMagic <+: client.buffer) : client.handleHeartbeat now = none := by
  unfold Client.handleHeartbeat
  apply if_pos
  right
  intro htake
  exact h (List.prefix_iff_eq_take.mpr htake.symm)

section

variable {fb : Flatbuffers} (getpeername : Socket → SockaddrIn)

def Supported (fb : Flatbuffers) (buffer : List UInt8) (outside : Int → UInt8) : Prop :=
  (handlers fb (fb.contentType (memory buffer outside)).tag).isSome

instance (buffer : List UInt8) (outside : Int → UInt8) :
    Decidable (Supported fb buffer outside) :=
  inferInstanceAs (Decidable (_ = true))

theorem handleData_nullData {client : Client} {outside : Int → UInt8}
    (h : client.storage = none) :
    client.handleData fb getpeername outside = .error .nullData := if_pos h

theorem storage_of_verify {client : Client} {size : Nat}
    (h : fb.verify client.buffer = some size) : client.storage ≠ none := by
  apply Client.storage_of_buffer
  apply List.ne_nil_of_length_pos
  have hroot := fb.verify_root h
  omega

theorem handleData_unsupported {client : Client} {outside : Int → UInt8}
    (hstorage : client.storage ≠ none) (h : ¬ Supported fb client.buffer outside) :
    client.handleData fb getpeername outside = .ok (none, client) := by
  have hnone := Option.not_isSome_iff_eq_none.mp h
  simp only [Client.handleData, if_neg hstorage, hnone]

theorem handleData_rejected {client : Client} {outside : Int → UInt8}
    (hstorage : client.storage ≠ none) (h : Supported fb client.buffer outside)
    (hverify : fb.verify client.buffer = none) :
    client.handleData fb getpeername outside = .ok (none, client.setBuffer []) := by
  obtain ⟨handler, hhandler⟩ := Option.isSome_iff_exists.mp h
  simp only [Client.handleData, if_neg hstorage, hhandler, hverify]

theorem handleData_accepted {client : Client} {outside : Int → UInt8} {size : Nat}
    {handler : List UInt8 → Option Message} {message : Message}
    (hhandler : handlers fb (fb.contentType (memory client.buffer outside)).tag = some handler)
    (hverify : fb.verify client.buffer = some size)
    (hcontent : handler client.buffer = some message) :
    client.handleData fb getpeername outside = .ok (some message,
      (client.handle getpeername 0 message).setBuffer (client.buffer.drop size)) := by
  simp only [Client.handleData, if_neg (storage_of_verify hverify), hhandler, hverify, hcontent,
    Client.handle_buffer]

theorem handleData_nullContent {client : Client} {outside : Int → UInt8} {size : Nat}
    {handler : List UInt8 → Option Message}
    (hhandler : handlers fb (fb.contentType (memory client.buffer outside)).tag = some handler)
    (hverify : fb.verify client.buffer = some size) (hcontent : handler client.buffer = none) :
    client.handleData fb getpeername outside = .error .nullContent := by
  simp only [Client.handleData, if_neg (storage_of_verify hverify), hhandler, hverify, hcontent]

theorem message_ne_heartbeat {tag : PacketContent} {buffer : List UInt8} {message : Message}
    {handler : List UInt8 → Option Message} (hhandler : handlers fb tag = some handler)
    (hcontent : handler buffer = some message) : message ≠ .heartbeat := by
  rintro rfl
  unfold handlers at hhandler
  split at hhandler
  · cases hhandler
    simp at hcontent
  · cases hhandler
    simp at hcontent
  · cases hhandler

/-- Every way a call that does not dereference a null pointer returns. -/
theorem handleData_ok {getpeername : Socket → SockaddrIn} {client client' : Client}
    {outside : Int → UInt8} {message : Option Message}
    (h : client.handleData fb getpeername outside = .ok (message, client')) :
    client.storage ≠ none ∧
      ((message = none ∧ client' = client) ∨ (message = none ∧ client' = client.setBuffer []) ∨
        ∃ m size, message = some m ∧ m ≠ .heartbeat ∧ fb.verify client.buffer = some size ∧
          client' = (client.handle getpeername 0 m).setBuffer (client.buffer.drop size)) := by
  unfold Client.handleData at h
  dsimp only at h
  split_ifs at h with hstorage
  refine ⟨hstorage, ?_⟩
  split at h
  · cases h
    exact .inl ⟨rfl, rfl⟩
  · rename_i handler hhandler
    split at h
    · cases h
      exact .inr (.inl ⟨rfl, rfl⟩)
    · rename_i size hverify
      split at h
      · cases h
      · rename_i m hcontent
        cases h
        exact .inr (.inr ⟨m, size, rfl, message_ne_heartbeat hhandler hcontent, hverify,
          by rw [Client.handle_buffer]⟩)

theorem handleData_some {getpeername : Socket → SockaddrIn} {client client' : Client}
    {outside : Int → UInt8} {message : Message}
    (h : client.handleData fb getpeername outside = .ok (some message, client')) :
    ∃ size, fb.verify client.buffer = some size ∧
      client'.buffer = client.buffer.drop size := by
  obtain ⟨-, ⟨hnone, -⟩ | ⟨hnone, -⟩ | ⟨m, size, -, -, hverify, rfl⟩⟩ := handleData_ok h
  · cases hnone
  · cases hnone
  · exact ⟨size, hverify, Client.buffer_setBuffer _ _⟩

theorem dispatchStep_decreases (fb : Flatbuffers) (getpeername : Socket → SockaddrIn)
    (input : Receive) :
    FuelLoop.Decreases (dispatchStep fb getpeername input)
      fun s => s.client.buffer.length := by
  intro s s' h
  by_cases hmagic : heartbeatMagic <+: s.client.buffer
  · obtain ⟨rest, hrest⟩ := hmagic
    simp only [dispatchStep, handleHeartbeat_append _ hrest.symm] at h
    cases h
    have hlen := congrArg List.length hrest
    rw [List.length_append, length_heartbeatMagic] at hlen
    simp only [Client.buffer_setBuffer]
    omega
  · simp only [dispatchStep, handleHeartbeat_none _ hmagic] at h
    split at h
    · cases h
    · rename_i message client hdata
      cases h
      obtain ⟨size, hverify, hbuffer⟩ := handleData_some hdata
      have hsize := fb.verify_size hverify
      dsimp only
      rw [hbuffer, List.length_drop]
      omega
    · cases h

theorem run_addToBuffer (client : Client) (pieces : List (List UInt8))
    (h : client.buffer.length + pieces.flatten.length ≤ Client.maxBufferAcceptableSize) :
    StepRun.run Client.addToBuffer client pieces =
      .ok (client.setBuffer (client.buffer ++ pieces.flatten)) := by
  induction pieces generalizing client with
  | nil => simp
  | cons piece pieces ih =>
      rw [List.flatten_cons, List.length_append] at h
      have hadd : client.addToBuffer piece =
          .ok (client.setBuffer (client.buffer ++ piece)) := by
        apply if_neg
        omega
      rw [StepRun.run_cons_of_ok hadd, ih]
      · rw [Client.buffer_setBuffer, List.append_assoc, List.flatten_cons,
          Client.setBuffer_setBuffer]
        simp only [List.append_eq_nil_iff]
        exact fun hnil => ⟨hnil.1, hnil.2.1⟩
      · simp only [Client.buffer_setBuffer, List.length_append]
        omega

theorem handleIngoingData_of_room (client : Client) (input : Receive)
    (h : client.buffer.length + input.bytes.length ≤ Client.maxBufferAcceptableSize) :
    handleIngoingData fb getpeername client input =
      (dispatch fb getpeername input
        ⟨client.setBuffer (client.buffer ++ input.bytes), []⟩).map
          fun s => ⟨s.client, s.handled, thrownFor input.received⟩ := by
  rw [handleIngoingData, run_addToBuffer client input.pieces h]
  rfl

theorem buffer_of_nullData {client : Client} (h : client.storage = none) :
    client.buffer = [] := by
  rw [Client.buffer, h, Option.getD_none]

theorem dispatchStep_of_nullData {input : Receive} {s : Dispatch} (h : s.client.storage = none) :
    dispatchStep fb getpeername input s = .error .nullData := by
  have hmagic : ¬ heartbeatMagic <+: s.client.buffer := by
    rw [buffer_of_nullData h]
    decide
  simp only [dispatchStep, handleHeartbeat_none _ hmagic, handleData_nullData getpeername h]

/-- An event without a byte, of a client that has never sent one. -/
theorem handleIngoingData_of_nullData {client : Client} {input : Receive}
    (hstorage : client.storage = none) (hbytes : input.bytes = []) :
    handleIngoingData fb getpeername client input = .error (.fault .nullData) := by
  have hroom : client.buffer.length + input.bytes.length ≤ Client.maxBufferAcceptableSize := by
    rw [buffer_of_nullData hstorage, hbytes]
    exact Nat.zero_le _
  rw [handleIngoingData_of_room getpeername client input hroom, hbytes, List.append_nil,
    Client.setBuffer_buffer, dispatch, FuelLoop.run_of_fault]
  · rfl
  · exact dispatchStep_of_nullData getpeername hstorage

/-! ## What a readable event does to the client, whatever was received -/

variable {getpeername}

theorem handleData_settings {client client' : Client} {outside : Int → UInt8}
    {message : Option Message}
    (h : client.handleData fb getpeername outside = .ok (message, client')) :
    client'.settings =
      (message.toList.foldl (Client.handle getpeername 0) client).settings := by
  obtain ⟨-, ⟨rfl, rfl⟩ | ⟨rfl, rfl⟩ | ⟨m, size, rfl, -, -, rfl⟩⟩ := handleData_ok h
  · rfl
  · rfl
  · rfl

theorem handleHeartbeat_settings {client client' : Client} {now : UInt64}
    (h : client.handleHeartbeat now = some client') : client'.settings = client.settings := by
  unfold Client.handleHeartbeat at h
  split at h
  · cases h
  · cases h
    rfl

/-- The client is what its constructor and the handled messages made of it. -/
def Dispatch.Follows (getpeername : Socket → SockaddrIn) (client₀ : Client)
    (s : Dispatch) : Prop :=
  s.client.settings = (s.handled.foldl (Client.handle getpeername 0) client₀).settings

theorem dispatchStep_follows {client₀ : Client} {input : Receive} {s s' : Dispatch}
    (hs : s.Follows getpeername client₀)
    (h : dispatchStep fb getpeername input s = .ok (.inl s') ∨
      dispatchStep fb getpeername input s = .ok (.inr s')) :
    s'.Follows getpeername client₀ := by
  unfold Dispatch.Follows at hs ⊢
  unfold dispatchStep at h
  cases hbeat : s.client.handleHeartbeat (input.clock s.client.buffer.length) with
  | some client =>
      rw [hbeat] at h
      have hs' : s' = ⟨client, s.handled ++ [.heartbeat]⟩ := by
        rcases h with h | h <;> cases h
        rfl
      rw [hs', List.foldl_append, handleHeartbeat_settings hbeat, hs]
      rfl
  | none =>
      rw [hbeat] at h
      dsimp only at h
      cases hdata : s.client.handleData fb getpeername
          (input.outside s.client.buffer.length) with
      | error e =>
          rw [hdata] at h
          rcases h with h | h <;> cases h
      | ok r =>
          obtain ⟨message, client⟩ := r
          have hsettings := handleData_settings hdata
          have hs' : s' = ⟨client, s.handled ++ message.toList⟩ := by
            rw [hdata] at h
            cases message <;> rcases h with h | h <;> cases h
            · simp
            · rfl
          rw [hs', List.foldl_append, hsettings]
          exact Client.foldl_handle_settings getpeername _ hs

theorem dispatch_follows {client : Client} {input : Receive} {s : Dispatch}
    (h : dispatch fb getpeername input ⟨client, []⟩ = .ok s) :
    s.Follows getpeername client := by
  obtain ⟨t, hreach, hlast⟩ := (FuelLoop.run_eq_ok_iff
    (dispatchStep_decreases fb getpeername input) _ s).mp h
  have ht : t.Follows getpeername client := by
    apply FuelLoop.Reach.invariant _ hreach
    · rfl
    · exact fun a b ha hstep => dispatchStep_follows ha (Or.inl hstep)
  exact dispatchStep_follows ht (Or.inr hlast)

theorem addToBuffer_settings {client client' : Client} {data : List UInt8}
    (h : client.addToBuffer data = .ok client' ∨ client.addToBuffer data = .error client') :
    client'.settings = client.settings := by
  unfold Client.addToBuffer at h
  split_ifs at h
  · rcases h with h | h <;> cases h
    rfl
  · rcases h with h | h <;> cases h
    rfl

theorem run_addToBuffer_settings {client client' : Client} {pieces : List (List UInt8)}
    (h : StepRun.run Client.addToBuffer client pieces = .ok client') :
    client'.settings = client.settings := by
  apply StepRun.run_invariant (I := fun c : Client => c.settings = client.settings) _ rfl h
  intro a piece b ha hb
  rw [addToBuffer_settings (Or.inl hb), ha]

/-- After a readable event the client is what the messages handled in it made of
the client before. -/
theorem handleIngoingData_settings {client : Client} {input : Receive} {r : Ingoing}
    (h : handleIngoingData fb getpeername client input = .ok r) :
    r.client.settings =
      (r.handled.foldl (Client.handle getpeername 0) client).settings := by
  unfold handleIngoingData at h
  cases hrun : StepRun.run Client.addToBuffer client input.pieces with
  | error thrower =>
      rw [hrun] at h
      cases h
      obtain ⟨pre, piece, post, t, -, ht, hthrow⟩ :=
        (StepRun.run_eq_error_iff client input.pieces thrower).mp hrun
      rw [List.foldl_nil, addToBuffer_settings (Or.inr hthrow), run_addToBuffer_settings ht]
  | ok received =>
      rw [hrun] at h
      dsimp only at h
      cases hdispatch : dispatch fb getpeername input ⟨received, []⟩ with
      | error e =>
          rw [hdispatch] at h
          cases h
      | ok s =>
          rw [hdispatch] at h
          cases h
          rw [dispatch_follows hdispatch]
          exact Client.foldl_handle_settings getpeername _ (run_addToBuffer_settings hrun)

theorem handleIngoingData_sock {client : Client} {input : Receive} {r : Ingoing}
    (h : handleIngoingData fb getpeername client input = .ok r) :
    r.client.sock = client.sock := by
  have hsettings := congrArg Client.sock (handleIngoingData_settings h)
  calc r.client.sock
      = (r.handled.foldl (Client.handle getpeername 0) client).sock := hsettings
    _ = client.sock := Client.foldl_handle_sock getpeername 0 client r.handled

end

end VitaOxiPad.Server
