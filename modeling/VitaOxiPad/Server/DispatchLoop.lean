import VitaOxiPad.Server.IngoingData
/-!
# The dispatch loop ends

Every turn of `while (client.handle_heartbeat() || client.handle_data())` that
returns true takes a heartbeat, or as many bytes as the verifier has computed,
off the buffer.  The others leave the buffer as it is or clear it.  So the loop
ends on any bytes, and `add_to_buffer` alone bounds how many there are.
-/

namespace VitaOxiPad.Server

open NetProtocol

section

variable {fb : Flatbuffers} {getpeername : Socket → SockaddrIn} {input : Receive}

/-- The content type is one that is handled, and the verifier rejects the packet. -/
def Rejects (fb : Flatbuffers) (input : Receive) (client : Client) : Prop :=
  client.handleHeartbeat (input.clock client.buffer.length) = none ∧ client.storage ≠ none ∧
    Supported fb client.buffer (input.outside client.buffer.length) ∧
    fb.verify client.buffer = none

theorem dispatchStep_of_rejects {s : Dispatch} (h : Rejects fb input s.client) :
    dispatchStep fb getpeername input s =
      .ok (.inr ⟨s.client.setBuffer [], s.handled⟩) := by
  obtain ⟨hbeat, hstorage, hsupported, hverify⟩ := h
  simp only [dispatchStep, hbeat, handleData_rejected getpeername hstorage hsupported hverify]

theorem handleData_none_length {client client' : Client} {outside : Int → UInt8}
    (h : client.handleData fb getpeername outside = .ok (none, client')) :
    client'.buffer.length ≤ client.buffer.length := by
  obtain ⟨-, ⟨-, rfl⟩ | ⟨-, rfl⟩ | ⟨m, size, hsome, -⟩⟩ := handleData_ok h
  · exact le_rfl
  · rw [Client.buffer_setBuffer]
    exact Nat.zero_le _
  · cases hsome

theorem dispatchStep_done_length {s t : Dispatch}
    (h : dispatchStep fb getpeername input s = .ok (.inr t)) :
    t.client.buffer.length ≤ s.client.buffer.length := by
  unfold dispatchStep at h
  split at h
  · cases h
  · split at h
    · cases h
    · cases h
    · rename_i client hdata
      cases h
      exact handleData_none_length hdata

theorem dispatch_length {s t : Dispatch} (h : dispatch fb getpeername input s = .ok t) :
    t.client.buffer.length ≤ s.client.buffer.length := by
  have hshrinks := dispatchStep_decreases fb getpeername input
  obtain ⟨last, hreach, hlast⟩ := (FuelLoop.run_eq_ok_iff hshrinks s t).mp h
  have hle : last.client.buffer.length ≤ s.client.buffer.length := by
    apply FuelLoop.Reach.invariant
      (I := fun u : Dispatch => u.client.buffer.length ≤ s.client.buffer.length) _ hreach le_rfl
    exact fun u v hu hstep => (hshrinks hstep).le.trans hu
  exact (dispatchStep_done_length hlast).trans hle

/-! ## How much the buffer holds -/

def Client.Bounded (client : Client) : Prop :=
  client.buffer.length ≤ Client.maxBufferAcceptableSize

theorem addToBuffer_bounded {client client' : Client} {data : List UInt8}
    (h : client.addToBuffer data = .ok client' ∨ client.addToBuffer data = .error client') :
    client'.Bounded := by
  unfold Client.addToBuffer at h
  unfold Client.Bounded
  split_ifs at h with hover
  · rcases h with h | h <;> cases h
    rw [Client.buffer_setBuffer]
    exact Nat.zero_le _
  · rcases h with h | h <;> cases h
    rw [Client.buffer_setBuffer, List.length_append]
    omega

theorem run_addToBuffer_bounded {client client' : Client} {pieces : List (List UInt8)}
    (hclient : client.Bounded)
    (h : StepRun.run Client.addToBuffer client pieces = .ok client' ∨
      StepRun.run Client.addToBuffer client pieces = .error client') :
    client'.Bounded := by
  rcases h with h | h
  · exact StepRun.run_invariant (fun _ _ _ _ hadd => addToBuffer_bounded (.inl hadd)) hclient h
  · obtain ⟨-, piece, -, full, -, -, hthrow⟩ :=
      (StepRun.run_eq_error_iff client pieces client').mp h
    exact addToBuffer_bounded (.inr hthrow)

theorem handleIngoingData_bounded {client : Client} {r : Ingoing} (hclient : client.Bounded)
    (h : handleIngoingData fb getpeername client input = .ok r) : r.client.Bounded := by
  unfold handleIngoingData at h
  cases hrun : StepRun.run Client.addToBuffer client input.pieces with
  | error thrower =>
      rw [hrun] at h
      cases h
      exact run_addToBuffer_bounded hclient (.inr hrun)
  | ok received =>
      rw [hrun] at h
      dsimp only at h
      cases hdispatch : dispatch fb getpeername input ⟨received, []⟩ with
      | error e =>
          rw [hdispatch] at h
          cases h
      | ok s =>
          rw [hdispatch] at h
          cases h
          exact (dispatch_length hdispatch).trans (run_addToBuffer_bounded hclient (.inl hrun))

theorem receive_bounded {s t : List Message × Client} (hs : s.2.Bounded)
    (h : receive fb getpeername s input = .ok t) : t.2.Bounded := by
  unfold receive at h
  split at h
  · cases h
  · rename_i r hr
    split_ifs at h
    cases h
    exact handleIngoingData_bounded hs hr

end

/-- Whatever the buffer and the memory around it hold, the dispatch loop reaches its last
turn, if only by a null pointer: a turn that returns true removes at least one byte, and a
rejected packet leaves an empty buffer.  No sequence of receives makes the buffer exceed its
bound. -/
theorem dispatch_terminates (fb : Flatbuffers) (getpeername : Socket → SockaddrIn) :
    (∀ (input : Receive) (s : Dispatch),
      (∃ last, FuelLoop.Reach (dispatchStep fb getpeername input) s last ∧
        ((∃ fault, dispatchStep fb getpeername input last = .error fault) ∨
          ∃ t, dispatchStep fb getpeername input last = .ok (.inr t))) ∧
      (∀ t, dispatchStep fb getpeername input s = .ok (.inl t) →
        t.client.buffer.length < s.client.buffer.length) ∧
      (Rejects fb input s.client → dispatchStep fb getpeername input s =
        .ok (.inr ⟨s.client.setBuffer [], s.handled⟩))) ∧
    ∀ (sock : Socket) (heartbeatClock sentDataClock : UInt64) (inputs : List Receive)
      (s : List Message × Client) (pieces : List (List UInt8)) (client : Client),
      StepRun.run (receive fb getpeername)
        ([], .new getpeername sock heartbeatClock sentDataClock) inputs = .ok s →
      (StepRun.run Client.addToBuffer s.2 pieces = .ok client ∨
        StepRun.run Client.addToBuffer s.2 pieces = .error client) →
      client.buffer.length ≤ Client.maxBufferAcceptableSize := by
  have hshrinks := dispatchStep_decreases fb getpeername
  refine ⟨fun input s => ⟨?_, fun t hstep => hshrinks input hstep, dispatchStep_of_rejects⟩, ?_⟩
  · exact FuelLoop.exists_end (hshrinks input) s
  · intro sock heartbeatClock sentDataClock inputs s pieces client hrun hadd
    have hnew : (Client.new getpeername sock heartbeatClock sentDataClock).Bounded :=
      Nat.zero_le _
    have hs : s.2.Bounded :=
      StepRun.run_invariant (I := fun s : List Message × Client => s.2.Bounded)
        (fun _ _ _ hs hstep => receive_bounded hs hstep) hnew hrun
    exact run_addToBuffer_bounded hs hadd

/-- Three bytes are left behind a handshake, and as many as the bound come after them. -/
theorem dispatch_terminates_of_overrun :
    ∃ s client, StepRun.run (receive samplePackets Socket.peer)
        ([], Client.new Socket.peer ⟨0, 3, ⟨0, 0⟩⟩ 0 0)
        [.wouldBlock (handshakePacket ++ [7, 8, 9])] = .ok s ∧ s.2.buffer = [7, 8, 9] ∧
      StepRun.run Client.addToBuffer s.2 [List.replicate Client.maxBufferAcceptableSize 0] =
        .error client ∧ client.buffer.length ≤ Client.maxBufferAcceptableSize := by
  obtain ⟨s, hrun, hbuffer⟩ := StepRun.exists_ok_of_map (by decide +kernel :
    (StepRun.run (receive samplePackets Socket.peer)
      ([], Client.new Socket.peer ⟨0, 3, ⟨0, 0⟩⟩ 0 0)
        [.wouldBlock (handshakePacket ++ [7, 8, 9])]).toOption.map (·.2.buffer) = some [7, 8, 9])
  have hover : StepRun.run Client.addToBuffer s.2
      [List.replicate Client.maxBufferAcceptableSize 0] = .error (s.2.setBuffer []) := by
    rw [StepRun.run_singleton, Client.addToBuffer, if_pos]
    rw [hbuffer, List.length_replicate]
    exact Nat.lt_add_of_pos_left (by decide)
  have hbounded := (dispatch_terminates samplePackets Socket.peer).2
  exact ⟨s, _, hrun, hbuffer, hover, hbounded _ 0 0 _ s _ _ hrun (.inr hover)⟩

end VitaOxiPad.Server
