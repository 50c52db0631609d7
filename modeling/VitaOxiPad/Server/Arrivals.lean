import VitaOxiPad.Server.IngoingData
/-!
# The messages in the bytes of a client

Which messages a readable event handles depends on the bytes alone: those that
were in `buffer_` and those received.  If they overrun the buffer, it is none.
-/

namespace VitaOxiPad.Server

open NetProtocol

/-- The message at the front of the buffer, and the bytes behind it. -/
def frontMessage (fb : Flatbuffers) (outside : Int → UInt8) (buffer : List UInt8) :
    Option (Message × List UInt8) :=
  if heartbeatMagic <+: buffer then some (.heartbeat, buffer.drop heartbeatMagic.length)
  else do
    let handler ← handlers fb (fb.contentType (memory buffer outside)).tag
    let size ← fb.verify buffer
    let message ← handler buffer
    return (message, buffer.drop size)

/-- The bytes hold the message behind none, or only other messages. -/
inductive Arrives (fb : Flatbuffers) (outside : Nat → Int → UInt8) :
    List UInt8 → Message → Prop
  | front {buffer rest : List UInt8} {message : Message}
      (h : frontMessage fb (outside buffer.length) buffer = some (message, rest)) :
      Arrives fb outside buffer message
  | behind {buffer rest : List UInt8} {first message : Message}
      (h : frontMessage fb (outside buffer.length) buffer = some (first, rest))
      (hrest : Arrives fb outside rest message) : Arrives fb outside buffer message

/-- The packet at the front is accepted, and has a handler but no content. -/
def BareFront (fb : Flatbuffers) (outside : Int → UInt8) (buffer : List UInt8) : Prop :=
  ¬ heartbeatMagic <+: buffer ∧ (fb.verify buffer).isSome ∧
    ∃ handler, handlers fb (fb.contentType (memory buffer outside)).tag = some handler ∧
      handler buffer = none

/-- The bytes hold such a packet behind none, or only messages. -/
inductive MeetsBare (fb : Flatbuffers) (outside : Nat → Int → UInt8) : List UInt8 → Prop
  | front {buffer : List UInt8} (h : BareFront fb (outside buffer.length) buffer) :
      MeetsBare fb outside buffer
  | behind {buffer rest : List UInt8} {first : Message}
      (h : frontMessage fb (outside buffer.length) buffer = some (first, rest))
      (hrest : MeetsBare fb outside rest) : MeetsBare fb outside buffer

section

variable {fb : Flatbuffers} {outside : Nat → Int → UInt8} {buffer rest : List UInt8}
  {first message : Message}

theorem not_arrives_of_none (h : frontMessage fb (outside buffer.length) buffer = none) :
    ¬ Arrives fb outside buffer message := by
  rintro (hfront | ⟨hfront, -⟩) <;> cases h.symm.trans hfront

theorem arrives_iff_of_some
    (h : frontMessage fb (outside buffer.length) buffer = some (first, rest)) :
    Arrives fb outside buffer message ↔ message = first ∨ Arrives fb outside rest message := by
  constructor
  · rintro (hfront | ⟨hfront, hrest⟩)
    · cases h.symm.trans hfront
      exact .inl rfl
    · cases h.symm.trans hfront
      exact .inr hrest
  · rintro (rfl | hrest)
    · exact .front h
    · exact .behind h hrest

theorem frontMessage_of_bare {outside : Int → UInt8} (h : BareFront fb outside buffer) :
    frontMessage fb outside buffer = none := by
  obtain ⟨hmagic, hverify, handler, hhandler, hcontent⟩ := h
  obtain ⟨size, hsize⟩ := Option.isSome_iff_exists.mp hverify
  rw [frontMessage, if_neg hmagic]
  simp [hhandler, hsize, hcontent]

theorem meetsBare_iff_of_none (h : frontMessage fb (outside buffer.length) buffer = none) :
    MeetsBare fb outside buffer ↔ BareFront fb (outside buffer.length) buffer := by
  constructor
  · rintro (hbare | ⟨hfront, -⟩)
    · exact hbare
    · cases h.symm.trans hfront
  · exact .front

theorem meetsBare_iff_of_some
    (h : frontMessage fb (outside buffer.length) buffer = some (first, rest)) :
    MeetsBare fb outside buffer ↔ MeetsBare fb outside rest := by
  constructor
  · rintro (hbare | ⟨hfront, hrest⟩)
    · cases h.symm.trans (frontMessage_of_bare hbare)
    · cases h.symm.trans hfront
      exact hrest
  · exact .behind h

end

/-! ## The dispatch loop -/

section

variable {fb : Flatbuffers} {getpeername : Socket → SockaddrIn} {input : Receive}
  {s t : Dispatch} {message : Message}

theorem dispatchStep_of_front (getpeername : Socket → SockaddrIn) {rest : List UInt8}
    (h : frontMessage fb (input.outside s.client.buffer.length) s.client.buffer =
      some (message, rest)) :
    ∃ client, dispatchStep fb getpeername input s =
      .ok (.inl ⟨client, s.handled ++ [message]⟩) ∧ client.buffer = rest ∧
        client.storage ≠ none := by
  unfold frontMessage at h
  split_ifs at h with hmagic
  · obtain ⟨tail, htail⟩ := hmagic
    cases h
    have hne : s.client.buffer ≠ [] := by
      rw [← htail]
      exact List.append_ne_nil_of_left_ne_nil (by decide) tail
    simp only [dispatchStep, handleHeartbeat_append _ htail.symm]
    refine ⟨_, rfl, ?_, ?_⟩
    · rw [Client.buffer_setBuffer, ← htail, List.drop_left]
    · exact Client.storage_setBuffer (Client.storage_of_buffer hne) tail
  · simp only [Option.bind_eq_bind, Option.bind_eq_some_iff] at h
    obtain ⟨handler, hhandler, size, hverify, m, hcontent, heq⟩ := h
    cases heq
    simp only [dispatchStep, handleHeartbeat_none _ hmagic,
      handleData_accepted getpeername hhandler hverify hcontent]
    refine ⟨_, rfl, Client.buffer_setBuffer _ _, Client.storage_setBuffer ?_ _⟩
    rw [Client.handle_storage]
    exact storage_of_verify hverify

theorem dispatchStep_of_bare (getpeername : Socket → SockaddrIn)
    (h : BareFront fb (input.outside s.client.buffer.length) s.client.buffer) :
    dispatchStep fb getpeername input s = .error .nullContent := by
  obtain ⟨hmagic, hverify, handler, hhandler, hcontent⟩ := h
  obtain ⟨size, hsize⟩ := Option.isSome_iff_exists.mp hverify
  simp only [dispatchStep, handleHeartbeat_none _ hmagic,
    handleData_nullContent getpeername hhandler hsize hcontent]

/-- The last turn: there is no message at the front, and no null pointer. -/
theorem dispatchStep_of_done (getpeername : Socket → SockaddrIn)
    (hstorage : s.client.storage ≠ none)
    (h : frontMessage fb (input.outside s.client.buffer.length) s.client.buffer = none)
    (hbare : ¬ BareFront fb (input.outside s.client.buffer.length) s.client.buffer) :
    ∃ client, dispatchStep fb getpeername input s = .ok (.inr ⟨client, s.handled⟩) := by
  unfold frontMessage at h
  split_ifs at h with hmagic
  simp only [dispatchStep, handleHeartbeat_none _ hmagic]
  cases hhandler : handlers fb (fb.contentType (memory s.client.buffer
      (input.outside s.client.buffer.length))).tag with
  | none =>
      have hunsupported : ¬ Supported fb s.client.buffer
          (input.outside s.client.buffer.length) := by
        simp [Supported, hhandler]
      rw [handleData_unsupported getpeername hstorage hunsupported]
      exact ⟨_, rfl⟩
  | some handler =>
      cases hverify : fb.verify s.client.buffer with
      | none =>
          have hsupported : Supported fb s.client.buffer
              (input.outside s.client.buffer.length) := by
            simp [Supported, hhandler]
          rw [handleData_rejected getpeername hstorage hsupported hverify]
          exact ⟨_, rfl⟩
      | some size =>
          have hcontent : handler s.client.buffer = none := by
            apply Option.eq_none_iff_forall_ne_some.mpr
            simpa [hhandler, hverify] using h
          exact absurd ⟨hmagic, Option.isSome_of_eq_some hverify, handler, hhandler, hcontent⟩
            hbare

theorem dispatchStep_of_no_front {next : Dispatch ⊕ Dispatch}
    (h : frontMessage fb (input.outside s.client.buffer.length) s.client.buffer = none)
    (hstep : dispatchStep fb getpeername input s = .ok next) :
    ∃ client, next = .inr ⟨client, s.handled⟩ := by
  by_cases hstorage : s.client.storage = none
  · cases hstep.symm.trans (dispatchStep_of_nullData getpeername hstorage)
  by_cases hbare : BareFront fb (input.outside s.client.buffer.length) s.client.buffer
  · cases hstep.symm.trans (dispatchStep_of_bare getpeername hbare)
  obtain ⟨client, hdone⟩ := dispatchStep_of_done getpeername hstorage h hbare
  cases hstep.symm.trans hdone
  exact ⟨client, rfl⟩

/-- The dispatch loop ends without a fault exactly when no packet without content is met. -/
theorem dispatch_ok_iff (getpeername : Socket → SockaddrIn) (input : Receive) {s : Dispatch}
    (hstorage : s.client.storage ≠ none) :
    (∃ t, dispatch fb getpeername input s = .ok t) ↔
      ¬ MeetsBare fb input.outside s.client.buffer := by
  have hshrinks := dispatchStep_decreases fb getpeername input
  obtain ⟨last, hreach, hlast⟩ := FuelLoop.exists_end hshrinks s
  have hrun : dispatch fb getpeername input s = dispatch fb getpeername input last :=
    FuelLoop.run_eq_of_reach hshrinks hreach
  rw [hrun]
  clear hrun
  induction hreach using Relation.ReflTransGen.head_induction_on with
  | refl =>
      cases hfront : frontMessage fb (input.outside last.client.buffer.length)
          last.client.buffer with
      | some front =>
          obtain ⟨client, hnext, -, -⟩ := dispatchStep_of_front getpeername hfront
          rcases hlast with ⟨e, he⟩ | ⟨r, hr⟩
          · cases he.symm.trans hnext
          · cases hr.symm.trans hnext
      | none =>
          rw [meetsBare_iff_of_none hfront, dispatch]
          by_cases hbare : BareFront fb (input.outside last.client.buffer.length)
              last.client.buffer
          · rw [FuelLoop.run_of_fault (dispatchStep_of_bare getpeername hbare)]
            simp [hbare]
          · obtain ⟨client, hdone⟩ := dispatchStep_of_done getpeername hstorage hfront hbare
            rw [FuelLoop.run_of_done hdone]
            simp [hbare]
  | @head a b hstep _ ih =>
      cases hfront : frontMessage fb (input.outside a.client.buffer.length)
          a.client.buffer with
      | none =>
          obtain ⟨client, heq⟩ := dispatchStep_of_no_front hfront hstep
          cases heq
      | some front =>
          obtain ⟨first, rest⟩ := front
          obtain ⟨client, hnext, rfl, hkept⟩ := dispatchStep_of_front getpeername hfront
          cases hstep.symm.trans hnext
          rw [meetsBare_iff_of_some hfront]
          exact ih hkept

theorem mem_dispatch_iff (h : dispatch fb getpeername input s = .ok t) :
    message ∈ t.handled ↔
      message ∈ s.handled ∨ Arrives fb input.outside s.client.buffer message := by
  obtain ⟨last, hreach, hlast⟩ :=
    (FuelLoop.run_eq_ok_iff (dispatchStep_decreases fb getpeername input) s t).mp h
  clear h
  induction hreach using Relation.ReflTransGen.head_induction_on with
  | refl =>
      cases hfront : frontMessage fb (input.outside last.client.buffer.length)
          last.client.buffer with
      | none =>
          obtain ⟨client, heq⟩ := dispatchStep_of_no_front hfront hlast
          cases heq
          simp [not_arrives_of_none hfront]
      | some front =>
          obtain ⟨client, hnext, -, -⟩ := dispatchStep_of_front getpeername hfront
          cases hlast.symm.trans hnext
  | @head a b hstep _ ih =>
      cases hfront : frontMessage fb (input.outside a.client.buffer.length)
          a.client.buffer with
      | none =>
          obtain ⟨client, heq⟩ := dispatchStep_of_no_front hfront hstep
          cases heq
      | some front =>
          obtain ⟨first, rest⟩ := front
          obtain ⟨client, hnext, rfl, -⟩ := dispatchStep_of_front getpeername hfront
          cases hstep.symm.trans hnext
          rw [ih, arrives_iff_of_some hfront, List.mem_append, List.mem_singleton, or_assoc]

end

/-! ## A whole readable event -/

/-- `add_to_buffer` takes all of the pieces. -/
def Client.HasRoom (client : Client) (pieces : List (List UInt8)) : Prop :=
  pieces = [] ∨ client.buffer.length + pieces.flatten.length ≤ Client.maxBufferAcceptableSize

theorem run_addToBuffer_of_overrun {client : Client} {pieces : List (List UInt8)}
    (h : ¬ client.HasRoom pieces) :
    ∃ thrower, StepRun.run Client.addToBuffer client pieces = .error thrower := by
  rw [Client.HasRoom, not_or, not_le] at h
  obtain ⟨hne, hover⟩ := h
  induction pieces generalizing client with
  | nil => exact absurd rfl hne
  | cons piece pieces ih =>
      rw [List.flatten_cons, List.length_append] at hover
      by_cases hpiece : client.buffer.length + piece.length > Client.maxBufferAcceptableSize
      · exact ⟨_, StepRun.run_cons_of_error (if_pos hpiece) pieces⟩
      · have hadd : client.addToBuffer piece =
            .ok (client.setBuffer (client.buffer ++ piece)) := if_neg hpiece
        rw [StepRun.run_cons_of_ok hadd]
        apply ih
        · rintro rfl
          rw [List.flatten_nil, List.length_nil] at hover
          omega
        · rw [Client.buffer_setBuffer, List.length_append]
          omega

section

variable {fb : Flatbuffers} {getpeername : Socket → SockaddrIn} {client : Client}
  {input : Receive} {r : Ingoing}

theorem handleIngoingData_of_overrun (h : ¬ client.HasRoom input.pieces)
    (hr : handleIngoingData fb getpeername client input = .ok r) :
    r.handled = [] ∧ r.thrown = some .clientException := by
  obtain ⟨thrower, hrun⟩ := run_addToBuffer_of_overrun h
  rw [handleIngoingData, hrun] at hr
  cases hr
  exact ⟨rfl, rfl⟩

theorem run_addToBuffer_of_hasRoom {pieces : List (List UInt8)} (h : client.HasRoom pieces) :
    StepRun.run Client.addToBuffer client pieces =
      .ok (client.setBuffer (client.buffer ++ pieces.flatten)) := by
  rcases h with rfl | hroom
  · simp
  · exact run_addToBuffer client pieces hroom

theorem handleIngoingData_of_hasRoom (h : client.HasRoom input.pieces)
    (hr : handleIngoingData fb getpeername client input = .ok r) :
    (∀ message, message ∈ r.handled ↔
      Arrives fb input.outside (client.buffer ++ input.bytes) message) ∧
        r.thrown = thrownFor input.received := by
  rw [handleIngoingData, run_addToBuffer_of_hasRoom h] at hr
  cases hdispatch : dispatch fb getpeername input
      ⟨client.setBuffer (client.buffer ++ input.pieces.flatten), []⟩ with
  | error e =>
      simp only [hdispatch] at hr
      cases hr
  | ok s =>
      simp only [hdispatch] at hr
      cases hr
      refine ⟨fun message => ?_, rfl⟩
      have hmem := @mem_dispatch_iff _ _ _ _ _ message hdispatch
      simpa [Receive.bytes] using hmem

/-- A readable event whose bytes fit ends without a fault exactly when `buffer_` has held a
byte by then and no packet without content is met. -/
theorem handleIngoingData_ok_iff (fb : Flatbuffers) (getpeername : Socket → SockaddrIn)
    (h : client.HasRoom input.pieces) :
    (∃ r, handleIngoingData fb getpeername client input = .ok r) ↔
      (client.storage ≠ none ∨ input.bytes ≠ []) ∧
        ¬ MeetsBare fb input.outside (client.buffer ++ input.bytes) := by
  have hok : (∃ r, handleIngoingData fb getpeername client input = .ok r) ↔
      ∃ s, dispatch fb getpeername input
        ⟨client.setBuffer (client.buffer ++ input.bytes), []⟩ = .ok s := by
    rw [handleIngoingData, run_addToBuffer_of_hasRoom h, Receive.bytes]
    cases hdispatch : dispatch fb getpeername input
        ⟨client.setBuffer (client.buffer ++ input.pieces.flatten), []⟩ with
    | error e => simp [hdispatch, bind, Except.bind]
    | ok s => simp [hdispatch, bind, Except.bind, pure, Except.pure]
  by_cases hnull : client.storage = none ∧ input.bytes = []
  · rw [handleIngoingData_of_nullData getpeername hnull.1 hnull.2]
    simp [hnull.1, hnull.2]
  · rw [not_and_or] at hnull
    have hstorage := Client.storage_setBuffer_append hnull
    rw [hok, dispatch_ok_iff getpeername input hstorage, Client.buffer_setBuffer]
    exact ⟨fun hbare => ⟨hnull, hbare⟩, And.right⟩

end

end VitaOxiPad.Server
