import VitaOxiPad.Server.ClientStream
import VitaOxiPad.Server.ReceiveErrors
import VitaOxiPad.Server.Settings
/-!
# What a step does to one connection

A step that does not read from a connection handles nothing on it and leaves its client's
buffer alone.  A step that reads whole messages from it, with nothing in the buffer, handles
them all and leaves nothing in the buffer.
-/

namespace VitaOxiPad.Server

open NetProtocol Framing

/-! ## What the console does to a connection that it does not read -/

section

variable {P : Platform} {sock : Socket}

/-- Nothing is handled on the connection, and its client keeps its bytes and its time. -/
structure Untouched (sock : Socket) (s t : NetThread) : Prop where
  handled : handledOn sock t.trace = handledOn sock s.trace
  client : ∀ c', t.client = some c' → c'.sock = sock → ∃ c, s.client = some c ∧ c.sock = sock ∧
    c'.buffer = c.buffer ∧ c'.heartbeatTime = c.heartbeatTime

theorem handledOn_nil {effects : List Effect} (h : ∀ e ∈ effects, e.handledOn sock = none) :
    handledOn sock effects = [] := List.filterMap_eq_nil_iff.mpr h

theorem Untouched.of_same {s t : NetThread} {effects : List Effect}
    (htrace : t.trace = s.trace ++ effects) (hno : ∀ e ∈ effects, e.handledOn sock = none)
    (hclient : t.client = s.client) : Untouched sock s t where
  handled := by rw [htrace, handledOn_append, handledOn_nil hno, List.append_nil]
  client c' hc' hsock := ⟨c', hclient ▸ hc', hsock, rfl, rfl⟩

theorem Untouched.of_none {s t : NetThread} {effects : List Effect}
    (htrace : t.trace = s.trace ++ effects) (hno : ∀ e ∈ effects, e.handledOn sock = none)
    (hclient : t.client = none) : Untouched sock s t where
  handled := by rw [htrace, handledOn_append, handledOn_nil hno, List.append_nil]
  client c' hc' := by
    rw [hclient] at hc'
    cases hc'

theorem Untouched.of_client {s t : NetThread} {effects : List Effect} {c c' : Client}
    (htrace : t.trace = s.trace ++ effects) (hno : ∀ e ∈ effects, e.handledOn sock = none)
    (hs : s.client = some c) (ht : t.client = some c') (hsock : c'.sock = c.sock)
    (hkept : c.sock = sock → c'.buffer = c.buffer ∧ c'.heartbeatTime = c.heartbeatTime) :
    Untouched sock s t where
  handled := by rw [htrace, handledOn_append, handledOn_nil hno, List.append_nil]
  client d hd hdsock := by
    rw [ht] at hd
    cases hd
    rw [hsock] at hdsock
    exact ⟨c, hs, hdsock, hkept hdsock⟩

theorem untouched_covers (sock : Socket) : NetThread.CoversStatus (Untouched sock) where
  refl s := .of_same (List.append_nil _).symm (by simp) rfl
  trans hst htu :=
    { handled := htu.handled.trans hst.handled
      client := fun c'' hc'' hsock => by
        obtain ⟨c', hc', hsock', hbuffer', htime'⟩ := htu.client c'' hc'' hsock
        obtain ⟨c, hc, hsock, hbuffer, htime⟩ := hst.client c' hc' hsock'
        exact ⟨c, hc, hsock, hbuffer'.trans hbuffer, htime'.trans htime⟩ }
  quiet hclient _ htrace _ := .of_same (htrace.trans (List.append_nil _).symm) (by simp) hclient
  signals s effects h := by
    refine .of_same rfl (fun e he => ?_) rfl
    have hsignal := h e he
    cases e <;> first | rfl | cases hsignal
  reset s := by
    unfold NetThread.resetClient
    split
    · exact .of_same (List.append_nil _).symm (by simp) rfl
    · exact .of_none rfl (by simp [Effect.handledOn]) rfl

/-- What becomes of the connection in a step that does not read it. -/
inductive Spared (sock : Socket) (clock : Option UInt64) (s t : NetThread) : Prop
  | untouched (h : Untouched sock s t)
  /-- A connection may have been accepted, and may be this one. -/
  | accepted (hhandled : handledOn sock t.trace = handledOn sock s.trace)
      (hclient : ∀ c, t.client = some c →
        c.sock.serial = s.accepts ∧ c.buffer = [] ∧ clock = some c.heartbeatTime)

def Input.acceptClock : Input → Option UInt64
  | .event input => some input.accept.heartbeatClock
  | _ => none

theorem spared_addClient (sock : Socket) (s : NetThread) (a : Accept) :
    Spared sock (some a.heartbeatClock) s (s.addClient P a).announceClient := by
  have hannounce := (untouched_covers sock).announceClient (s.addClient P a)
  unfold NetThread.addClient at hannounce ⊢
  split_ifs at hannounce ⊢
  · refine .accepted (hannounce.handled.trans ?_) ?_
    · exact (handledOn_append sock s.trace _).trans (List.append_nil _)
    · rintro c ⟨⟩
      exact ⟨rfl, rfl, rfl⟩
  · exact .untouched hannounce

theorem untouched_refuseClient (sock : Socket) (s : NetThread) (a : Accept) :
    Untouched sock s (s.refuseClient a).announceClient := by
  refine (untouched_covers sock).trans ?_ ((untouched_covers sock).announceClient _)
  unfold NetThread.refuseClient
  split_ifs
  · exact .of_same rfl (by simp [Effect.handledOn]) rfl
  · exact (untouched_covers sock).refl s

theorem untouched_received {s : NetThread} {client : Client} {input : Receive} {r : Ingoing}
    (hclient : s.client = some client) (hother : client.sock ≠ sock)
    (hr : handleIngoingData P.flatbuffers P.getpeername client input = .ok r) :
    Untouched sock s (s.received client r) := by
  refine .of_client rfl (fun e he => ?_) hclient rfl (handleIngoingData_sock hr)
    fun hsock => absurd hsock hother
  obtain ⟨message, -, rfl⟩ := List.mem_map.mp he
  exact if_neg hother

theorem untouched_sendHandshakeResponse {s t : NetThread} {client : Client}
    {sends : List Int32} (hclient : s.client = some client)
    (h : s.sendHandshakeResponse P client sends = .ok t) : Untouched sock s t := by
  have hcovers := untouched_covers sock
  obtain ⟨sent, pieces, -, hend⟩ := NetThread.sendHandshakeResponse_ok h
  have hpieces : Untouched sock s (s.emit (pieces.map (.sent client.sock))) := by
    refine .of_same rfl (fun e he => ?_) rfl
    obtain ⟨piece, -, rfl⟩ := List.mem_map.mp he
    rfl
  rcases hend with ⟨-, rfl | rfl⟩ | ⟨-, rfl⟩
  · exact hcovers.trans hpieces (hcovers.disconnectClient _)
  · exact hpieces
  · have hsent : (s.emit (pieces.map (.sent client.sock))).client = some client := hclient
    apply hcovers.trans hpieces
    exact .of_client rfl (by simp [Effect.handledOn]) hsent rfl rfl fun _ => ⟨rfl, rfl⟩

theorem spared_handleEvent {s t : NetThread} {input : EventInput}
    (h : s.handleEvent P input = .ok t)
    (hother : ¬ (NetThread.Reads input ∧ s.client.map (·.sock) = some sock)) :
    Spared sock (some input.accept.heartbeatClock) s t := by
  have hcovers := untouched_covers sock
  cases NetThread.handling_of_handleEvent h with
  | idle => exact .untouched (hcovers.refl _)
  | hangup => exact .untouched (hcovers.disconnectClient s)
  | connect => exact spared_addClient sock s input.accept
  | refuse => exact .untouched (untouched_refuseClient sock s input.accept)
  | receive hreads hclient h =>
      rename_i client
      have hsock : client.sock ≠ sock := by
        rintro rfl
        exact hother ⟨hreads, by rw [hclient, Option.map_some]⟩
      obtain ⟨r, hr, hend⟩ := NetThread.readable_ok h
      have hreceived := untouched_received hclient hsock hr
      rcases hend with ⟨-, rfl⟩ | ⟨-, rfl⟩
      · exact .untouched (hcovers.trans hreceived (hcovers.disconnectClient _))
      · exact .untouched hreceived
  | answer _ hclient _ h => exact .untouched (untouched_sendHandshakeResponse hclient h)

theorem untouched_finish {s t : NetThread} {input : SendInput} (h : s.finish P input = .ok t) :
    Untouched sock s t := by
  rcases NetThread.finish_cases h with ⟨-, rfl⟩ | ⟨client, hclient, -, rfl⟩
  · exact (untouched_covers sock).refl t
  · unfold NetThread.sendPad NetThread.storeTimeout
    split_ifs
    · exact .of_client rfl (by simp [Effect.handledOn]) hclient rfl rfl fun _ => ⟨rfl, rfl⟩
    · exact .of_client rfl (by simp [Effect.handledOn]) hclient rfl rfl fun _ => ⟨rfl, rfl⟩
    · exact (untouched_covers sock).refl s
    · exact .of_same (List.append_nil _).symm (by simp) rfl

theorem spared_step {s t : NetThread} {i : Input} (h : s.step P i = .ok t)
    (hother : ∀ input, i = .event input →
      ¬ (NetThread.Reads input ∧ s.client.map (·.sock) = some sock)) :
    Spared sock i.acceptClock s t := by
  cases i with
  | ctrl read =>
      obtain ⟨hclient, htrace, -, -⟩ := NetThread.readCtrl_client h
      exact .untouched (.of_same (htrace.trans (List.append_nil _).symm) (by simp) hclient)
  | netStatus states =>
      cases h
      exact .untouched ((untouched_covers sock).netStatus s states)
  | event input => exact spared_handleEvent h (hother input rfl)
  | send input => exact .untouched (untouched_finish h)

end

/-! ## What it does to one that it reads -/

section

variable {fb : Flatbuffers} {getpeername : Socket → SockaddrIn}

/-- A readable event that brings whole messages to an empty buffer handles them all and
leaves it empty, unless they are too much for it. -/
theorem handleIngoingData_messages {client : Client} {input : Receive} {r : Ingoing}
    {messages : List (ClientMessage fb)} (hbuffer : client.buffer = [])
    (hbytes : input.bytes = stream ClientMessage.bytes messages)
    (h : handleIngoingData fb getpeername client input = .ok r) :
    (r.handled = messages.map ClientMessage.message ∧ r.client.buffer = []) ∨
      (r.handled = [] ∧ r.thrown = some .clientException) := by
  by_cases hroom : client.HasRoom input.pieces
  · left
    have hfull : (client.setBuffer (client.buffer ++ input.bytes)).buffer =
        stream ClientMessage.bytes messages ++ [] := by
      rw [Client.buffer_setBuffer, hbuffer, hbytes, List.nil_append, List.append_nil]
    obtain ⟨client', hrun, hempty, hkept, -⟩ :=
      dispatch_stream getpeername input [] messages hfull
    have hstorage : client.storage ≠ none ∨ input.bytes ≠ [] :=
      ((handleIngoingData_ok_iff fb getpeername hroom).mp ⟨r, h⟩).1
    have hmagic : ¬ heartbeatMagic <+: client'.buffer := by
      rw [hempty]
      decide
    have hshort : fb.verify client'.buffer = none := fb.verify_short (by rw [hempty]; decide)
    rw [dispatch_unverified _ hmagic (hkept (Client.storage_setBuffer_append hstorage)) hshort,
      List.nil_append, Receive.bytes] at hrun
    rw [handleIngoingData, run_addToBuffer_of_hasRoom hroom] at h
    simp only [hrun] at h
    cases h
    refine ⟨rfl, ?_⟩
    dsimp only
    rw [Client.buffer_setBuffer, hempty, ite_self]
  · exact .inr (handleIngoingData_of_overrun hroom h)

/-- A heartbeat among the messages has set the time, and nothing else has. -/
structure Dispatch.Timed (clock : Nat → UInt64) (before : UInt64) (s : Dispatch) : Prop where
  silent : .heartbeat ∉ s.handled → s.client.heartbeatTime = before
  beaten : .heartbeat ∈ s.handled → ∃ size, s.client.heartbeatTime = clock size

theorem handleHeartbeat_time {client client' : Client} {clock : UInt64}
    (h : client.handleHeartbeat clock = some client') : client'.heartbeatTime = clock := by
  unfold Client.handleHeartbeat at h
  split_ifs at h
  cases h
  rfl

theorem handle_time (client : Client) {message : Message} (hmessage : message ≠ .heartbeat) :
    (client.handle getpeername 0 message).heartbeatTime = client.heartbeatTime := by
  cases message with
  | handshake handshake => rfl
  | config config =>
      simp only [Client.handle, Client.handleConfig]
      split_ifs <;> rfl
  | heartbeat => exact absurd rfl hmessage

theorem handleData_time {client client' : Client} {outside : Int → UInt8}
    {message : Option Message}
    (h : client.handleData fb getpeername outside = .ok (message, client')) :
    client'.heartbeatTime = client.heartbeatTime ∧ message ≠ some .heartbeat := by
  obtain ⟨-, ⟨rfl, rfl⟩ | ⟨rfl, rfl⟩ | ⟨m, size, rfl, hmessage, -, rfl⟩⟩ := handleData_ok h
  · exact ⟨rfl, by simp⟩
  · exact ⟨rfl, by simp⟩
  · exact ⟨handle_time client hmessage, by simpa using hmessage⟩

theorem dispatchStep_timed {before : UInt64} {input : Receive} {s s' : Dispatch}
    (hs : s.Timed input.clock before)
    (h : dispatchStep fb getpeername input s = .ok (.inl s') ∨
      dispatchStep fb getpeername input s = .ok (.inr s')) : s'.Timed input.clock before := by
  unfold dispatchStep at h
  cases hbeat : s.client.handleHeartbeat (input.clock s.client.buffer.length) with
  | some client =>
      rw [hbeat] at h
      have hs' : s' = ⟨client, s.handled ++ [.heartbeat]⟩ := by
        rcases h with h | h <;> cases h
        rfl
      rw [hs']
      refine ⟨fun hno => absurd (by simp) hno, fun _ => ?_⟩
      exact ⟨s.client.buffer.length, handleHeartbeat_time hbeat⟩
  | none =>
      rw [hbeat] at h
      dsimp only at h
      cases hdata : s.client.handleData fb getpeername (input.outside s.client.buffer.length) with
      | error e =>
          rw [hdata] at h
          rcases h with h | h <;> cases h
      | ok r =>
          obtain ⟨message, client⟩ := r
          obtain ⟨htime, hmessage⟩ := handleData_time hdata
          rw [hdata] at h
          cases message with
          | none =>
              rcases h with h | h <;> cases h
              exact ⟨fun hno => htime.trans (hs.silent hno), fun hbeats =>
                (hs.beaten hbeats).imp fun _ hsize => htime.trans hsize⟩
          | some m =>
              rcases h with h | h <;> cases h
              have hm : Message.heartbeat ≠ m := fun heq => hmessage (heq ▸ rfl)
              have hmem : Message.heartbeat ∈ s.handled ++ [m] ↔ .heartbeat ∈ s.handled := by
                simp [hm]
              refine ⟨fun hno => ?_, fun hbeats => ?_⟩
              · exact htime.trans (hs.silent fun hbeats => hno (hmem.mpr hbeats))
              · obtain ⟨size, hsize⟩ := hs.beaten (hmem.mp hbeats)
                exact ⟨size, htime.trans hsize⟩

theorem handleIngoingData_time {client : Client} {input : Receive} {r : Ingoing}
    (h : handleIngoingData fb getpeername client input = .ok r) :
    (.heartbeat ∉ r.handled → r.client.heartbeatTime = client.heartbeatTime) ∧
      (.heartbeat ∈ r.handled → ∃ size, r.client.heartbeatTime = input.clock size) := by
  unfold handleIngoingData at h
  have hadd : ∀ (c : Client) (piece : List UInt8) (c' : Client),
      c.heartbeatTime = client.heartbeatTime →
      c.addToBuffer piece = .ok c' ∨ c.addToBuffer piece = .error c' →
      c'.heartbeatTime = client.heartbeatTime := by
    intro c piece c' hc hstep
    unfold Client.addToBuffer at hstep
    split_ifs at hstep <;> rcases hstep with hstep | hstep <;> cases hstep <;> exact hc
  cases hrun : StepRun.run Client.addToBuffer client input.pieces with
  | error thrower =>
      rw [hrun] at h
      cases h
      obtain ⟨pre, piece, post, c, -, hc, hthrow⟩ :=
        (StepRun.run_eq_error_iff client input.pieces thrower).mp hrun
      have hbefore := StepRun.run_invariant
        (I := fun c : Client => c.heartbeatTime = client.heartbeatTime)
        (fun a p b ha hb => hadd a p b ha (.inl hb)) rfl hc
      exact ⟨fun _ => hadd c piece thrower hbefore (.inr hthrow), by simp⟩
  | ok received =>
      have hreceived := StepRun.run_invariant
        (I := fun c : Client => c.heartbeatTime = client.heartbeatTime)
        (fun a p b ha hb => hadd a p b ha (.inl hb)) rfl hrun
      rw [hrun] at h
      dsimp only at h
      cases hdispatch : dispatch fb getpeername input ⟨received, []⟩ with
      | error e =>
          rw [hdispatch] at h
          cases h
      | ok s =>
          rw [hdispatch] at h
          cases h
          obtain ⟨t, hreach, hlast⟩ := (FuelLoop.run_eq_ok_iff
            (dispatchStep_decreases fb getpeername input) _ s).mp hdispatch
          have ht : t.Timed input.clock client.heartbeatTime := by
            apply FuelLoop.Reach.invariant _ hreach
            · exact ⟨fun _ => hreceived, by simp⟩
            · exact fun a b ha hstep => dispatchStep_timed ha (.inl hstep)
          have hs := dispatchStep_timed ht (.inr hlast)
          exact ⟨hs.silent, hs.beaten⟩

end

end VitaOxiPad.Server
