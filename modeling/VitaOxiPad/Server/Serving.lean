import VitaOxiPad.Lib.Pacer
import VitaOxiPad.Server.Answers
import VitaOxiPad.Server.PollingInterval
import VitaOxiPad.Server.Settings
/-!
# A client that is served

Once its handshake has been answered, a client stays connected until it shakes hands again
or is dropped.  In pad mode the end of each iteration is a check of its polling time.
-/

namespace VitaOxiPad.Server

def handshakesOn (sock : Socket) (trace : List Effect) : Nat :=
  (handledOn sock trace).countP NetThread.isHandshake

theorem handshakesOn_append (sock : Socket) (trace effects : List Effect) :
    handshakesOn sock (trace ++ effects) = handshakesOn sock trace + handshakesOn sock effects := by
  rw [handshakesOn, handledOn_append, List.countP_append]
  rfl

theorem handshakesOn_mono {sock : Socket} {trace trace' : List Effect} (h : trace <+: trace') :
    handshakesOn sock trace ≤ handshakesOn sock trace' := by
  obtain ⟨effects, rfl⟩ := h
  rw [handshakesOn_append]
  exact Nat.le_add_right _ _

def SendInput.check (input : SendInput) : Pacer.Check Nat :=
  ⟨input.pollingClock.toNat, input.sentDataClock.toNat⟩

namespace NetThread

/-- The connection's client is connected, unless there has been another handshake on it. -/
structure Serving (sock : Socket) (count : Nat) (s : NetThread) : Prop where
  accepted : sock.serial < s.accepts
  count_le : count ≤ handshakesOn sock s.trace
  connected : ∀ client, s.client = some client → client.sock = sock →
    client.state = .connected ∨ count < handshakesOn sock s.trace

variable {P : Platform} {sock : Socket} {count : Nat} {s t : NetThread}

/-- It is enough that a client of the connection was there before, in the same state. -/
theorem Serving.later (h : Serving sock count s) (haccepts : s.accepts ≤ t.accepts)
    (htrace : s.trace <+: t.trace)
    (hclient : ∀ c', t.client = some c' → c'.sock = sock →
      ∃ c, s.client = some c ∧ c.sock = sock ∧ c'.state = c.state) : Serving sock count t where
  accepted := h.accepted.trans_le haccepts
  count_le := h.count_le.trans (handshakesOn_mono htrace)
  connected c' hc' hsock := by
    obtain ⟨c, hc, hcsock, hstate⟩ := hclient c' hc' hsock
    rw [hstate]
    exact (h.connected c hc hcsock).imp_right fun hlt => hlt.trans_le (handshakesOn_mono htrace)

theorem Serving.receive (h : Serving sock count s) {client : Client} {input : Receive} {r : Ingoing}
    (hclient : s.client = some client)
    (hr : handleIngoingData P.flatbuffers P.getpeername client input = .ok r)
    (ht : t = { s.emit (r.handled.map (.handled client.sock)) with client := some r.client }) :
    Serving sock count t := by
  subst ht
  have htrace := handshakesOn_append sock s.trace (r.handled.map (.handled client.sock))
  refine ⟨h.accepted, h.count_le.trans (htrace ▸ Nat.le_add_right _ _), ?_⟩
  rintro c' ⟨⟩ hsock
  rw [handleIngoingData_sock hr] at hsock
  show _ ∨ count < handshakesOn sock (s.trace ++ r.handled.map (.handled client.sock))
  rw [htrace, handleIngoingData_state hr]
  split_ifs with hagain
  · right
    have hmore : 0 < handshakesOn sock (r.handled.map (.handled client.sock)) := by
      rw [hsock, handshakesOn, handledOn_handled, List.countP_pos_iff]
      exact List.any_eq_true.mp hagain
    exact h.count_le.trans_lt (Nat.lt_add_of_pos_right hmore)
  · exact (h.connected client hclient hsock).imp_right fun hlt => Nat.lt_add_right _ hlt

theorem Serving.move (h : Serving sock count s) (hmove : Move P s t) : Serving sock count t := by
  have haccepts := hmove.accepts_le
  have htrace := hmove.trace_prefix
  have hsame : t.client = s.client → Serving sock count t := fun hclient =>
    h.later haccepts htrace fun c' hc' hsock => ⟨c', hclient ▸ hc', hsock, rfl⟩
  cases hmove with
  | quiet hclient _ _ => exact hsame hclient
  | notices _ => exact hsame rfl
  | reset =>
      apply h.later haccepts htrace
      intro c' hc'
      rw [resetClient_client] at hc'
      cases hc'
  | connect a hclient =>
      unfold addClient at haccepts htrace hsame ⊢
      split_ifs at haccepts htrace hsame ⊢
      · apply h.later haccepts htrace
        rintro c' ⟨⟩ hsock
        have hold := h.accepted
        rw [← hsock] at hold
        exact absurd hold (Nat.lt_irrefl s.accepts)
      · exact hsame rfl
  | refuse a _ =>
      unfold refuseClient at haccepts htrace hsame ⊢
      split_ifs at haccepts htrace hsame ⊢
      · exact hsame rfl
      · exact hsame rfl
  | receive hclient hr => exact h.receive hclient hr rfl
  | respond hclient _ =>
      refine ⟨h.accepted, h.count_le.trans (handshakesOn_mono htrace), ?_⟩
      rintro c' ⟨⟩ -
      exact .inl rfl
  | @sendPad client input hclient _ _ _ =>
      apply h.later haccepts htrace
      rintro c' ⟨⟩ hsock
      exact ⟨client, hclient, hsock, rfl⟩

theorem Serving.step (h : Serving sock count s) {i : Input} (hstep : step P s i = .ok t) :
    Serving sock count t :=
  (step_moves (.inl hstep)).invariant (fun _ _ hu hmove => hu.move hmove) h

/-! ## The time of a connection's last pad -/

/-- A client of the connection was there before the step, and only the end of an iteration
changes the time of its last pad. -/
theorem client_before (haccepted : sock.serial < s.accepts) {i : Input}
    (hstep : step P s i = .ok t) {c' : Client} (hc' : t.client = some c') (hsock : c'.sock = sock) :
    ∃ c, s.client = some c ∧ c.sock = sock ∧ ((∀ input, i ≠ .send input) →
      c'.sentDataTime = c.sentDataTime ∧ pads t.trace = pads s.trace) := by
  have hkept : KeepsPace s t → pads t.trace = pads s.trace →
      ∃ c, s.client = some c ∧ c.sock = sock ∧ ((∀ input, i ≠ .send input) →
        c'.sentDataTime = c.sentDataTime ∧ pads t.trace = pads s.trace) := by
    intro hpace hpads
    obtain ⟨c, hc, hsame⟩ := hpace.client c' hc'
    exact ⟨c, hc, hsame.sock.symm.trans hsock, fun _ => ⟨hsame.sentDataTime, hpads⟩⟩
  cases i with
  | ctrl read =>
      obtain ⟨hclient, htrace, haccepts, -⟩ := readCtrl_client hstep
      exact hkept (.of_same hclient haccepts.ge) (by rw [htrace])
  | netStatus states =>
      cases hstep
      have hpads := ((keepsPads_covers P).netStatus s states).pads
      exact hkept ((keepsPace_covers P).netStatus s states) hpads
  | event input =>
      have hpads := (keepsPads_handleEvent hstep).pads
      rcases (keepsPace_covers P).handleEvent hstep with hpace | ⟨hnone, hpace⟩
      · exact hkept hpace hpads
      · obtain ⟨c, hc, hsame⟩ := hpace.client c' hc'
        unfold addClient at hc
        split_ifs at hc
        · cases hc
          rw [hsame.sock] at hsock
          rw [← hsock] at haccepted
          exact absurd haccepted (Nat.lt_irrefl s.accepts)
        · rw [hnone] at hc
          cases hc
  | send input =>
      rcases finish_cases hstep with ⟨hnone, rfl⟩ | ⟨client, hclient, -, rfl⟩
      · rw [hnone] at hc'
        cases hc'
      · refine ⟨client, hclient, ?_, fun h => absurd rfl (h input)⟩
        rw [← hsock]
        unfold sendPad storeTimeout at hc'
        split_ifs at hc'
        · cases hc'
          rfl
        · cases hc'
          rfl
        · rw [hclient] at hc'
          cases hc'
          rfl
        · rw [show s.client = some c' from hc'] at hclient
          cases hclient
          rfl

/-- A clock that has not gone back shows exactly whether a pad is due. -/
theorem isPollingTimeElapsed_iff {client : Client} {clock : UInt64}
    (hbefore : client.sentDataTime.toNat ≤ clock.toNat) :
    client.isPollingTimeElapsed clock = true ↔
      client.sentDataTime.toNat + client.pollingTime.toNat < clock.toNat := by
  refine ⟨elapsed_of_isPollingTimeElapsed hbefore, fun hlt => decide_eq_true ?_⟩
  rw [Client.timeSinceLastSentData, UInt64.lt_iff_toNat_lt,
    UInt64.toNat_sub_of_le _ _ (UInt64.le_iff_toNat_le.mpr hbefore)]
  omega

theorem sendPad_of_due (hudp : 0 ≤ P.serverUdpFd) {client : Client} {input : SendInput}
    (hstate : client.state = .connected)
    (helapsed : client.isPollingTimeElapsed input.pollingClock = true)
    (hmode : input.padMode = true) :
    (s.sendPad P client input).client = some (client.updateSentDataTime input.sentDataClock) ∧
      (s.sendPad P client input).trace = s.trace ++ [.padSent (s.padSend P client input)] := by
  unfold sendPad storeTimeout
  rw [if_pos ⟨hstate, helapsed, hmode⟩, if_pos hudp]
  dsimp only
  split_ifs
  · exact ⟨rfl, rfl⟩
  · exact ⟨rfl, rfl⟩

theorem sendPad_of_early {client : Client} {input : SendInput}
    (hearly : ¬ client.isPollingTimeElapsed input.pollingClock = true) :
    (s.sendPad P client input).client = s.client ∧
      (s.sendPad P client input).trace = s.trace := by
  unfold sendPad storeTimeout
  rw [if_neg fun h => hearly h.2.1]
  exact ⟨rfl, rfl⟩

/-- In pad mode the end of an iteration sends the connected client a pad when it is due. -/
theorem finish_paces (hudp : 0 ≤ P.serverUdpFd) {input : SendInput} (hmode : input.padMode = true)
    {client : Client} (hclient : s.client = some client) (hstate : client.state = .connected)
    (hbefore : client.sentDataTime.toNat ≤ input.pollingClock.toNat)
    (hfinish : s.finish P input = .ok t) {c' : Client} (hc' : t.client = some c') :
    c'.sentDataTime.toNat =
        Pacer.after client.pollingTime.toNat client.sentDataTime.toNat [input.check] ∧
      ∃ new, padsTo client.sock t.trace = padsTo client.sock s.trace ++ new ∧
        new.map (fun send => send.sentDataTime.toNat) =
          Pacer.times client.pollingTime.toNat client.sentDataTime.toNat [input.check] := by
  have hdue := isPollingTimeElapsed_iff hbefore
  rcases finish_cases hfinish with ⟨hnone, -⟩ | ⟨c, hc, -, rfl⟩
  · rw [hnone] at hclient
    cases hclient
  · rw [hclient] at hc
    cases hc
    by_cases helapsed : client.isPollingTimeElapsed input.pollingClock = true
    · obtain ⟨hsent, htrace⟩ := sendPad_of_due (s := s) hudp hstate helapsed hmode
      rw [hsent] at hc'
      cases hc'
      have hlate := hdue.mp helapsed
      have hpads := padsTo_concat client.sock s.trace (s.padSend P client input)
      rw [if_pos (show (s.padSend P client input).sock = client.sock from rfl)] at hpads
      rw [htrace, Pacer.after_singleton_of_due hlate, Pacer.times_singleton_of_due hlate]
      exact ⟨rfl, _, hpads, rfl⟩
    · obtain ⟨hsame, htrace⟩ := sendPad_of_early (P := P) (s := s) helapsed
      rw [hsame, hclient] at hc'
      cases hc'
      have hearly := fun hlt => helapsed (hdue.mpr hlt)
      rw [htrace, Pacer.after_singleton_of_early hearly, Pacer.times_singleton_of_early hearly]
      exact ⟨rfl, [], (List.append_nil _).symm, rfl⟩

end NetThread

end VitaOxiPad.Server
