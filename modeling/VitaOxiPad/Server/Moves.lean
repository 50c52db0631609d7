import VitaOxiPad.Server.OptionalAccess
/-!
# What a step can do

Every step of the network thread is made of a few moves: notices to the system,
a client gained, refused or lost, messages handled, a handshake answered, a pad
sent.  What every move preserves, every run preserves, up to its end or to the
first use of an empty optional.
-/

namespace VitaOxiPad.Server

/-- The effect tells the system something and leaves every connection alone. -/
def Effect.IsNotice : Effect → Prop
  | setEventFlag _ | listening | sent _ _ => True
  | _ => False

/-- The effect names no connection at all. -/
def Effect.IsSignal : Effect → Prop
  | setEventFlag _ | listening => True
  | _ => False

namespace NetThread

variable (P : Platform)

def Reads (input : EventInput) : Prop :=
  input.events.epollhup = false ∧ input.events.epollerr = false ∧
    input.events.epollin = true ∧ input.sockType = .client

inductive Handling (s : NetThread) (input : EventInput) : NetThread → Prop
  | idle (hreads : Reads input → s.client = none)
      (hasks : AsksOut input → ∀ client, s.client = some client →
        client.state ≠ .waitingForServerConfirm) : Handling s input s
  | hangup (hreads : ¬ Reads input) (hasks : ¬ AsksOut input) :
      Handling s input s.disconnectClient
  | connect (hreads : ¬ Reads input) (hasks : ¬ AsksOut input) (hclient : s.client = none) :
      Handling s input (s.addClient P input.accept).announceClient
  | refuse {client : Client} (hreads : ¬ Reads input) (hasks : ¬ AsksOut input)
      (hclient : s.client = some client) :
      Handling s input (s.refuseClient input.accept).announceClient
  | receive {client : Client} {t : NetThread} (hreads : Reads input)
      (hclient : s.client = some client) (h : s.readable P client input.receive = .ok t) :
      Handling s input t
  | answer {client : Client} {t : NetThread} (hasks : AsksOut input)
      (hclient : s.client = some client) (hstate : client.state = .waitingForServerConfirm)
      (h : s.sendHandshakeResponse P client input.sends = .ok t) : Handling s input t

theorem handling_of_handleEvent {P : Platform} {s t : NetThread} {input : EventInput}
    (h : s.handleEvent P input = .ok t) : Handling P s input t := by
  unfold handleEvent at h
  split_ifs at h with hhup hin hout
  · have hopen : ¬ (input.events.epollhup = false ∧ input.events.epollerr = false) := by
      rintro ⟨hnohup, hnoerr⟩
      simp [hnohup, hnoerr] at hhup
    have hreads : ¬ Reads input := fun hr => hopen ⟨hr.1, hr.2.1⟩
    have hasks : ¬ AsksOut input := fun ha => hopen ⟨ha.1, ha.2.1⟩
    split at h <;> cases h
    · exact .hangup hreads hasks
    · exact .idle (fun hr => absurd hr hreads) (fun ha => absurd ha hasks)
  · have hasks : ¬ AsksOut input := by
      intro ha
      cases hin.symm.trans ha.2.2.1
    have hserver : input.sockType = .server → ¬ Reads input := by
      intro hsock hr
      cases hsock.symm.trans hr.2.2.2
    split at h
    next hsock hclient =>
      cases h
      exact .connect (hserver hsock) hasks hclient
    next client hsock hclient =>
      cases h
      exact .refuse (hserver hsock) hasks hclient
    next hsock hclient =>
      cases h
      exact .idle (fun _ => hclient) (fun ha => absurd ha hasks)
    next client hsock hclient =>
      simp only [Bool.or_eq_true, not_or, Bool.not_eq_true] at hhup
      exact .receive ⟨hhup.1, hhup.2, hin, hsock⟩ hclient h
  · have hreads : ¬ Reads input := fun hr => hin hr.2.2.1
    simp only [Bool.or_eq_true, not_or, Bool.not_eq_true] at hhup hin
    split at h
    next hsock =>
      cases h
      apply Handling.idle (fun hr => absurd hr hreads)
      intro ha
      cases hsock.symm.trans ha.2.2.2.2
    next => cases h
    next client hsock hclient =>
      split at h
      next hstate => exact .answer ⟨hhup.1, hhup.2, hin, hout, hsock⟩ hclient hstate h
      next hstate =>
        cases h
        apply Handling.idle (fun hr => absurd hr hreads)
        intro _ c hc
        cases hclient.symm.trans hc
        exact hstate
  · cases h
    exact .idle (fun hr => absurd hr.2.2.1 hin) (fun ha => absurd ha.2.2.2.1 hout)

/-! ## Relations that cover a step -/

/-- A preorder that covers what the thread does when the network's status changes: what no
connection sees, signals, and the loss of the client. -/
structure CoversStatus (R : NetThread → NetThread → Prop) : Prop where
  refl : ∀ s, R s s
  trans : ∀ {s t u}, R s t → R t u → R s u
  quiet : ∀ {s t : NetThread}, t.client = s.client → t.accepts = s.accepts →
    t.trace = s.trace → t.ctrl = s.ctrl → R s t
  signals : ∀ (s : NetThread) {effects : List Effect}, (∀ e ∈ effects, e.IsSignal) →
    R s (s.emit effects)
  reset : ∀ s : NetThread, R s s.resetClient

/-- It covers what an event does as well, except that it gains a client. -/
structure CoversEvents (R : NetThread → NetThread → Prop) : Prop extends CoversStatus R where
  sent : ∀ (s : NetThread) (sock : Socket) (pieces : List (List UInt8)),
    R s (s.emit (pieces.map (.sent sock)))
  refuse : ∀ {s : NetThread} (a : Accept), s.client ≠ none → R s (s.refuseClient a)
  receive : ∀ {s : NetThread} {client : Client} {input : Receive} {r : Ingoing},
    s.client = some client →
    handleIngoingData P.flatbuffers P.getpeername client input = .ok r →
    R s (s.received client r)
  respond : ∀ {s : NetThread} {client : Client}, s.client = some client →
    client.state = .waitingForServerConfirm →
    R s { s.emit [.responded client.sock, .epollMod client.sock reinitEvents] with
      client := some { client with state := .connected } }

section

variable {P : Platform} {R : NetThread → NetThread → Prop}

theorem CoversStatus.flag (hR : CoversStatus R) (s : NetThread) (event : MainEvent) :
    R s (s.emit [.setEventFlag event]) := by
  apply hR.signals
  intro e he
  rw [List.mem_singleton.mp he]
  trivial

theorem CoversStatus.disconnectClient (hR : CoversStatus R) (s : NetThread) :
    R s s.disconnectClient :=
  hR.trans (hR.flag s _) (hR.reset _)

theorem CoversStatus.announceClient (hR : CoversStatus R) (s : NetThread) :
    R s s.announceClient := by
  unfold NetThread.announceClient
  split
  · exact hR.refl s
  · exact hR.trans (hR.flag s _) (hR.quiet rfl rfl rfl rfl)

theorem CoversStatus.netStatus (hR : CoversStatus R) (s : NetThread) (states : List NetCtlState) :
    R s (s.netStatus states) := by
  have hpolled : R s (s.polled states) := hR.quiet rfl rfl rfl rfl
  rcases netStatus_cases s states with ⟨-, -, hnet⟩ | ⟨-, hnet⟩ | ⟨-, -, hnet⟩ <;> rw [hnet]
  · apply hR.trans hpolled (hR.signals _ _)
    intro e he
    simp only [List.mem_cons, List.not_mem_nil, or_false] at he
    rcases he with rfl | rfl <;> trivial
  · have hflag := hR.trans hpolled (hR.flag (s.polled states) .netDisconnect)
    exact hR.trans (hR.trans hflag (hR.reset _)) (hR.quiet rfl rfl rfl rfl)
  · exact hpolled

theorem CoversEvents.readable (hR : CoversEvents P R) {s t : NetThread} {client : Client}
    {input : Receive} (hclient : s.client = some client)
    (h : s.readable P client input = .ok t) : R s t := by
  obtain ⟨r, hr, hend⟩ := readable_ok h
  have hreceive : R s (s.received client r) := hR.receive hclient hr
  rcases hend with ⟨-, rfl⟩ | ⟨-, rfl⟩
  · exact hR.trans hreceive (hR.disconnectClient _)
  · exact hreceive

theorem CoversEvents.sendHandshakeResponse (hR : CoversEvents P R) {s t : NetThread}
    {client : Client} {sends : List Int32} (hclient : s.client = some client)
    (hstate : client.state = .waitingForServerConfirm)
    (h : s.sendHandshakeResponse P client sends = .ok t) : R s t := by
  obtain ⟨sent, pieces, -, hend⟩ := sendHandshakeResponse_ok h
  have hpieces := hR.sent s client.sock pieces
  rcases hend with ⟨-, rfl | rfl⟩ | ⟨-, rfl⟩
  · exact hR.trans hpieces (hR.disconnectClient _)
  · exact hpieces
  · exact hR.trans hpieces (hR.respond hclient hstate)

/-- The relation covers the event, or all of it that follows the gain of a client. -/
theorem CoversEvents.handleEvent (hR : CoversEvents P R) {s t : NetThread} {input : EventInput}
    (h : s.handleEvent P input = .ok t) :
    R s t ∨ (s.client = none ∧ R (s.addClient P input.accept) t) := by
  cases handling_of_handleEvent h with
  | idle => exact .inl (hR.refl s)
  | hangup => exact .inl (hR.disconnectClient s)
  | connect _ _ hclient => exact .inr ⟨hclient, hR.announceClient _⟩
  | refuse _ _ hclient =>
      have hpresent : s.client ≠ none := by simp [hclient]
      exact .inl (hR.trans (hR.refuse _ hpresent) (hR.announceClient _))
  | receive _ hclient h => exact .inl (hR.readable hclient h)
  | answer _ hclient hstate h => exact .inl (hR.sendHandshakeResponse hclient hstate h)

end

/-! ## Moves -/

inductive Move : NetThread → NetThread → Prop
  | quiet {s t : NetThread} (hclient : t.client = s.client) (haccepts : t.accepts = s.accepts)
      (htrace : t.trace = s.trace) : Move s t
  | notices {s : NetThread} {effects : List Effect} (h : ∀ e ∈ effects, e.IsNotice) :
      Move s (s.emit effects)
  | reset {s : NetThread} : Move s s.resetClient
  | connect {s : NetThread} (a : Accept) (hclient : s.client = none) : Move s (s.addClient P a)
  | refuse {s : NetThread} (a : Accept) (hclient : s.client ≠ none) : Move s (s.refuseClient a)
  | receive {s : NetThread} {client : Client} {input : Receive} {r : Ingoing}
      (hclient : s.client = some client)
      (hr : handleIngoingData P.flatbuffers P.getpeername client input = .ok r) :
      Move s { s.emit (r.handled.map (.handled client.sock)) with client := some r.client }
  | respond {s : NetThread} {client : Client} (hclient : s.client = some client)
      (hstate : client.state = .waitingForServerConfirm) :
      Move s { s.emit [.responded client.sock, .epollMod client.sock reinitEvents] with
        client := some { client with state := .connected } }
  | sendPad {s : NetThread} {client : Client} {input : SendInput}
      (hclient : s.client = some client) (hstate : client.state = .connected)
      (helapsed : client.isPollingTimeElapsed input.pollingClock = true)
      (hpadMode : input.padMode = true) :
      Move s { s.emit [.padSent (s.padSend P client input)] with
        client := some (client.updateSentDataTime input.sentDataClock) }

def Moves : NetThread → NetThread → Prop := Relation.ReflTransGen (Move P)

variable {P}

theorem Move.moves {s t : NetThread} (h : Move P s t) : Moves P s t :=
  Relation.ReflTransGen.single h

theorem Moves.trans {s t u : NetThread} (hst : Moves P s t) (htu : Moves P t u) : Moves P s u :=
  Relation.ReflTransGen.trans hst htu

theorem Moves.invariant {I : NetThread → Prop} (hmove : ∀ s t, I s → Move P s t → I t)
    {s t : NetThread} (h : Moves P s t) (hs : I s) : I t := by
  induction h with
  | refl => exact hs
  | tail _ hlast ih => exact hmove _ _ ih hlast

/-! ## The moves of each step -/

theorem moves_covers : CoversEvents P (Moves P) where
  refl _ := .refl
  trans := Moves.trans
  quiet hclient haccepts htrace _ := Move.moves (.quiet hclient haccepts htrace)
  signals s effects h := by
    apply Move.moves
    apply Move.notices
    intro e he
    have hsignal := h e he
    cases e <;> trivial
  reset _ := Move.moves .reset
  sent s sock pieces := by
    apply Move.moves
    apply Move.notices
    intro e he
    obtain ⟨piece, -, rfl⟩ := List.mem_map.mp he
    trivial
  refuse a hclient := Move.moves (.refuse a hclient)
  receive hclient hr := Move.moves (.receive hclient hr)
  respond hclient hstate := Move.moves (.respond hclient hstate)

/-- The step succeeds in the state, or uses an empty optional there. -/
def EndsIn (result : Except Stop NetThread) (t : NetThread) : Prop :=
  result = .ok t ∨ ∃ site, result = .error (.emptyClient site t)

theorem endsIn_ok_iff {s t : NetThread} : EndsIn (.ok s) t ↔ t = s := by
  unfold EndsIn
  simp [eq_comm]

theorem moves_handleEvent {s t : NetThread} {input : EventInput}
    (h : s.handleEvent P input = .ok t) : Moves P s t := by
  rcases moves_covers.handleEvent h with hmoves | ⟨hclient, hmoves⟩
  · exact hmoves
  · exact (Move.moves (.connect _ hclient)).trans hmoves

/-- An event that uses an empty optional has done nothing before. -/
theorem handleEvent_emptyClient {s t : NetThread} {input : EventInput} {site : Site}
    (h : s.handleEvent P input = .error (.emptyClient site t)) : t = s := by
  unfold handleEvent at h
  split_ifs at h
  · split at h <;> cases h
  · split at h
    · cases h
    · cases h
    · cases h
    · exact absurd h (readable_ne_emptyClient P s t _ _ site)
  · split at h
    · cases h
    · cases h
      rfl
    · split at h
      · exact absurd h (sendHandshakeResponse_ne_emptyClient P s t _ _ site)
      · cases h

theorem moves_sendPad {s : NetThread} {client : Client} (hclient : s.client = some client)
    (input : SendInput) : Moves P s (s.sendPad P client input) := by
  unfold sendPad
  split_ifs with hsend hfd hfailed
  · exact Move.moves (.sendPad hclient hsend.1 hsend.2.1 hsend.2.2)
  · exact (Move.moves (.sendPad hclient hsend.1 hsend.2.1 hsend.2.2)).trans
      (Move.moves (.quiet rfl rfl rfl))
  · exact .refl
  · exact Move.moves (.quiet rfl rfl rfl)

theorem finish_ends {s t : NetThread} {input : SendInput} (h : EndsIn (s.finish P input) t) :
    t = s ∨ t = s.disconnectClient ∨
      ∃ client, s.client = some client ∧ t = s.sendPad P client input := by
  rcases h with hok | ⟨site, herr⟩
  · rcases finish_cases hok with ⟨-, rfl⟩ | ⟨client, hclient, -, rfl⟩
    · exact .inl rfl
    · exact .inr (.inr ⟨client, hclient, rfl⟩)
  · right; left
    unfold finish at herr
    cases hclient : s.client with
    | none =>
        rw [hclient] at herr
        cases herr
    | some client =>
        rw [hclient] at herr
        dsimp only at herr
        by_cases hlate : maxHeartbeatInterval <
            client.timeSinceLastHeartbeat input.heartbeatClock
        · rw [checkHeartbeat, if_pos hlate, disconnectClient, resetClient_client] at herr
          cases herr
          rfl
        · rw [checkHeartbeat, if_neg hlate, hclient] at herr
          cases herr

theorem moves_finish {s t : NetThread} {input : SendInput}
    (h : EndsIn (s.finish P input) t) : Moves P s t := by
  rcases finish_ends h with rfl | rfl | ⟨client, hclient, rfl⟩
  · exact .refl
  · exact moves_covers.disconnectClient s
  · exact moves_sendPad hclient input

theorem step_moves {s t : NetThread} {i : Input} (h : EndsIn (step P s i) t) :
    Moves P s t := by
  cases i with
  | ctrl read =>
      simp only [step, readCtrl] at h
      split at h
      · rcases h with h | ⟨site, h⟩ <;> cases h
      · rw [endsIn_ok_iff.mp h]
        exact Move.moves (.quiet rfl rfl rfl)
  | netStatus states =>
      rw [endsIn_ok_iff.mp h]
      exact moves_covers.netStatus s states
  | event input =>
      rcases h with h | ⟨site, h⟩
      · exact moves_handleEvent h
      · rw [handleEvent_emptyClient h]
        exact .refl
  | send input => exact moves_finish h

/-- A run is made of moves, up to its end or the first use of an empty optional. -/
theorem run_moves {s₀ t : NetThread} {inputs : List Input}
    (h : EndsIn (run P s₀ inputs) t) : Moves P s₀ t := by
  have hok : ∀ {is : List Input} {s : NetThread}, run P s₀ is = .ok s → Moves P s₀ s := by
    intro is s hrun
    apply StepRun.run_invariant (I := Moves P s₀) _ .refl hrun
    exact fun a i b ha hb => ha.trans (step_moves (Or.inl hb))
  rcases h with h | ⟨site, h⟩
  · exact hok h
  · obtain ⟨pre, i, post, s, -, hpre, hstep⟩ := (StepRun.run_eq_error_iff s₀ inputs _).mp h
    exact (hok hpre).trans (step_moves (Or.inr ⟨site, hstep⟩))

/-! ## What no move takes back -/

theorem Move.trace_prefix {s t : NetThread} (h : Move P s t) : s.trace <+: t.trace := by
  cases h with
  | quiet _ _ htrace => rw [htrace]
  | notices => exact List.prefix_append _ _
  | reset =>
      unfold resetClient
      split
      · exact List.prefix_refl _
      · exact List.prefix_append _ _
  | connect a _ =>
      unfold addClient
      split_ifs
      · exact List.prefix_append _ _
      · exact List.prefix_refl _
  | refuse a _ =>
      unfold refuseClient
      split_ifs
      · exact List.prefix_append _ _
      · exact List.prefix_refl _
  | receive => exact List.prefix_append _ _
  | respond => exact List.prefix_append _ _
  | sendPad => exact List.prefix_append _ _

theorem Move.accepts_le {s t : NetThread} (h : Move P s t) : s.accepts ≤ t.accepts := by
  cases h with
  | quiet _ haccepts _ => exact haccepts.ge
  | reset =>
      unfold resetClient
      split <;> exact le_rfl
  | connect a _ =>
      unfold addClient
      split_ifs
      · exact Nat.le_succ _
      · exact le_rfl
  | refuse a _ =>
      unfold refuseClient
      split_ifs
      · exact Nat.le_succ _
      · exact le_rfl
  | notices _ => exact le_refl s.accepts
  | receive _ _ => exact le_refl s.accepts
  | respond _ _ => exact le_refl s.accepts
  | sendPad _ _ _ _ => exact le_refl s.accepts

theorem Moves.trace_prefix {s t : NetThread} (h : Moves P s t) : s.trace <+: t.trace :=
  h.invariant (I := fun u => s.trace <+: u.trace)
    (fun _ _ hs hmove => List.IsPrefix.trans hs hmove.trace_prefix) (List.prefix_refl _)

theorem Moves.accepts_le {s t : NetThread} (h : Moves P s t) : s.accepts ≤ t.accepts :=
  h.invariant (I := fun u => s.accepts ≤ u.accepts)
    (fun _ _ hs hmove => hs.trans hmove.accepts_le) le_rfl

theorem step_trace_prefix {s t : NetThread} {i : Input} (h : step P s i = .ok t) :
    s.trace <+: t.trace := Moves.trace_prefix (step_moves (.inl h))

theorem step_accepts_le {s t : NetThread} {i : Input} (h : step P s i = .ok t) :
    s.accepts ≤ t.accepts := (step_moves (.inl h)).accepts_le

end NetThread

end VitaOxiPad.Server
