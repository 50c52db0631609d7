import VitaOxiPad.Server.Arrivals
import VitaOxiPad.Server.Bypasses
import VitaOxiPad.Server.Registrations
/-!
# Asking for the moment to answer

The handshake response is sent on `EPOLLOUT`, and after it the client is
registered without `EPOLLOUT`.  A handshake that comes after the response puts
the client back into `WaitingForServerConfirm`, and nothing asks for `EPOLLOUT`
again: the client is stranded.
-/

namespace VitaOxiPad.Server.NetThread

open NetProtocol

/-- The client waits for a response on a connection that has had its response. -/
def Stranded (s : NetThread) : Prop :=
  ∃ client, s.client = some client ∧ client.state = .waitingForServerConfirm ∧
    .responded client.sock ∈ s.trace

/-- The client's registration and state, by whether it has had its response. -/
structure Answering (s : NetThread) : Prop where
  fresh : ∀ sock, .responded sock ∈ s.trace → sock.serial < s.accepts
  registered : ∀ client, s.client = some client →
    epollSet s.trace (.client client.sock) =
      some (if .responded client.sock ∈ s.trace then reinitEvents else clientEvents)
  greeted : ∀ client, s.client = some client → .responded client.sock ∈ s.trace →
    client.state ≠ .waitingForHandshake
  connected : ∀ client, s.client = some client → client.state = .connected →
    .responded client.sock ∈ s.trace

/-- While the client waits for its response, epoll reports that it can be sent. -/
def Answerable (s : NetThread) : Prop :=
  ∀ client, s.client = some client → client.state = .waitingForServerConfirm →
    ∃ events, epollSet s.trace (.client client.sock) = some events ∧ events.epollout = true

theorem Answering.answerable_iff {s : NetThread} (h : Answering s) :
    Answerable s ↔ ¬ Stranded s := by
  constructor
  · rintro hanswer ⟨client, hclient, hstate, hresponded⟩
    obtain ⟨events, hevents, hout⟩ := hanswer client hclient hstate
    rw [h.registered client hclient, if_pos hresponded] at hevents
    cases hevents
    cases hout
  · intro hnot client hclient hstate
    refine ⟨clientEvents, ?_, rfl⟩
    rw [h.registered client hclient, if_neg]
    exact fun hresponded => hnot ⟨client, hclient, hstate, hresponded⟩

theorem answering_of_noClient {s : NetThread} (hclient : s.client = none)
    (hfresh : ∀ sock, .responded sock ∈ s.trace → sock.serial < s.accepts) : Answering s := by
  refine ⟨hfresh, ?_, ?_, ?_⟩ <;> intro client h <;> cases hclient.symm.trans h

theorem answering_initial (ctrl : CtrlState) (padData : SceCtrlData) :
    Answering (initial ctrl padData) :=
  answering_of_noClient rfl (by simp [initial])

/-! ## What each move does to the registration -/

/-- The effect neither answers a client nor changes a registration. -/
def KeepsRegistrations : Effect → Prop
  | .responded _ | .epollAdd _ _ | .epollMod _ _ | .epollDel _ => False
  | _ => True

theorem foldl_controlled_of_keeps {effects : List Effect}
    (h : ∀ e ∈ effects, KeepsRegistrations e) (set : EpollEntry → Option EpollEvents) :
    effects.foldl controlled set = set := by
  induction effects with
  | nil => rfl
  | cons e effects ih =>
      have he : controlled set e = set := by
        have hkeeps := h e (by simp)
        cases e <;> first | exact hkeeps.elim | rfl
      rw [List.foldl_cons, he, ih fun e' he' => h e' (by simp [he'])]

theorem Answering.of_keeps {s t : NetThread} (h : Answering s) (effects : List Effect)
    (htrace : t.trace = s.trace ++ effects) (hkeeps : ∀ e ∈ effects, KeepsRegistrations e)
    (haccepts : s.accepts ≤ t.accepts)
    (hclient : ∀ c', t.client = some c' → ∃ c, s.client = some c ∧ c'.sock = c.sock ∧
      (c'.state = c.state ∨ c'.state = .waitingForServerConfirm)) : Answering t := by
  have hset : epollSet t.trace = epollSet s.trace := by
    rw [htrace, epollSet_append, foldl_controlled_of_keeps hkeeps]
  have hresponded : ∀ sock, .responded sock ∈ t.trace ↔ .responded sock ∈ s.trace := by
    intro sock
    have hno : .responded sock ∉ effects := fun hmem => hkeeps _ hmem
    rw [htrace, List.mem_append, or_iff_left hno]
  refine ⟨?_, ?_, ?_, ?_⟩
  · intro sock hsock
    exact lt_of_lt_of_le (h.fresh sock ((hresponded sock).mp hsock)) haccepts
  · intro c' hc'
    obtain ⟨c, hc, hsock, -⟩ := hclient c' hc'
    simp only [hset, hsock, hresponded]
    exact h.registered c hc
  · intro c' hc' hmem
    obtain ⟨c, hc, hsock, hstate⟩ := hclient c' hc'
    rw [hresponded, hsock] at hmem
    rcases hstate with hstate | hstate
    · rw [hstate]
      exact h.greeted c hc hmem
    · simp [hstate]
  · intro c' hc' hconnected
    obtain ⟨c, hc, hsock, hstate⟩ := hclient c' hc'
    rw [hresponded, hsock]
    rcases hstate with hstate | hstate
    · exact h.connected c hc (hstate ▸ hconnected)
    · cases hconnected.symm.trans hstate

theorem Answering.addClient (P : Platform) {s : NetThread} (h : Answering s) (a : Accept) :
    Answering (s.addClient P a) := by
  unfold NetThread.addClient
  split_ifs
  · have hnew : .responded (s.nextSock a) ∉ s.trace :=
      fun hmem => lt_irrefl _ (h.fresh _ hmem)
    have hmem : ∀ sock, .responded sock ∈ s.trace ++ [.accepted (s.nextSock a),
        .epollAdd (s.nextSock a) clientEvents, .setEventFlag .pcConnect] ↔
          .responded sock ∈ s.trace := by simp
    refine ⟨?_, ?_, ?_, ?_⟩
    · exact fun sock hsock => Nat.lt_succ_of_lt (h.fresh sock ((hmem sock).mp hsock))
    · rintro client ⟨rfl⟩
      refine Eq.trans ?_ (congrArg some (if_neg (mt (hmem _).mp hnew)).symm)
      show epollSet (s.trace ++ _) (.client (s.nextSock a)) = some clientEvents
      rw [epollSet_append]
      exact Function.update_self ..
    · rintro client ⟨rfl⟩ hsock
      exact absurd ((hmem _).mp hsock) hnew
    · rintro client ⟨rfl⟩ hstate
      cases hstate
  · exact h

theorem Answering.respond {s : NetThread} (h : Answering s) {client : Client}
    (hclient : s.client = some client) (hsock : client.sock.serial < s.accepts) :
    Answering (s.answered client) := by
  have hmem : .responded client.sock ∈
      s.trace ++ [.responded client.sock, .epollMod client.sock reinitEvents] := by simp
  refine ⟨?_, ?_, ?_, ?_⟩
  · intro sock hresponded
    simp only [answered, emit, List.mem_append, List.mem_cons, List.not_mem_nil, or_false,
      reduceCtorEq, Effect.responded.injEq] at hresponded
    rcases hresponded with hresponded | rfl
    · exact h.fresh sock hresponded
    · exact hsock
  · rintro c ⟨rfl⟩
    refine Eq.trans ?_ (congrArg some (if_pos hmem).symm)
    show epollSet (s.trace ++ _) (.client client.sock) = some reinitEvents
    rw [epollSet_append]
    simp [controlled, h.registered client hclient]
  · rintro c ⟨rfl⟩ -
    simp
  · rintro c ⟨rfl⟩ -
    exact hmem

/-! ## Handshakes among the messages of an event -/

def isHandshake : Message → Bool
  | .handshake _ => true
  | .config _ | .heartbeat => false

theorem handle_state (getpeername : Socket → SockaddrIn) (now : UInt64) (client : Client)
    (message : Message) :
    (client.handle getpeername now message).state =
      if isHandshake message then .waitingForServerConfirm else client.state := by
  cases message with
  | handshake handshake => rfl
  | config config =>
      simp only [Client.handle, Client.handleConfig, isHandshake, Bool.false_eq_true, if_false]
      split_ifs <;> rfl
  | heartbeat => rfl

theorem foldl_handle_state (getpeername : Socket → SockaddrIn) (now : UInt64)
    (client : Client) (messages : List Message) :
    (messages.foldl (Client.handle getpeername now) client).state =
      if messages.any isHandshake then .waitingForServerConfirm else client.state := by
  induction messages generalizing client with
  | nil => rfl
  | cons message messages ih =>
      rw [List.foldl_cons, ih, handle_state, List.any_cons]
      cases isHandshake message <;> simp

theorem handleIngoingData_state {fb : Flatbuffers} {getpeername : Socket → SockaddrIn}
    {client : Client} {input : Receive} {r : Ingoing}
    (h : handleIngoingData fb getpeername client input = .ok r) :
    r.client.state =
      if r.handled.any isHandshake then .waitingForServerConfirm else client.state := by
  have hsettings := congrArg Client.state (handleIngoingData_settings h)
  rw [← foldl_handle_state getpeername 0]
  exact hsettings

theorem keepsRegistrations_of_isNotice {e : Effect} (h : e.IsNotice) : KeepsRegistrations e := by
  cases e <;> first | exact h.elim | trivial

theorem Answering.resetClient {s : NetThread} (h : Answering s) : Answering s.resetClient := by
  apply answering_of_noClient (resetClient_client s)
  unfold NetThread.resetClient
  cases s.client with
  | none => exact h.fresh
  | some client => simpa [emit] using h.fresh

theorem Answering.move {P : Platform} {s t : NetThread} (h : Answering s) (howned : Owned s)
    (hmove : Move P s t) : Answering t := by
  cases hmove with
  | quiet hclient haccepts htrace =>
      refine h.of_keeps [] (by rw [htrace, List.append_nil]) (by simp) haccepts.ge ?_
      intro c hc
      exact ⟨c, hclient ▸ hc, rfl, .inl rfl⟩
  | notices hnotices =>
      refine h.of_keeps _ rfl ?_ le_rfl fun c hc => ⟨c, hc, rfl, .inl rfl⟩
      exact fun e he => keepsRegistrations_of_isNotice (hnotices e he)
  | reset => exact h.resetClient
  | connect a hclient => exact h.addClient P a
  | refuse a hclient =>
      unfold NetThread.refuseClient
      split_ifs
      · refine h.of_keeps _ rfl ?_ (Nat.le_succ _) fun c hc => ⟨c, hc, rfl, .inl rfl⟩
        simp [KeepsRegistrations]
      · exact h
  | @receive client _ r hclient hr =>
      refine h.of_keeps _ rfl ?_ le_rfl ?_
      · intro e he
        obtain ⟨message, -, rfl⟩ := List.mem_map.mp he
        trivial
      · rintro c ⟨rfl⟩
        refine ⟨client, hclient, handleIngoingData_sock hr, ?_⟩
        rw [handleIngoingData_state hr]
        split_ifs <;> simp
  | @respond client hclient hstate =>
      have hopen := (howned.open_iff client.sock).mpr (by rw [clientSock, hclient, Option.map_some])
      exact h.respond hclient (howned.fresh _ (.inl hopen.1))
  | @sendPad client input hclient hstate =>
      refine h.of_keeps _ rfl ?_ le_rfl ?_
      · simp [KeepsRegistrations]
      · rintro c ⟨rfl⟩
        exact ⟨client, hclient, rfl, .inl rfl⟩

/-! ## Which steps strand a client -/

/-- A readable event in which a connected client sends a handshake and stays. -/
def Reshakes (P : Platform) (s : NetThread) : Input → Prop
  | .event input => Reads input ∧ ∃ client, s.client = some client ∧
      client.state = .connected ∧ client.HasRoom input.receive.pieces ∧
      ¬ (thrownFor input.receive.received).any Thrown.disconnects ∧
      ∃ handshake, Arrives P.flatbuffers input.receive.outside
        (client.buffer ++ input.receive.bytes) (.handshake handshake)
  | _ => False

theorem any_isHandshake_iff (messages : List Message) :
    messages.any isHandshake ↔ ∃ handshake, .handshake handshake ∈ messages := by
  rw [List.any_eq_true]
  constructor
  · rintro ⟨message, hmem, hm⟩
    cases message with
    | handshake handshake => exact ⟨handshake, hmem⟩
    | config config => cases hm
    | heartbeat => cases hm
  · rintro ⟨handshake, hmem⟩
    exact ⟨_, hmem, rfl⟩

theorem reshakes_iff {P : Platform} {s : NetThread} {input : EventInput} {client : Client}
    {r : Ingoing} (hreads : Reads input) (hclient : s.client = some client)
    (hr : handleIngoingData P.flatbuffers P.getpeername client input.receive = .ok r) :
    Reshakes P s (.event input) ↔ client.state = .connected ∧
      r.handled.any isHandshake ∧ ¬ r.thrown.any Thrown.disconnects := by
  have hreshakes : Reshakes P s (.event input) ↔ client.state = .connected ∧
      client.HasRoom input.receive.pieces ∧
        ¬ (thrownFor input.receive.received).any Thrown.disconnects ∧
          ∃ handshake, Arrives P.flatbuffers input.receive.outside
            (client.buffer ++ input.receive.bytes) (.handshake handshake) := by
    simp [Reshakes, hreads, hclient]
  rw [hreshakes, any_isHandshake_iff]
  by_cases hroom : client.HasRoom input.receive.pieces
  · obtain ⟨hmem, hthrown⟩ := handleIngoingData_of_hasRoom hroom hr
    simp only [hmem, hthrown, hroom, true_and, and_comm]
  · obtain ⟨hnone, -⟩ := handleIngoingData_of_overrun hroom hr
    simp [hnone, hroom]

theorem not_stranded_of_noClient {s : NetThread} (h : s.client = none) : ¬ Stranded s := by
  rintro ⟨client, hclient, -⟩
  cases h.symm.trans hclient

theorem not_stranded_disconnectClient (s : NetThread) : ¬ Stranded s.disconnectClient :=
  not_stranded_of_noClient (resetClient_client _)

theorem not_stranded_of_bypasses {s t : NetThread} (h : ¬ Stranded s)
    (hbypass : Bypasses s t) : ¬ Stranded t := by
  obtain ⟨effects, htrace, heffects⟩ := hbypass.trace
  rintro ⟨c', hc', hstate, hresponded⟩
  rcases hbypass.client c' hc' with ⟨c, hc, hsock, hsame⟩ | ⟨-, -, hnew⟩
  · have hno : .responded c.sock ∉ effects := fun hmem => heffects _ hmem
    rw [htrace, List.mem_append, hsock, or_iff_left hno] at hresponded
    exact h ⟨c, hc, hsame ▸ hstate, hresponded⟩
  · cases hstate.symm.trans hnew

theorem not_stranded_sendHandshakeResponse {P : Platform} {s t : NetThread} {client : Client}
    {sends : List Int32} (h : ¬ Stranded s)
    (hstep : s.sendHandshakeResponse P client sends = .ok t) : ¬ Stranded t := by
  obtain ⟨sent, pieces, -, ⟨-, rfl | rfl⟩ | ⟨-, rfl⟩⟩ := sendHandshakeResponse_ok hstep
  · exact not_stranded_disconnectClient _
  · rintro ⟨c, hc, hstate, hresponded⟩
    exact h ⟨c, hc, hstate, by simpa [emit] using hresponded⟩
  · rintro ⟨c, ⟨rfl⟩, hstate, -⟩
    cases hstate

/-- A client that is not stranded has had its response exactly if it is connected. -/
theorem responded_iff_connected {s : NetThread} {client : Client} (hanswering : Answering s)
    (h : ¬ Stranded s) (hclient : s.client = some client) :
    .responded client.sock ∈ s.trace ↔ client.state = .connected := by
  constructor
  · intro hmem
    have hgreeted := hanswering.greeted client hclient hmem
    cases hs : client.state with
    | waitingForHandshake => exact absurd hs hgreeted
    | waitingForServerConfirm => exact absurd ⟨client, hclient, hs, hmem⟩ h
    | connected => rfl
  · exact hanswering.connected client hclient

/-- A readable event strands the client exactly when a connected client sends a
handshake in it and stays. -/
theorem stranded_readable_iff {P : Platform} {s t : NetThread} {input : EventInput}
    {client : Client} (hanswering : Answering s) (h : ¬ Stranded s) (hreads : Reads input)
    (hclient : s.client = some client)
    (hstep : s.readable P client input.receive = .ok t) :
    Stranded t ↔ Reshakes P s (.event input) := by
  obtain ⟨r, hr, hend⟩ := readable_ok hstep
  rw [reshakes_iff hreads hclient hr]
  rcases hend with ⟨hthrown, rfl⟩ | ⟨hthrown, rfl⟩
  · simp [hthrown, not_stranded_disconnectClient]
  · have hsock := handleIngoingData_sock hr
    have hafter : Stranded (s.received client r) ↔
        r.client.state = .waitingForServerConfirm ∧ .responded client.sock ∈ s.trace := by
      simp [Stranded, received, emit, hsock]
    rw [hafter, responded_iff_connected hanswering h hclient, handleIngoingData_state hr]
    constructor
    · rintro ⟨hwaits, hconnected⟩
      simp only [hconnected, ite_eq_left_iff, reduceCtorEq, imp_false, not_not] at hwaits
      exact ⟨hconnected, hwaits, hthrown⟩
    · rintro ⟨hconnected, hany, -⟩
      exact ⟨if_pos hany, hconnected⟩

theorem stranded_step_iff {P : Platform} {s t : NetThread} {i : Input}
    (hanswering : Answering s) (h : ¬ Stranded s) (hstep : step P s i = .ok t) :
    Stranded t ↔ Reshakes P s i := by
  cases handshakeStep_of_step hstep with
  | bypass hbypass hreads =>
      have hno : ¬ Reshakes P s i := by
        cases i with
        | event input =>
            rintro ⟨hr, client, hclient, -⟩
            cases (hreads input rfl hr).symm.trans hclient
        | _ => exact id
      simp [hno, not_stranded_of_bypasses h hbypass]
  | receive hreads hclient hread => exact stranded_readable_iff hanswering h hreads hclient hread
  | @answer input _ _ hasks _ _ hsend =>
      have hno : ¬ Reshakes P s (.event input) := by
        rintro ⟨hr, -⟩
        cases hasks.2.2.1.symm.trans hr.2.2.1
      simp [hno, not_stranded_sendHandshakeResponse h hsend]

theorem owned_answering_step {P : Platform} {s t : NetThread} {i : Input}
    (h : Owned s ∧ Answering s) (hstep : step P s i = .ok t) : Owned t ∧ Answering t := by
  apply (step_moves (.inl hstep)).invariant _ h
  exact fun a b hab hmove => ⟨hab.1.move hmove, hab.2.move hab.1 hmove⟩

/-- Whenever the client waits for its response, epoll asks for the moment to send
it, exactly when no connected client sends another handshake and stays. -/
theorem handshakes_answerable_iff (P : Platform) (ctrl : CtrlState) (padData : SceCtrlData)
    (inputs : List Input) :
    (∀ done s, done <+: inputs → run P (initial ctrl padData) done = .ok s →
        ∀ client, s.client = some client → client.state = .waitingForServerConfirm →
          ∃ events, epollSet s.trace (.client client.sock) = some events ∧
            events.epollout = true) ↔
      ∀ done i s t, done ++ [i] <+: inputs → run P (initial ctrl padData) done = .ok s →
        step P s i = .ok t → ¬ Reshakes P s i := by
  have hinitial : (Owned (initial ctrl padData) ∧ Answering (initial ctrl padData)) ∧
      ¬ Stranded (initial ctrl padData) :=
    ⟨⟨owned_initial ctrl padData, answering_initial ctrl padData⟩,
      not_stranded_of_noClient rfl⟩
  apply StepRun.run_holds_iff (I := fun s => (Owned s ∧ Answering s) ∧ ¬ Stranded s)
    (Q := Answerable) _ _ _ hinitial
  · exact fun s hs => hs.1.2.answerable_iff.mpr hs.2
  · intro s i t hs hstep hgood
    have ht := owned_answering_step hs.1 hstep
    exact ⟨ht, (stranded_step_iff hs.1.2 hs.2 hstep).not.mpr hgood⟩
  · intro s i t hs hstep hanswer
    have ht := owned_answering_step hs.1 hstep
    exact (stranded_step_iff hs.1.2 hs.2 hstep).not.mp (ht.2.answerable_iff.mp hanswer)

def handshakeAgain : List Iteration :=
  Iteration.handshaking ++ [.instant 30000 true
    [{ EventInput.connect 0 with sockType := .client, receive := .wouldBlock handshakePacket }]]

theorem not_handshakes_answerable_again :
    ∃ s client, run .sample (initial .idle ⟨0, 0, 0, 0, 0, 0⟩)
        (handshakeAgain.flatMap Iteration.inputs) = .ok s ∧ s.client = some client ∧
      client.state = .waitingForServerConfirm ∧
      epollSet s.trace (.client client.sock) = some ⟨true, false, true, true⟩ := by
  have hend : ((run .sample (initial .idle ⟨0, 0, 0, 0, 0, 0⟩)
      (handshakeAgain.flatMap Iteration.inputs)).toOption.bind fun s => s.client.map fun client =>
        (client.state, epollSet s.trace (.client client.sock))) =
      some (.waitingForServerConfirm, some ⟨true, false, true, true⟩) := by decide +kernel
  obtain ⟨s, hrun, hs⟩ := StepRun.exists_ok_of_bind hend
  obtain ⟨client, hclient, hpair⟩ := Option.map_eq_some_iff.mp hs
  exact ⟨s, client, hrun, hclient, congrArg Prod.fst hpair, congrArg Prod.snd hpair⟩

end VitaOxiPad.Server.NetThread
