import VitaOxiPad.Server.PollingInterval
/-!
# The settings of a session

A client's polling time and the address of its pads are what the messages handled on its
connection have asked for: the last polling interval that is longer than the default, and
the port of the last handshake.  So are those with which each pad is sent.
-/

namespace VitaOxiPad.Server

open NetProtocol

/-- A polling interval that is taken. -/
def Message.interval : Message → Option UInt64
  | .config args =>
      if minPollingIntervalMicros.toUInt64 < args.pollingInterval then some args.pollingInterval
      else none
  | _ => none

def Message.padPort : Message → Option UInt16
  | .handshake args => some args.port
  | _ => none

def pollingTimeFor (messages : List Message) : UInt64 :=
  (messages.filterMap Message.interval).getLastD minPollingIntervalMicros.toUInt64

def padAddrFor (peer : SockaddrIn) (messages : List Message) : Option SockaddrIn :=
  (messages.filterMap Message.padPort).getLast?.map fun port =>
    { peer with sinPort := sceNetHtons port }

def Effect.handledOn (sock : Socket) : Effect → Option Message
  | .handled sock' message => if sock' = sock then some message else none
  | _ => none

def handledOn (sock : Socket) (trace : List Effect) : List Message :=
  trace.filterMap (Effect.handledOn sock)

theorem handledOn_append (sock : Socket) (trace effects : List Effect) :
    handledOn sock (trace ++ effects) = handledOn sock trace ++ handledOn sock effects :=
  List.filterMap_append

theorem handledOn_handled (sock : Socket) (messages : List Message) :
    handledOn sock (messages.map (.handled sock)) = messages := by
  induction messages with
  | nil => rfl
  | cons message messages ih =>
      have hfirst : Effect.handledOn sock (.handled sock message) = some message := if_pos rfl
      rw [handledOn, List.map_cons, List.filterMap_cons_some hfirst]
      exact congrArg (message :: ·) ih

/-! ## One message -/

structure Client.Configured (client : Client) (messages : List Message) : Prop where
  pollingTime : client.pollingTime = pollingTimeFor messages
  dataConnInfo : client.dataConnInfo = padAddrFor client.sock.peer messages

theorem pollingTimeFor_concat (messages : List Message) (message : Message) :
    pollingTimeFor (messages ++ [message]) =
      (message.interval).getD (pollingTimeFor messages) := by
  unfold pollingTimeFor
  rw [List.filterMap_append]
  cases h : message.interval with
  | none => rw [List.filterMap_cons_none h, List.filterMap_nil, List.append_nil, Option.getD_none]
  | some interval =>
      rw [List.filterMap_cons_some h, List.filterMap_nil, List.getLastD_concat, Option.getD_some]

theorem padAddrFor_concat (peer : SockaddrIn) (messages : List Message) (message : Message) :
    padAddrFor peer (messages ++ [message]) =
      message.padPort.elim (padAddrFor peer messages) fun port =>
        some { peer with sinPort := sceNetHtons port } := by
  unfold padAddrFor
  rw [List.filterMap_append]
  cases h : message.padPort with
  | none => rw [List.filterMap_cons_none h, List.filterMap_nil, List.append_nil, Option.elim_none]
  | some port =>
      rw [List.filterMap_cons_some h, List.filterMap_nil, List.getLast?_concat]
      rfl

theorem Client.Configured.handle {getpeername : Socket → SockaddrIn}
    (hpeer : ∀ sock, getpeername sock = sock.peer) {client : Client} {messages : List Message}
    (h : client.Configured messages) (message : Message) :
    (client.handle getpeername 0 message).Configured (messages ++ [message]) := by
  refine ⟨?_, ?_⟩
  · rw [pollingTimeFor_concat, ← h.pollingTime]
    cases message with
    | handshake handshake => rfl
    | config config =>
        simp only [Client.handle, Client.handleConfig, Message.interval]
        split_ifs <;> rfl
    | heartbeat => rfl
  · rw [padAddrFor_concat, handle_sock, ← h.dataConnInfo]
    cases message with
    | handshake handshake =>
        simp only [Client.handle, Client.handleHandshake, Message.padPort, hpeer,
          Option.elim_some]
    | config config =>
        simp only [Client.handle, Client.handleConfig, Message.padPort, Option.elim_none]
        split_ifs <;> rfl
    | heartbeat => rfl

theorem Client.Configured.foldl {getpeername : Socket → SockaddrIn}
    (hpeer : ∀ sock, getpeername sock = sock.peer) {client : Client} {messages : List Message}
    (h : client.Configured messages) (more : List Message) :
    (more.foldl (Client.handle getpeername 0) client).Configured (messages ++ more) := by
  induction more generalizing client messages with
  | nil => rwa [List.append_nil]
  | cons message more ih =>
      have hmore := ih (h.handle hpeer message)
      rwa [List.append_assoc, List.singleton_append] at hmore

theorem Client.Configured.of_fields {client client' : Client} {messages : List Message}
    (h : client.Configured messages) (hsock : client'.sock = client.sock)
    (htime : client'.pollingTime = client.pollingTime)
    (hinfo : client'.dataConnInfo = client.dataConnInfo) : client'.Configured messages where
  pollingTime := htime.trans h.pollingTime
  dataConnInfo := by rw [hinfo, hsock, h.dataConnInfo]

theorem Client.Configured.of_settings {client client' : Client} {messages : List Message}
    (h : client.Configured messages) (hsettings : client'.settings = client.settings) :
    client'.Configured messages := by
  have hsock := congrArg Client.sock hsettings
  have htime := congrArg Client.pollingTime hsettings
  have hinfo := congrArg Client.dataConnInfo hsettings
  exact h.of_fields hsock htime hinfo

namespace NetThread

/-! ## Runs -/

/-- A pad is sent with the settings that the messages before it ask for. -/
def padSettings : Monitor (List Effect) Effect :=
  .ofHistory fun before e =>
    match e with
    | .padSent send => send.pollingTime = pollingTimeFor (handledOn send.sock before) ∧
        send.clientAddr = padAddrFor send.sock.peer (handledOn send.sock before)
    | _ => True

structure Settled (s : NetThread) : Prop where
  serials : ∀ sock message, .handled sock message ∈ s.trace → sock.serial < s.accepts
  fresh : ∀ client, s.client = some client → client.sock.serial < s.accepts
  configured : ∀ client, s.client = some client →
    client.Configured (handledOn client.sock s.trace)
  pads : padSettings.Accepts [] s.trace

theorem Settled.of_plain {s t : NetThread} (h : Settled s) {effects : List Effect}
    (htrace : t.trace = s.trace ++ effects)
    (hplain : ∀ e ∈ effects, (∀ sock, e.handledOn sock = none) ∧ padOf e = none)
    (haccepts : s.accepts ≤ t.accepts)
    (hclient : ∀ client, t.client = some client → client.sock.serial < t.accepts ∧
      client.Configured (handledOn client.sock s.trace)) : Settled t where
  serials sock message hmem := by
    rw [htrace, List.mem_append] at hmem
    rcases hmem with hold | hnew
    · exact (h.serials sock message hold).trans_le haccepts
    · have hnone := (hplain _ hnew).1 sock
      rw [Effect.handledOn, if_pos rfl] at hnone
      cases hnone
  fresh client hc := (hclient client hc).1
  configured client hc := by
    have hno : handledOn client.sock effects = [] := by
      rw [handledOn, List.filterMap_eq_nil_iff]
      exact fun e he => (hplain e he).1 _
    rw [htrace, handledOn_append, hno, List.append_nil]
    exact (hclient client hc).2
  pads := by
    rw [htrace, Monitor.accepts_append]
    refine ⟨h.pads, Monitor.accepts_of_forall _ (fun e he history => ?_) _⟩
    cases e with
    | padSent send => cases (hplain _ he).2
    | _ => trivial

section

variable {P : Platform} {s : NetThread}

theorem Settled.client (h : Settled s) {client : Client} (hclient : s.client = some client) :
    client.sock.serial < s.accepts ∧ client.Configured (handledOn client.sock s.trace) :=
  ⟨h.fresh client hclient, h.configured client hclient⟩

theorem Settled.same {t : NetThread} (h : Settled s) (hclient : t.client = s.client)
    (haccepts : t.accepts = s.accepts) {effects : List Effect}
    (htrace : t.trace = s.trace ++ effects)
    (hplain : ∀ e ∈ effects, (∀ sock, e.handledOn sock = none) ∧ padOf e = none) :
    Settled t := by
  apply h.of_plain htrace hplain haccepts.ge
  intro client hc
  rw [hclient] at hc
  rw [haccepts]
  exact h.client hc

theorem Settled.resetClient (h : Settled s) : Settled s.resetClient := by
  unfold NetThread.resetClient
  split
  · exact h
  · exact h.of_plain rfl (by simp [Effect.handledOn, padOf]) le_rfl (by simp)

theorem Settled.addClient (h : Settled s) (a : Accept) : Settled (s.addClient P a) := by
  unfold NetThread.addClient
  split_ifs
  · apply h.of_plain rfl (by simp [Effect.handledOn, padOf]) (Nat.le_succ _)
    rintro client ⟨⟩
    have hnone : handledOn ⟨s.accepts, a.fd, a.peer⟩ s.trace = [] := by
      rw [handledOn, List.filterMap_eq_nil_iff]
      intro e he
      cases e with
      | handled sock message =>
          apply if_neg
          rintro rfl
          exact lt_irrefl _ (h.serials _ message he)
      | _ => rfl
    refine ⟨Nat.lt_succ_self _, ?_⟩
    show Client.Configured _ (handledOn ⟨s.accepts, a.fd, a.peer⟩ s.trace)
    rw [hnone]
    exact ⟨rfl, rfl⟩
  · exact h

theorem Settled.receive (hpeer : ∀ sock, P.getpeername sock = sock.peer) (h : Settled s)
    {client : Client} (hclient : s.client = some client) {input : Receive} {r : Ingoing}
    (hr : handleIngoingData P.flatbuffers P.getpeername client input = .ok r) :
    Settled (s.received client r) where
  serials sock message hmem := by
    rw [received, emit, List.mem_append, List.mem_map] at hmem
    rcases hmem with hold | ⟨m, -, hm⟩
    · exact h.serials sock message hold
    · cases hm
      exact h.fresh client hclient
  fresh c hc := by
    cases hc
    rw [handleIngoingData_sock hr]
    exact h.fresh client hclient
  configured c hc := by
    cases hc
    have hfold := (h.configured client hclient).foldl hpeer r.handled
    have hafter := hfold.of_settings (handleIngoingData_settings hr)
    rw [handleIngoingData_sock hr]
    show Client.Configured _
      (handledOn client.sock (s.trace ++ r.handled.map (.handled client.sock)))
    rw [handledOn_append, handledOn_handled]
    exact hafter
  pads := by
    rw [received, emit, Monitor.accepts_append]
    refine ⟨h.pads, Monitor.accepts_of_forall _ (fun e he history => ?_) _⟩
    obtain ⟨message, -, rfl⟩ := List.mem_map.mp he
    trivial

theorem Settled.sendPad (h : Settled s) {client : Client} (hclient : s.client = some client)
    (input : SendInput) :
    Settled { s.emit [.padSent (s.padSend P client input)] with
      client := some (client.updateSentDataTime input.sentDataClock) } := by
  have hconfigured := h.configured client hclient
  have hsame : handledOn client.sock (s.trace ++ [.padSent (s.padSend P client input)]) =
      handledOn client.sock s.trace := by
    rw [handledOn_append]
    exact List.append_nil _
  refine ⟨?_, ?_, ?_, ?_⟩
  · intro sock message hmem
    rw [emit, List.mem_append, List.mem_singleton] at hmem
    rcases hmem with hold | hnew
    · exact h.serials sock message hold
    · cases hnew
  · rintro c ⟨⟩
    exact h.fresh client hclient
  · rintro c ⟨⟩
    show Client.Configured _ (handledOn client.sock _)
    rw [emit, hsame]
    exact hconfigured.of_fields rfl rfl rfl
  · show padSettings.Accepts [] (s.trace ++ [.padSent (s.padSend P client input)])
    rw [Monitor.accepts_append, padSettings, Monitor.after_ofHistory, List.nil_append]
    exact ⟨h.pads, ⟨hconfigured.pollingTime, hconfigured.dataConnInfo⟩, trivial⟩

theorem Settled.move (hpeer : ∀ sock, P.getpeername sock = sock.peer) {t : NetThread}
    (h : Settled s) (hmove : Move P s t) : Settled t := by
  cases hmove with
  | quiet hclient haccepts htrace =>
      exact h.same hclient haccepts (htrace.trans (List.append_nil _).symm) (by simp)
  | @notices effects hnotices =>
      refine h.same rfl rfl rfl fun e he => ?_
      have hnotice := hnotices e he
      cases e <;> first | exact hnotice.elim | exact ⟨fun _ => rfl, rfl⟩
  | reset => exact h.resetClient
  | connect a _ => exact h.addClient a
  | refuse a hclient =>
      unfold NetThread.refuseClient
      split_ifs
      · apply h.of_plain rfl (by simp [Effect.handledOn, padOf]) (Nat.le_succ _)
        intro client hc
        exact ⟨Nat.lt_succ_of_lt (h.fresh client hc), h.configured client hc⟩
      · exact h
  | receive hclient hr => exact h.receive hpeer hclient hr
  | respond hclient hstate =>
      obtain ⟨hfresh, hconfigured⟩ := h.client hclient
      refine h.of_plain rfl (by simp [Effect.handledOn, padOf]) (le_refl s.accepts) ?_
      rintro c ⟨⟩
      exact ⟨hfresh, hconfigured.of_fields rfl rfl rfl⟩
  | sendPad hclient _ _ _ => exact h.sendPad hclient _

end

theorem settled_initial (ctrl : CtrlState) (padData : SceCtrlData) :
    Settled (initial ctrl padData) where
  serials := by simp [initial]
  fresh := by rintro client ⟨⟩
  configured := by rintro client ⟨⟩
  pads := trivial

theorem run_settled {P : Platform} (hpeer : ∀ sock, P.getpeername sock = sock.peer)
    {ctrl : CtrlState} {padData : SceCtrlData} {inputs : List Input} {s : NetThread}
    (hrun : EndsIn (run P (initial ctrl padData) inputs) s) : Settled s :=
  (run_moves hrun).invariant (fun _ _ ha hab => ha.move hpeer hab)
    (settled_initial ctrl padData)

theorem Settled.pad {s : NetThread} (h : Settled s) {before after : List Effect} {send : PadSend}
    (htrace : s.trace = before ++ .padSent send :: after) :
    send.pollingTime = pollingTimeFor (handledOn send.sock before) ∧
      send.clientAddr = padAddrFor send.sock.peer (handledOn send.sock before) := by
  have hallowed := (padSettings.accepts_iff [] s.trace).mp h.pads before _ after htrace
  rw [padSettings, Monitor.after_ofHistory, List.nil_append] at hallowed
  exact hallowed

/-- In every run the client's polling time and pad address are those that the messages
handled on its connection have asked for, and every pad is sent with those that the
messages handled before it have. -/
theorem settings_follow_messages (P : Platform) (hpeer : ∀ sock, P.getpeername sock = sock.peer)
    (ctrl : CtrlState) (padData : SceCtrlData) (inputs : List Input) (s : NetThread)
    (hrun : EndsIn (run P (initial ctrl padData) inputs) s) :
    (∀ client, s.client = some client →
      client.pollingTime = pollingTimeFor (handledOn client.sock s.trace) ∧
      client.dataConnInfo = padAddrFor client.sock.peer (handledOn client.sock s.trace)) ∧
    ∀ before send after, s.trace = before ++ .padSent send :: after →
      send.pollingTime = pollingTimeFor (handledOn send.sock before) ∧
      send.clientAddr = padAddrFor send.sock.peer (handledOn send.sock before) := by
  have hsettled := run_settled hpeer hrun
  constructor
  · intro client hclient
    have hconfigured := hsettled.configured client hclient
    exact ⟨hconfigured.pollingTime, hconfigured.dataConnInfo⟩
  · intro before send after htrace
    exact hsettled.pad htrace

theorem settings_follow_messages_of_slowedDown :
    ∃ s, run .sample (initial .idle ⟨0, 0, 0, 0, 0, 0⟩) (slowedDown.flatMap Iteration.inputs) =
        .ok s ∧
      (∀ client, s.client = some client →
        client.pollingTime = pollingTimeFor (handledOn client.sock s.trace) ∧
        client.dataConnInfo = padAddrFor client.sock.peer (handledOn client.sock s.trace)) ∧
      ∀ before send after, s.trace = before ++ .padSent send :: after →
        send.pollingTime = pollingTimeFor (handledOn send.sock before) ∧
        send.clientAddr = padAddrFor send.sock.peer (handledOn send.sock before) := by
  have hok : (run .sample (initial .idle ⟨0, 0, 0, 0, 0, 0⟩)
      (slowedDown.flatMap Iteration.inputs)).isOk = true := by decide +kernel
  obtain ⟨s, hrun⟩ := StepRun.exists_ok_of_isOk hok
  exact ⟨s, hrun, settings_follow_messages .sample (fun _ => rfl) _ _ _ s (.inl hrun)⟩

end NetThread

end VitaOxiPad.Server
