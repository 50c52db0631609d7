import VitaOxiPad.Link.Script
/-!
# The control socket's way through the system

While no readable event cuts a message in two, the console handles what the client has
written, message by message, and keeps nothing of it back.  So the two sides agree on the
session: the port of its pads, and its polling time, where an interval counts only if it is
above the least one.
-/

namespace VitaOxiPad.Link

open NetProtocol Server Framing
open Client (LoopState Turn)

variable {ε : Type}

/-! ## Runs -/

def AtBoundary (s : System) : Prop :=
  ∃ n, s.received = ((s.writes.take n).flatten).length

/-- While the connection is open, its client is given the messages as they come. -/
structure Heard (L : Setup ε) (thread : NetThread) (received : Nat)
    (messages : List Message) : Prop where
  settled : NetThread.Settled thread
  unborn : thread.accepts ≤ L.sock.serial → received = 0
  heard : ∃ before after, messages = before ++ after ∧
    received = (stream (encode L.flatbuffers) before).length ∧
    handledOn L.sock thread.trace <+: before ∧
    ∀ client, thread.client = some client → client.sock = L.sock →
      handledOn L.sock thread.trace = before ∧ client.buffer = []

theorem Heard.more {L : Setup ε} {thread : NetThread} {received : Nat} {messages : List Message}
    (h : Heard L thread received messages) (more : List Message) :
    Heard L thread received (messages ++ more) where
  settled := h.settled
  unborn := h.unborn
  heard := by
    obtain ⟨before, after, rfl, hrest⟩ := h.heard
    exact ⟨before, after ++ more, List.append_assoc before after more, hrest⟩

/-- The server's flatbuffers decode what the client's have built. -/
def Understood (L : Setup ε) (messages : List Message) : Prop :=
  ∀ m ∈ messages, m = .heartbeat ∨
    Server.Decodes L.platform.flatbuffers (encode L.flatbuffers m) m

section

variable {L : Setup ε} {messages : List Message}

theorem Understood.encode_ne_nil (h : Understood L messages) :
    ∀ m ∈ messages, encode L.flatbuffers m ≠ [] := by
  intro m hm hnil
  rcases h m hm with rfl | hdecodes
  · cases hnil
  · have hlen := hdecodes.size_prefixed
    rw [hnil] at hlen
    simp at hlen

theorem stream_eq_nil (h : Understood L messages)
    (hlen : (stream (encode L.flatbuffers) messages).length = 0) : messages = [] := by
  cases messages with
  | nil => rfl
  | cons m messages =>
      rw [stream_cons, List.length_append] at hlen
      have hpos := List.length_pos_iff.mpr (h.encode_ne_nil m (by simp))
      omega

/-- Nothing has been handled before the connection is accepted. -/
theorem Heard.spared {s t : NetThread} {received : Nat} (h : Heard L s received messages)
    (hmessages : Understood L messages) (hsettled : NetThread.Settled t)
    (haccepts : s.accepts ≤ t.accepts) {clock : Option UInt64}
    (hspared : Spared L.sock clock s t) :
    Heard L t received messages where
  settled := hsettled
  unborn hle := h.unborn (haccepts.trans hle)
  heard := by
    obtain ⟨before, after, rfl, hreceived, hhandled, hclient⟩ := h.heard
    cases hspared with
    | untouched hsame =>
        refine ⟨before, after, rfl, hreceived, by rwa [hsame.handled], fun c' hc' hsock => ?_⟩
        obtain ⟨c, hc, hsock, hbuffer, -⟩ := hsame.client c' hc' hsock
        rw [hsame.handled, hbuffer]
        exact hclient c hc hsock
    | accepted hsame hnew =>
        refine ⟨before, after, rfl, hreceived, by rwa [hsame], fun c hc hsock => ?_⟩
        obtain ⟨hserial, hbuffer, -⟩ := hnew c hc
        rw [hsock] at hserial
        have hnone : before = [] := by
          apply stream_eq_nil (L := L) (fun m hm => hmessages m (by simp [hm]))
          rw [← hreceived, h.unborn hserial.ge]
        rw [hnone] at hhandled ⊢
        rw [hsame]
        exact ⟨List.prefix_nil.mp hhandled, hbuffer⟩

theorem Heard.reads {s t : NetThread} {received : Nat} (h : Heard L s received messages)
    (hmessages : Understood L messages) (hsettled : NetThread.Settled t) {input : EventInput}
    (hreads : NetThread.Reads input) {client : Server.Client} (hclient : s.client = some client)
    (hsock : client.sock = L.sock) (haccepts : s.accepts ≤ t.accepts)
    (hstep : s.handleEvent L.platform input = .ok t)
    (htaken : input.receive.bytes <+: (stream (encode L.flatbuffers) messages).drop received)
    {n : Nat} (hcut : received + input.receive.bytes.length =
      (stream (encode L.flatbuffers) (messages.take n)).length) :
    Heard L t (received + input.receive.bytes.length) messages where
  settled := hsettled
  unborn hle := by
    have hlt := h.settled.fresh client hclient
    rw [hsock] at hlt
    omega
  heard := by
    obtain ⟨before, after, rfl, rfl, -, hopen⟩ := h.heard
    obtain ⟨hhandled, hbuffer⟩ := hopen client hclient hsock
    rw [stream_append, List.drop_left] at htaken
    obtain ⟨more, rest, rfl, hbytes⟩ := exists_frames_of_boundary _ htaken hcut
    have hmore : Understood L more := fun m hm => hmessages m (by simp [hm])
    have hstream : input.receive.bytes =
        stream ClientMessage.bytes (sentMessages L.flatbuffers more hmore) := by
      rw [hbytes, ← stream_map (bytes_sentMessages hmore), map_message_sentMessages hmore]
    refine ⟨before ++ more, rest, (List.append_assoc _ _ _).symm, ?_, ?_⟩
    · rw [stream_append, List.length_append, hbytes]
    · rw [NetThread.handleEvent_of_reads hreads hclient] at hstep
      obtain ⟨r, hr, hend⟩ := NetThread.readable_ok hstep
      have hgot := handleIngoingData_messages hbuffer hstream hr
      rw [map_message_sentMessages hmore] at hgot
      have htrace : handledOn L.sock (s.received client r).trace = before ++ r.handled := by
        rw [NetThread.received, NetThread.emit, handledOn_append, hhandled, hsock,
          handledOn_handled]
      rcases hend with ⟨-, rfl⟩ | ⟨hkept, rfl⟩
      · have hgone := (untouched_covers L.sock).disconnectClient (s.received client r)
        rw [hgone.handled, htrace]
        refine ⟨?_, fun c hc => ?_⟩
        · rcases hgot with ⟨hall, -⟩ | ⟨hnone, -⟩
          · rw [hall]
          · rw [hnone, List.append_nil]
            exact List.prefix_append _ _
        · rw [NetThread.disconnectClient, NetThread.resetClient_client] at hc
          cases hc
      · rcases hgot with ⟨hall, hempty⟩ | ⟨-, hthrown⟩
        · rw [htrace, hall]
          refine ⟨List.prefix_rfl, ?_⟩
          rintro c ⟨⟩ -
          exact ⟨rfl, hempty⟩
        · rw [hthrown] at hkept
          exact absurd rfl hkept

theorem understood_of_scripted {phase : Phase} (hopening : Understood L L.opening)
    (h : Scripted L messages phase) : Understood L messages := by
  intro m hm
  cases phase with
  | connected =>
      rw [show messages = [] from h] at hm
      cases hm
  | greeted =>
      rw [show messages = [.handshake ⟨.client, L.boundPort, 0⟩] from h,
        List.mem_singleton] at hm
      exact hopening m (by rw [hm, Setup.opening_eq]; simp)
  | looping heartbeatFreq state =>
      obtain ⟨-, beats, rfl⟩ := h
      rw [List.mem_append] at hm
      rcases hm with hm | hm
      · exact hopening m hm
      · exact .inl (List.eq_of_mem_replicate hm)

theorem flatten_take_writes {s : System} (hwrites : s.writes = messages.map (encode L.flatbuffers))
    (n : Nat) :
    (s.writes.take n).flatten = stream (encode L.flatbuffers) (messages.take n) := by
  rw [hwrites, ← List.map_take]
  exact List.flatMap_def.symm

theorem flatten_writes {s : System} (hwrites : s.writes = messages.map (encode L.flatbuffers)) :
    s.writes.flatten = stream (encode L.flatbuffers) messages := by
  rw [hwrites]
  exact List.flatMap_def.symm

end

/-- The client has followed its script, and the console what it has received of it. -/
structure InStep (L : Setup ε) (s : System) : Prop where
  tracks : Tracks s.thread
  script : ∃ messages, Scripted L messages s.phase ∧
    s.writes = messages.map (encode L.flatbuffers) ∧ Heard L s.thread s.received messages

theorem heard_console {L : Setup ε} {s : System} {thread : NetThread} {input : Input}
    {messages : List Message} (hpeer : ∀ sock, L.platform.getpeername sock = sock.peer)
    (hmessages : Understood L messages) (hheard : Heard L s.thread s.received messages)
    (hwrites : s.writes = messages.map (encode L.flatbuffers))
    (hthread : s.thread.step L.platform input = .ok thread)
    (htaken : L.taken s.thread input <+: s.upstream) {n : Nat}
    (hcut : s.received + (L.taken s.thread input).length =
      ((s.writes.take n).flatten).length) :
    Heard L thread (s.received + (L.taken s.thread input).length) messages := by
  have hmoves := NetThread.step_moves (.inl hthread)
  have hsettled := hmoves.invariant (fun _ _ ha hab => ha.move hpeer hab) hheard.settled
  have haccepts := NetThread.step_accepts_le hthread
  by_cases hreads : ∃ event, input = .event event ∧ NetThread.Reads event ∧
      s.thread.client.map (·.sock) = some L.sock
  · obtain ⟨event, rfl, hreads, hsock⟩ := hreads
    have htook : L.taken s.thread (.event event) = event.receive.bytes :=
      if_pos ⟨hreads, hsock⟩
    obtain ⟨client, hclient, hsock⟩ := Option.map_eq_some_iff.mp hsock
    rw [htook] at htaken hcut ⊢
    rw [flatten_take_writes hwrites] at hcut
    rw [System.upstream, flatten_writes hwrites] at htaken
    exact hheard.reads hmessages hsettled hreads hclient hsock haccepts hthread htaken hcut
  · have htook : L.taken s.thread input = [] := by
      cases input with
      | event event => exact if_neg fun h => hreads ⟨event, rfl, h⟩
      | _ => rfl
    rw [htook]
    refine hheard.spared hmessages hsettled haccepts (spared_step hthread ?_)
    exact fun event hevent h => hreads ⟨event, hevent, h⟩

theorem InStep.step {L : Setup ε} {s t : System} {a : Action} (hs : InStep L s)
    (hpeer : ∀ sock, L.platform.getpeername sock = sock.peer)
    (hopening : Understood L L.opening) (h : s.step L a = .ok t) (hcut : AtBoundary t) :
    InStep L t := by
  obtain ⟨messages, hscript, hwrites, hheard⟩ := hs.script
  cases step_ok h with
  | console _ hthread htaken =>
      have hmoves := NetThread.step_moves (.inl hthread)
      have hmessages := understood_of_scripted hopening hscript
      obtain ⟨n, hcut⟩ := hcut
      have htracks := hmoves.invariant (fun _ _ ha hab => ha.move hpeer hab) hs.tracks
      have hthen := heard_console hpeer hmessages hheard hwrites hthread htaken hcut
      exact ⟨htracks, messages, hscript, hwrites, hthen⟩
  | greet hphase =>
      rw [hphase] at hscript
      have hnone : messages = [] := hscript
      rw [hnone] at hheard
      exact ⟨hs.tracks, [.handshake ⟨.client, L.boundPort, 0⟩], rfl, rfl, hheard.more _⟩
  | connect hphase _ hr =>
      rw [hphase] at hscript
      have hgreeting : messages = [.handshake ⟨.client, L.boundPort, 0⟩] := hscript
      rw [hgreeting] at hheard
      obtain ⟨hio, hempty⟩ := connect_writes hr
      refine ⟨hs.tracks, L.opening, ⟨hempty, 0, by simp⟩, hio, ?_⟩
      rw [Setup.opening_eq]
      exact hheard.more _
  | turn hphase _ hturn =>
      rw [hphase] at hscript
      obtain ⟨hempty, beats, hbeats⟩ := hscript
      obtain ⟨hempty', hwrote⟩ := loopTurn_writes hempty hturn
      split_ifs at hwrote
      · refine ⟨hs.tracks, messages ++ [.heartbeat], ⟨hempty', beats + 1, ?_⟩, ?_, hheard.more _⟩
        · rw [hbeats, List.append_assoc, List.replicate_succ']
        · rw [hwrote, hwrites, List.map_append]
          rfl
      · refine ⟨hs.tracks, messages, ⟨hempty', beats, hbeats⟩, ?_, hheard⟩
        rw [hwrote, List.append_nil, hwrites]

theorem inStep_initial (L : Setup ε) (ctrl : CtrlState) (padData : SceCtrlData) :
    InStep L (.initial ctrl padData) where
  tracks := tracks_initial ctrl padData
  script := by
    refine ⟨[], rfl, rfl, NetThread.settled_initial ctrl padData, fun _ => rfl, [], [], rfl,
      rfl, List.nil_prefix, ?_⟩
    rintro client ⟨⟩

theorem run_inStep {L : Setup ε} (hpeer : ∀ sock, L.platform.getpeername sock = sock.peer)
    (hopening : Understood L L.opening) {ctrl : CtrlState} {padData : SceCtrlData}
    {actions : List Action} {s : System}
    (hcuts : ∀ done t, done <+: actions →
      System.run L (.initial ctrl padData) done = .ok t → AtBoundary t)
    (hrun : System.run L (.initial ctrl padData) actions = .ok s) : InStep L s := by
  induction actions using List.reverseRecOn generalizing s with
  | nil =>
      cases hrun
      exact inStep_initial L ctrl padData
  | append_singleton actions a ih =>
      obtain ⟨u, hu, hstep⟩ := (StepRun.run_concat_eq_ok_iff _ actions a s).mp hrun
      have hbefore := ih (fun done t hpre => hcuts done t
        (hpre.trans (List.prefix_append actions [a]))) hu
      exact hbefore.step hpeer hopening hstep (hcuts _ s List.prefix_rfl hrun)

/-! ## What the two sides agree on -/

/-- The polling time of the session: the least one, unless the client asks for more. -/
def Setup.pollingTime (L : Setup ε) : UInt64 :=
  if minPollingIntervalMicros.toUInt64 < L.interval then L.interval
  else minPollingIntervalMicros.toUInt64

section

variable {L : Setup ε} {messages : List Message} {beats : Nat}
  (h : messages <+: L.opening ++ List.replicate beats Message.heartbeat)

include h

theorem pollingTimeFor_script :
    pollingTimeFor messages = minPollingIntervalMicros.toUInt64 ∨
      pollingTimeFor messages = L.pollingTime := by
  have hpart := h.filterMap Message.interval
  rw [filterMap_script rfl, intervals_opening] at hpart
  unfold pollingTimeFor Setup.pollingTime
  split_ifs at hpart ⊢ with hlong
  · rcases List.prefix_cons_iff.mp hpart with hnil | ⟨rest, hrest, hempty⟩
    · left
      rw [hnil, List.getLastD_nil]
    · right
      rw [hrest, List.prefix_nil.mp hempty]
      rfl
  · left
    rw [List.prefix_nil.mp hpart, List.getLastD_nil]

theorem padAddrFor_script :
    padAddrFor L.sock.peer messages = none ∨
      padAddrFor L.sock.peer messages = some L.padAddr := by
  have hpart := h.filterMap Message.padPort
  rw [filterMap_script rfl, padPorts_opening] at hpart
  unfold padAddrFor
  rcases List.prefix_cons_iff.mp hpart with hnil | ⟨rest, hrest, hempty⟩
  · left
    rw [hnil]
    rfl
  · right
    rw [hrest, List.prefix_nil.mp hempty]
    rfl

theorem settled_of_opening (hopening : L.opening <+: messages) :
    pollingTimeFor messages = L.pollingTime ∧
      padAddrFor L.sock.peer messages = some L.padAddr := by
  have hsame : ∀ {α : Type} {f : Message → Option α}, f .heartbeat = none →
      messages.filterMap f = L.opening.filterMap f := by
    intro α f hbeat
    have hall := h.filterMap f
    rw [filterMap_script hbeat] at hall
    have hfirst := hopening.filterMap f
    exact (hfirst.eq_of_length (le_antisymm hfirst.length_le hall.length_le)).symm
  unfold pollingTimeFor padAddrFor Setup.pollingTime
  rw [hsame rfl, hsame rfl, intervals_opening, padPorts_opening]
  refine ⟨?_, rfl⟩
  split_ifs <;> rfl

end

theorem InStep.handled_script {L : Setup ε} {s : System} (h : InStep L s) :
    ∃ beats, handledOn L.sock s.thread.trace <+:
      L.opening ++ List.replicate beats Message.heartbeat := by
  obtain ⟨messages, hscript, -, hheard⟩ := h.script
  obtain ⟨before, after, rfl, -, hhandled, -⟩ := hheard.heard
  obtain ⟨beats, hbeats⟩ := hscript.prefix_script
  exact ⟨beats, (hhandled.trans (List.prefix_append before after)).trans hbeats⟩

theorem InStep.settings {L : Setup ε} {s : System} (h : InStep L s)
    (hopened : L.opening <+: handledOn L.sock s.thread.trace) {client : Server.Client}
    (hclient : s.thread.client = some client) (hsock : client.sock = L.sock) :
    client.pollingTime = L.pollingTime ∧ client.dataConnInfo = some L.padAddr := by
  obtain ⟨beats, hbeats⟩ := h.handled_script
  obtain ⟨messages, -, -, hheard⟩ := h.script
  obtain ⟨htime, hinfo⟩ := hheard.settled.configured client hclient
  rw [htime, hinfo, hsock]
  exact settled_of_opening hbeats hopened

theorem padSent_of_padOf {e : Effect} {send : PadSend} (h : NetThread.padOf e = some send) :
    e = .padSent send := by
  cases e <;> cases h
  rfl

theorem pad_in_script {L : Setup ε} {thread : NetThread} {messages : List Message} {beats : Nat}
    (hscript : messages <+: L.opening ++ List.replicate beats Message.heartbeat)
    (htracks : Tracks thread) (hsettled : NetThread.Settled thread)
    (hhandled : handledOn L.sock thread.trace <+: messages) {send : PadSend}
    (hsend : send ∈ NetThread.pads thread.trace) (hsock : send.sock = L.sock) :
    send.clientAddr = some L.padAddr ∧
      (send.pollingTime = minPollingIntervalMicros.toUInt64 ∨
        send.pollingTime = L.pollingTime) := by
  obtain ⟨e, hmem, he⟩ := List.mem_filterMap.mp hsend
  obtain ⟨before, after, htrace⟩ := List.append_of_mem hmem
  rw [padSent_of_padOf he] at htrace
  have hbefore : handledOn L.sock before <+: L.opening ++ List.replicate beats .heartbeat := by
    refine List.IsPrefix.trans ?_ (hhandled.trans hscript)
    rw [htrace, handledOn_append]
    exact List.prefix_append _ _
  obtain ⟨htime, haddr⟩ := hsettled.pad htrace
  have hsession := (sessions.accepts_iff none thread.trace).mp htracks.accepted
    before _ after htrace
  obtain ⟨-, session, port, -, -, -, -, hknown⟩ := hsession
  rw [hsock] at htime haddr
  refine ⟨?_, ?_⟩
  · rcases padAddrFor_script hbefore with hnone | hsome
    · rw [haddr, hnone] at hknown
      cases hknown
    · rw [haddr, hsome]
  · rw [htime]
    exact pollingTimeFor_script hbefore

/-- While the console never stops inside a message, it has handled the client's messages from
the first on and keeps no byte of them back; once it has handled the opening, the session has
the polling time that the client's interval comes to and the port of its pads; and every pad
of the session goes to the client. -/
theorem sides_agree (L : Setup ε) (hpeer : ∀ sock, L.platform.getpeername sock = sock.peer)
    (hopening : Understood L L.opening) (ctrl : CtrlState) (padData : SceCtrlData)
    (actions : List Action) (s : System)
    (hcuts : ∀ done t, done <+: actions →
      System.run L (.initial ctrl padData) done = .ok t → AtBoundary t)
    (hrun : System.run L (.initial ctrl padData) actions = .ok s) :
    (∃ messages, Scripted L messages s.phase ∧ s.writes = messages.map (encode L.flatbuffers) ∧
      handledOn L.sock s.thread.trace <+: messages) ∧
    (∀ client, s.thread.client = some client → client.sock = L.sock →
      client.buffer = [] ∧ s.received =
        (stream (encode L.flatbuffers) (handledOn L.sock s.thread.trace)).length ∧
      (L.opening <+: handledOn L.sock s.thread.trace →
        client.pollingTime = L.pollingTime ∧ client.dataConnInfo = some L.padAddr)) ∧
    ∀ send ∈ NetThread.pads s.thread.trace, send.sock = L.sock →
      send ∈ L.padsSent s.thread ∧
      (send.pollingTime = minPollingIntervalMicros.toUInt64 ∨
        send.pollingTime = L.pollingTime) := by
  have hstep := run_inStep hpeer hopening hcuts hrun
  obtain ⟨messages, hscript, hwrites, hheard⟩ := hstep.script
  obtain ⟨before, after, hmessages, hreceived, hhandled, hopen⟩ := hheard.heard
  obtain ⟨beats, hbeats⟩ := hscript.prefix_script
  have hpart : handledOn L.sock s.thread.trace <+: messages := by
    rw [hmessages]
    exact hhandled.trans (List.prefix_append before after)
  refine ⟨⟨messages, hscript, hwrites, hpart⟩, fun client hclient hsock => ?_,
    fun send hsend hsock => ?_⟩
  · obtain ⟨hall, hbuffer⟩ := hopen client hclient hsock
    exact ⟨hbuffer, by rw [hall, hreceived], fun hdone => hstep.settings hdone hclient hsock⟩
  · obtain ⟨haddr, htime⟩ :=
      pad_in_script hbeats hstep.tracks hheard.settled hpart hsend hsock
    exact ⟨List.mem_filter.mpr ⟨hsend, by simpa using haddr⟩, htime⟩

def configuring : List Action :=
  joining ++ iteration 30000 4 [{ EventInput.connect 0 with
    sockType := .client, receive := .wouldBlock configPacket }]

theorem decodes_of_accessors {fb fb' : Server.Flatbuffers} {bytes : List UInt8} {m : Message}
    (h : Server.Decodes fb bytes m) (htype : fb'.contentType = fb.contentType)
    (hverify : fb'.verify = fb.verify)
    (hhandshake : fb'.contentAsHandshake = fb.contentAsHandshake)
    (hconfig : fb'.contentAsConfig = fb.contentAsConfig) : Server.Decodes fb' bytes m where
  size_prefixed := h.size_prefixed
  short := h.short
  content := by
    have hhandlers : handlers fb' = handlers fb := by
      unfold handlers
      rw [hhandshake, hconfig]
    rw [htype, hhandlers]
    exact h.content
  accepted := by
    rw [hverify]
    exact h.accepted

theorem understood_sample : Understood Setup.sample Setup.sample.opening := by
  have hgreeting : Server.Decodes (.ofPackets [(greetingPacket, .handshake ⟨.client, 1234, 0⟩),
      (configPacket, .config configTable)]) greetingPacket (.handshake ⟨.client, 1234, 0⟩) := by
    apply decodes_ofPackets
    · decide
    · intro rest
      rfl
    · decide
    · decide
    · decide
    · decide +kernel
  have hconfig : Server.Decodes (.ofPackets [(greetingPacket, .handshake ⟨.client, 1234, 0⟩),
      (configPacket, .config configTable)]) configPacket (.config configTable) := by
    apply decodes_ofPackets
    · decide
    · intro rest
      rfl
    · decide
    · decide
    · decide
    · decide +kernel
  intro m hm
  right
  have hcases : m = .handshake ⟨.client, 1234, 0⟩ ∨ m = .config configTable := by
    have hopening : Setup.sample.opening =
        [.handshake ⟨.client, 1234, 0⟩, .config configTable] := by decide
    rw [hopening] at hm
    simpa using hm
  rcases hcases with rfl | rfl
  · exact decodes_of_accessors hgreeting rfl rfl rfl rfl
  · exact decodes_of_accessors hconfig rfl rfl rfl rfl

/-- Where each of a run's states is found to be at one of the first boundaries. -/
theorem atBoundary_of_check {L : Setup ε} {s : System} {actions : List Action} {n : Nat}
    (hcheck : ∀ done ∈ actions.inits, ((System.run L s done).toOption.all fun t =>
      (List.range n).any fun k => t.received = ((t.writes.take k).flatten).length) = true) :
    ∀ done t, done <+: actions → System.run L s done = .ok t → AtBoundary t := by
  intro done t hpre ht
  have hdone := hcheck done ((List.mem_inits _ _).mpr hpre)
  rw [ht] at hdone
  obtain ⟨k, -, hk⟩ := List.any_eq_true.mp hdone
  exact ⟨k, of_decide_eq_true hk⟩

theorem sides_agree_of_configuring :
    ∃ s, System.run .sample (.initial .idle ⟨0, 0, 0, 0, 0, 0⟩) configuring = .ok s ∧
      s.received = 92 ∧
      (∃ messages, Scripted .sample messages s.phase ∧
        s.writes = messages.map (encode Setup.sample.flatbuffers) ∧
        handledOn Setup.sample.sock s.thread.trace <+: messages) ∧
      (∀ client, s.thread.client = some client → client.sock = Setup.sample.sock →
        client.buffer = [] ∧ s.received = (stream (encode Setup.sample.flatbuffers)
          (handledOn Setup.sample.sock s.thread.trace)).length ∧
        (Setup.sample.opening <+: handledOn Setup.sample.sock s.thread.trace →
          client.pollingTime = Setup.sample.pollingTime ∧
          client.dataConnInfo = some Setup.sample.padAddr)) ∧
      ∀ send ∈ NetThread.pads s.thread.trace, send.sock = Setup.sample.sock →
        send ∈ Setup.sample.padsSent s.thread ∧
        (send.pollingTime = minPollingIntervalMicros.toUInt64 ∨
          send.pollingTime = Setup.sample.pollingTime) := by
  have hend : (System.run .sample (.initial .idle ⟨0, 0, 0, 0, 0, 0⟩) configuring).toOption.map
      (·.received) = some 92 := by decide +kernel
  obtain ⟨s, hrun, hreceived⟩ := StepRun.exists_ok_of_map hend
  have hcuts := @atBoundary_of_check Unit .sample (.initial .idle ⟨0, 0, 0, 0, 0, 0⟩) configuring 3
    (by decide +kernel)
  exact ⟨s, hrun, hreceived,
    sides_agree .sample (fun _ => rfl) understood_sample _ _ _ s hcuts hrun⟩

end VitaOxiPad.Link
