import VitaOxiPad.Lib.FreshFilter
import VitaOxiPad.Link.System
/-!
# The pads' way through the system

Whatever the pad socket does to the datagrams, and however the two programs' steps
interleave, a client whose one read of the control socket has brought the response, whole and
alone, gives its device reports with increasing timestamps, each of a pad that was sent to it.
If every reading of the controller succeeds, they are of some of the pads sent to the client,
in the order of their sending.
-/

namespace VitaOxiPad.Link

open NetProtocol Server FreshFilter
open Client (LoopState PadDatagram SentPacket Turn)
open Client.VitaReports (Carries MainReport)

variable {ε : Type}

/-- The pads sent to the client so far are packets that its flatbuffers decode. -/
def PadsDecode (L : Setup ε) (s : System) : Prop :=
  ∀ send ∈ L.padsSent s.thread, Decodes L.flatbuffers send.packet send.pad ∧
    send.packet.length ≤ Client.bufferSize

/-- The client reads a handshake response, and nothing after it. -/
def WholeResponse (L : Setup ε) : Action → Prop
  | .connect read _ => ∃ (p : SentPacket L.flatbuffers) (handshake : Client.Handshake),
      read = p.bytes ∧ p.event = .handshakeResponseReceived handshake
  | _ => True

def ReadingSucceeds : Action → Prop
  | .console (.ctrl read) => 0 ≤ read.result
  | _ => True

/-! ## What the console sends -/

/-- No pad lacks a part. -/
def Whole (thread : NetThread) : Prop :=
  ∀ send ∈ NetThread.pads thread.trace, ∃ report, Carries send.pad report

theorem carries_padSend (P : Platform) (s : NetThread) (client : Client) (input : SendInput) :
    ∃ report, Carries (s.padSend P client input).pad report := by
  have hok : ∃ report, MainReport.tryFrom (s.padSend P client input).pad = .ok report := ⟨_, rfl⟩
  obtain ⟨report, hreport⟩ := hok
  exact ⟨report, (Client.VitaReports.tryFrom_eq_ok_iff _ _).mp hreport⟩

theorem Whole.step {P : Platform} {s t : NetThread} {i : Input} (hs : Whole s)
    (h : s.step P i = .ok t) : Whole t := by
  intro send hsend
  rcases NetThread.step_pads h with hsame | ⟨input, client, -, -, -, hmore⟩
  · rw [hsame] at hsend
    exact hs send hsend
  · rw [hmore, List.mem_append, List.mem_singleton] at hsend
    rcases hsend with hsend | rfl
    · exact hs send hsend
    · exact carries_padSend P s client input

theorem padsSent_sublist (L : Setup ε) {s t : NetThread} {P : Platform} {i : Input}
    (h : s.step P i = .ok t) : (L.padsSent s).Sublist (L.padsSent t) := by
  apply List.Sublist.filter
  rcases NetThread.step_pads h with hsame | ⟨input, client, -, -, -, hmore⟩
  · rw [hsame]
  · rw [hmore]
    exact List.sublist_append_left _ _

/-- The pads are in order, and within an iteration the reading is newer than all of them. -/
def OrderedAt : Point → NetThread → Prop
  | .ctrl, thread => NetThread.InOrder thread
  | _, thread => ∃ before : NetThread, NetThread.InOrder before ∧
      NetThread.pads thread.trace = NetThread.pads before.trace ∧
      before.ctrl.lastTs < thread.ctrl.pad.timeStamp ∧
      thread.ctrl.lastTs = thread.ctrl.pad.timeStamp

theorem orderedAt_step {P : Platform} {s t : NetThread} {i : Input} {point point' : Point}
    (hs : OrderedAt point s) (hpoint : point.next i = some point') (h : s.step P i = .ok t)
    (hread : ReadingSucceeds (.console i)) : OrderedAt point' t := by
  cases point <;> cases i <;> cases hpoint
  case ctrl.ctrl read =>
    have htimes := NetThread.readCtrl_timestamps h
    have hok : ¬ read.result < 0 := Int32.not_lt.mpr hread
    rw [if_neg hok] at htimes
    exact ⟨s, hs, by rw [(NetThread.readCtrl_client h).2.1], htimes⟩
  case netStatus.netStatus states =>
    cases h
    have hkeeps := (NetThread.keepsPads_covers P).netStatus s states
    obtain ⟨before, horder, hpads, hnewer⟩ := hs
    exact ⟨before, horder, hkeeps.pads.trans hpads, by rw [hkeeps.ctrl]; exact hnewer⟩
  case event.event input =>
    have hkeeps := NetThread.keepsPads_handleEvent h
    obtain ⟨before, horder, hpads, hnewer⟩ := hs
    exact ⟨before, horder, hkeeps.pads.trans hpads, by rw [hkeeps.ctrl]; exact hnewer⟩
  case event.send input =>
    obtain ⟨before, horder, hpads, hnewer, hlast⟩ := hs
    obtain ⟨hctrl, hsame | ⟨-, send, hsend, hstamp⟩⟩ := NetThread.finish_pads h
    · apply horder.of_same (hsame.trans hpads)
      rw [hctrl, hlast]
      exact UInt64.le_of_lt hnewer
    · rw [hpads] at hsend
      rw [← hstamp] at hnewer hlast
      exact horder.of_sent hsend hnewer (by rw [hctrl, hlast])

/-! ## What the client makes of a datagram -/

def stamp (report : MainReport) : Nat := report.timestamp.toNat

def padDatagram {L : Setup ε} {send : PadSend} {report : MainReport}
    (hdecodes : Decodes L.flatbuffers send.packet send.pad)
    (hfits : send.packet.length ≤ Client.bufferSize) (hreport : Carries send.pad report) :
    PadDatagram L.flatbuffers where
  toSentPacket :=
    hdecodes.sentPacket ((Client.VitaReports.tryFrom_eq_ok_iff _ _).mpr hreport)
  report := report
  event_eq := rfl
  fits := hfits

section

variable {fb : Client.Flatbuffers ε} {device : List MainReport → Bool}

/-- A turn that the device does not end offers the pad to the inbox, whatever the device. -/
theorem receive_pad_ok (p : PadDatagram fb) {s s' : Client.Inbox} (hbuffer : s.incomingBuffer = [])
    (h : Client.receive fb device s p.bytes = .ok s') : s' = s.offer p.report := by
  have hne : p.bytes ≠ [] := (Client.Frame.packet p.toSentPacket).bytes_ne_nil
  rw [Client.receive, if_neg hne, hbuffer, List.nil_append] at h
  have hs : ({ s with incomingBuffer := [] } : Client.Inbox) = s := by rw [← hbuffer]
  cases hbody : Client.handleEvent device s
      (.ok (.padDataReceived p.report) : Client.Item ε) with
  | error e =>
      have hstep : Client.forStep fb device { s with incomingBuffer := p.bytes } = .error e := by
        have hnext := p.wholeFrame.next []
        rw [List.append_nil] at hnext
        simp only [Client.forStep, hnext, hs, hbody]
        rfl
      rw [Client.forEvents, FuelLoop.run_of_fault hstep] at h
      cases h
  | ok t =>
      have hoffer : t = s.offer p.report := by
        simp only [Client.handleEvent] at hbody
        unfold Client.Inbox.offer
        split_ifs at hbody ⊢ <;> cases hbody <;> rfl
      have hbody' : Client.handleEvent device { s with incomingBuffer := [] }
          (.ok (.padDataReceived p.report) : Client.Item ε) = .ok t := by rw [hs]; exact hbody
      have hframe := Client.forEvents_frame p.wholeFrame hbody'
      rw [List.append_nil] at hframe
      rw [hframe, Client.forEvents_nil fb device (by rw [hoffer]; simpa using hbuffer)] at h
      cases h
      exact hoffer

end

structure Delivered (L : Setup ε) (thread : NetThread) (inbox : Client.Inbox) : Prop where
  buffer : inbox.incomingBuffer = []
  kept : Kept stamp inbox.lastTimestamp.toNat inbox.reports
  newest : inbox.lastTimestamp.toNat = (inbox.reports.getLast?.map stamp).getD 0
  sent : ∀ report ∈ inbox.reports, ∃ send ∈ L.padsSent thread, Carries send.pad report

theorem Delivered.offer {L : Setup ε} {thread : NetThread} {inbox : Client.Inbox}
    (h : Delivered L thread inbox) {send : PadSend} (hsend : send ∈ L.padsSent thread)
    {report : MainReport} (hreport : Carries send.pad report) :
    Delivered L thread (inbox.offer report) := by
  unfold Client.Inbox.offer
  split_ifs with hstale
  · exact h
  · refine ⟨h.buffer, h.kept.concat ?_, ?_, fun r hr => ?_⟩
    · exact UInt64.lt_iff_toNat_lt.mp (UInt64.not_le.mp hstale)
    · rw [List.getLast?_concat]
      rfl
    · rw [List.mem_append, List.mem_singleton] at hr
      rcases hr with hr | rfl
      · exact h.sent r hr
      · exact ⟨send, hsend, hreport⟩

theorem Delivered.later {L : Setup ε} {thread thread' : NetThread} {inbox : Client.Inbox}
    (h : Delivered L thread inbox) (hsub : L.padsSent thread ⊆ L.padsSent thread') :
    Delivered L thread' inbox where
  buffer := h.buffer
  kept := h.kept
  newest := h.newest
  sent report hreport := by
    obtain ⟨send, hsend, hcarries⟩ := h.sent report hreport
    exact ⟨send, hsub hsend, hcarries⟩

theorem loopTurn_inbox {fb : Client.Flatbuffers ε} {device : List MainReport → Bool}
    {heartbeatFreq : UInt32} {s s' : LoopState} {t : Turn}
    (h : Client.loopTurn fb device heartbeatFreq s t = .ok s') :
    StepRun.run (Client.receive fb device) s.inbox
      (t.datagram.map (List.take Client.bufferSize)).toList = .ok s'.inbox := by
  rcases Client.loopTurn_cases fb device heartbeatFreq s t with
    ⟨e, he, -⟩ | ⟨u, hu, hrun⟩ | ⟨e, he, -⟩
  · rw [he] at h
    cases h
  · rw [hu] at h
    cases h
    exact hrun
  · rw [he] at h
    cases h

theorem Delivered.offers {L : Setup ε} {thread : NetThread} {s s' : LoopState}
    (h : Delivered L thread s.inbox) (hwhole : Whole thread)
    (hdecode : ∀ send ∈ L.padsSent thread, Decodes L.flatbuffers send.packet send.pad ∧
      send.packet.length ≤ Client.bufferSize)
    {heartbeatFreq : UInt32} {t : Turn} {send : PadSend} (hsend : send ∈ L.padsSent thread)
    (hdatagram : t.datagram = some send.packet)
    (hturn : Client.loopTurn L.flatbuffers L.device heartbeatFreq s t = .ok s') :
    ∃ report, Carries send.pad report ∧ s'.inbox = s.inbox.offer report := by
  have hrun := loopTurn_inbox hturn
  obtain ⟨hdecodes, hfits⟩ := hdecode send hsend
  obtain ⟨report, hreport⟩ := hwhole send (List.mem_of_mem_filter hsend)
  rw [hdatagram, Option.map_some, Option.toList_some, StepRun.run_singleton,
    List.take_of_length_le hfits] at hrun
  exact ⟨report, hreport, receive_pad_ok (padDatagram hdecodes hfits hreport) h.buffer hrun⟩

theorem Delivered.turn {L : Setup ε} {thread : NetThread} {s s' : LoopState}
    (h : Delivered L thread s.inbox) (hwhole : Whole thread)
    (hdecode : ∀ send ∈ L.padsSent thread, Decodes L.flatbuffers send.packet send.pad ∧
      send.packet.length ≤ Client.bufferSize)
    {heartbeatFreq : UInt32} {t : Turn}
    (hair : ∀ bytes ∈ t.datagram, bytes ∈ (L.padsSent thread).map (·.packet))
    (hturn : Client.loopTurn L.flatbuffers L.device heartbeatFreq s t = .ok s') :
    Delivered L thread s'.inbox := by
  cases hdatagram : t.datagram with
  | none =>
      have hrun := loopTurn_inbox hturn
      rw [hdatagram] at hrun
      rw [← Except.ok.inj hrun]
      exact h
  | some bytes =>
      obtain ⟨send, hsend, rfl⟩ := List.mem_map.mp (hair bytes hdatagram)
      obtain ⟨report, hreport, hoffer⟩ := h.offers hwhole hdecode hsend hdatagram hturn
      rw [hoffer]
      exact h.offer hsend hreport

/-- Once the newest pad has arrived, its report is the last one given to the device. -/
theorem Delivered.getLast_offer {L : Setup ε} {thread : NetThread} {inbox : Client.Inbox}
    (h : Delivered L thread inbox)
    (hinc : (L.padsSent thread).Pairwise fun a b =>
      a.pad.timestamp.toNat < b.pad.timestamp.toNat) {send : PadSend}
    (hnewest : (L.padsSent thread).getLast? = some send) (hpos : 0 < send.pad.timestamp)
    {report : MainReport} (hreport : Carries send.pad report) :
    (inbox.offer report).reports.getLast? = some report := by
  have hstamp : stamp report = send.pad.timestamp.toNat := by rw [stamp, hreport.timestamp]
  unfold Client.Inbox.offer
  split_ifs with hstale
  · apply getLast_of_stale h.newest
    · rw [hstamp]
      exact UInt64.lt_iff_toNat_lt.mp hpos
    · intro earlier hearlier hle
      obtain ⟨send', hsend', hcarries⟩ := h.sent earlier hearlier
      rw [hstamp, stamp, ← hcarries.timestamp] at hle
      rcases eq_or_lt_of_getLast hinc hnewest send' hsend' with rfl | hlt
      · have hsame := (Client.VitaReports.tryFrom_eq_ok_iff _ _).mpr hcarries
        rw [(Client.VitaReports.tryFrom_eq_ok_iff _ _).mpr hreport] at hsame
        exact (Except.ok.inj hsame).symm
      · exact absurd hle (not_le.mpr hlt)
    · exact UInt64.le_iff_toNat_le.mp hstale
  · exact List.getLast?_concat

/-! ## Runs -/

structure Keeps (L : Setup ε) (s : System) : Prop where
  whole : Whole s.thread
  delivered : ∀ heartbeatFreq state, s.phase = .looping heartbeatFreq state →
    Delivered L s.thread state.inbox

theorem delivered_start (L : Setup ε) (thread : NetThread) (clock : Nat) :
    Delivered L thread (LoopState.start [] clock).inbox where
  buffer := rfl
  kept := .nil stamp _
  newest := rfl
  sent := by
    intro report hreport
    cases hreport

section

variable {L : Setup ε} {s t : System}

theorem Keeps.step {a : Action} (hs : Keeps L s) (h : s.step L a = .ok t)
    (hdecode : PadsDecode L t) (hresponse : WholeResponse L a) : Keeps L t := by
  cases step_ok h with
  | console _ hthread _ =>
      refine ⟨hs.whole.step hthread, fun freq state hphase => ?_⟩
      exact (hs.delivered freq state hphase).later (padsSent_sublist L hthread).subset
  | greet _ => exact ⟨hs.whole, by simp⟩
  | @connect read clock r _ _ hr =>
      refine ⟨hs.whole, ?_⟩
      rintro freq state ⟨⟩
      obtain ⟨p, handshake, rfl, hevent⟩ := hresponse
      have hwhole := Client.handshakeResponse_whole hevent []
      obtain ⟨handshake, rest, hresponse, hstate⟩ := connect_ok hr
      rw [hwhole] at hresponse
      cases hresponse
      rw [hstate]
      exact delivered_start L s.thread clock
  | turn hphase hair hturn =>
      refine ⟨hs.whole, ?_⟩
      rintro freq state ⟨⟩
      exact (hs.delivered _ _ hphase).turn hs.whole hdecode hair hturn

end

theorem keeps_initial (L : Setup ε) (ctrl : CtrlState) (padData : SceCtrlData) :
    Keeps L (.initial ctrl padData) where
  whole := by
    intro send hsend
    cases hsend
  delivered := by
    rintro freq state ⟨⟩

theorem padsDecode_of_step {L : Setup ε} {s t : System} {a : Action} (h : s.step L a = .ok t)
    (hdecode : PadsDecode L t) : PadsDecode L s := by
  intro send hsend
  apply hdecode
  cases step_ok h with
  | console _ hthread _ => exact (padsSent_sublist L hthread).subset hsend
  | greet _ => exact hsend
  | connect _ _ _ => exact hsend
  | turn _ _ _ => exact hsend

theorem run_keeps {L : Setup ε} {ctrl : CtrlState} {padData : SceCtrlData}
    {actions : List Action} {s : System} (hresponse : ∀ a ∈ actions, WholeResponse L a)
    (h : System.run L (.initial ctrl padData) actions = .ok s) (hdecode : PadsDecode L s) :
    Keeps L s := by
  induction actions using List.reverseRecOn generalizing s with
  | nil =>
      cases h
      exact keeps_initial L ctrl padData
  | append_singleton actions a ih =>
      obtain ⟨u, hu, hstep⟩ := (StepRun.run_concat_eq_ok_iff _ actions a s).mp h
      have hbefore := ih (fun b hb => hresponse b (by simp [hb])) hu
        (padsDecode_of_step hstep hdecode)
      exact hbefore.step hstep hdecode (hresponse a (by simp))

theorem run_orderedAt {L : Setup ε} {ctrl : CtrlState} {padData : SceCtrlData}
    {actions : List Action} {s : System} (hread : ∀ a ∈ actions, ReadingSucceeds a)
    (h : System.run L (.initial ctrl padData) actions = .ok s) :
    OrderedAt s.point s.thread := by
  induction actions using List.reverseRecOn generalizing s with
  | nil =>
      cases h
      exact NetThread.inOrder_initial ctrl padData
  | append_singleton actions a ih =>
      obtain ⟨u, hu, hstep⟩ := (StepRun.run_concat_eq_ok_iff _ actions a s).mp h
      have hbefore := ih (fun b hb => hread b (by simp [hb])) hu
      cases step_ok hstep with
      | console hpoint hthread _ =>
          exact orderedAt_step hbefore hpoint hthread (hread _ (by simp))
      | greet _ => exact hbefore
      | connect _ _ _ => exact hbefore
      | turn _ _ _ => exact hbefore

theorem OrderedAt.before {point : Point} {thread : NetThread} (h : OrderedAt point thread) :
    ∃ before : NetThread, NetThread.InOrder before ∧
      NetThread.pads thread.trace = NetThread.pads before.trace := by
  cases point with
  | ctrl => exact ⟨thread, h, rfl⟩
  | netStatus =>
      obtain ⟨before, horder, hpads, -⟩ := h
      exact ⟨before, horder, hpads⟩
  | event =>
      obtain ⟨before, horder, hpads, -⟩ := h
      exact ⟨before, horder, hpads⟩

theorem OrderedAt.increasing {point : Point} {thread : NetThread} (h : OrderedAt point thread)
    (L : Setup ε) :
    (L.padsSent thread).Pairwise fun a b => a.pad.timestamp.toNat < b.pad.timestamp.toNat := by
  obtain ⟨before, horder, hpads⟩ := h.before
  have hinc := horder.increasing
  rw [← hpads, NetThread.timestamps, List.pairwise_map] at hinc
  exact (hinc.imp UInt64.lt_iff_toNat_lt.mp).sublist List.filter_sublist

theorem OrderedAt.positive {point : Point} {thread : NetThread} (h : OrderedAt point thread)
    {L : Setup ε} {send : PadSend} (hsend : send ∈ L.padsSent thread) :
    0 < send.pad.timestamp := by
  obtain ⟨before, horder, hpads⟩ := h.before
  apply horder.positive
  rw [← hpads, NetThread.timestamps]
  exact List.mem_map_of_mem (List.mem_of_mem_filter hsend)

theorem Keeps.reports {L : Setup ε} {s : System} (h : Keeps L s) :
    (∃ last, Kept stamp last s.reports) ∧
      ∀ report ∈ s.reports, ∃ send ∈ L.padsSent s.thread, Carries send.pad report := by
  unfold System.reports
  cases hphase : s.phase with
  | connected => exact ⟨⟨0, .nil stamp 0⟩, by simp⟩
  | greeted => exact ⟨⟨0, .nil stamp 0⟩, by simp⟩
  | looping heartbeatFreq state =>
      have hdelivered := h.delivered heartbeatFreq state hphase
      exact ⟨⟨_, hdelivered.kept⟩, hdelivered.sent⟩

/-- In every interleaving in which the client reads its response whole, the timestamps of the
reports given to the device increase, and each report is of a pad sent to this client.  While
every reading of the controller succeeds, the reports are of some of those pads in the order of
their sending. -/
theorem reports_follow_pads (L : Setup ε) (ctrl : CtrlState) (padData : SceCtrlData)
    (actions : List Action) (s : System)
    (hrun : System.run L (.initial ctrl padData) actions = .ok s) (hdecode : PadsDecode L s)
    (hresponse : ∀ a ∈ actions, WholeResponse L a) :
    (s.reports.Pairwise fun a b => a.timestamp < b.timestamp) ∧
    (∀ report ∈ s.reports, ∃ send ∈ L.padsSent s.thread, Carries send.pad report) ∧
    ((∀ a ∈ actions, ReadingSucceeds a) → ∃ sends, sends.Sublist (L.padsSent s.thread) ∧
      List.Forall₂ (fun report send => Carries send.pad report) s.reports sends) := by
  obtain ⟨⟨last, hkept⟩, hsent⟩ := (run_keeps hresponse hrun hdecode).reports
  refine ⟨hkept.increasing.imp UInt64.lt_iff_toNat_lt.mpr, hsent, fun hread => ?_⟩
  have hinc := (run_orderedAt hread hrun).increasing L
  have hstamp : ∀ (report : MainReport) (send : PadSend), Carries send.pad report →
      stamp report = send.pad.timestamp.toNat := by
    intro report send hcarries
    rw [stamp, hcarries.timestamp]
  exact hkept.exists_sublist hstamp hinc hsent

/-- Of four pads the first is lost and the third comes before the second, and then again. -/
def overtaking : List Action :=
  joining ++ iteration 30000 4 [] ++ iteration 40000 5 [] ++
    [.turn (.reading (padPacket 5)), .turn (.reading (padPacket 4))] ++ iteration 50000 6 [] ++
    [.turn (.reading (padPacket 5)), .turn (.reading (padPacket 6))]

theorem decodes_padPacket {low : UInt8} (hlow : low ∈ Setup.sampleLows) :
    Decodes Setup.sample.flatbuffers (padPacket low) (padTable low) where
  size_prefixed := by rw [Client.length_padPacket, Client.declaredSize_padPacket]
  nonempty := by rw [Client.declaredSize_padPacket]; decide
  short := by rw [Client.length_padPacket]; decide
  content := by
    refine ⟨⟨.pad, none, some (padTable low)⟩, ?_, rfl, rfl⟩
    revert low
    decide +kernel

theorem padsDecode_sample {s : System} {lows : List UInt8} (hlows : lows ⊆ Setup.sampleLows)
    (h : (Setup.sample.padsSent s.thread).map (fun send => (send.packet, send.pad)) =
      lows.map fun low => (padPacket low, padTable low)) : PadsDecode .sample s := by
  intro send hsend
  have hmem := List.mem_map_of_mem (f := fun send => (send.packet, send.pad)) hsend
  rw [h, List.mem_map] at hmem
  obtain ⟨low, hlow, hsent⟩ := hmem
  obtain ⟨hpacket, hpad⟩ := Prod.mk.inj hsent
  rw [← hpacket, ← hpad, Client.length_padPacket]
  exact ⟨decodes_padPacket (hlows hlow), by decide⟩

def sentResponse : SentPacket Setup.sample.flatbuffers where
  bytes := responsePacket
  event := .handshakeResponseReceived (.from ⟨.server, 5000, 25⟩)
  size_prefixed := by decide +kernel
  nonempty := by decide +kernel
  short := by decide +kernel
  decodes := ⟨⟨.handshake, some ⟨.server, 5000, 25⟩, none⟩, by decide +kernel,
    .handshake rfl rfl⟩

def Action.response? : Action → Option (List UInt8)
  | .connect read _ => some read
  | _ => none

theorem wholeResponse_sample {actions : List Action}
    (h : actions.filterMap Action.response? = [responsePacket]) :
    ∀ a ∈ actions, WholeResponse .sample a := by
  intro a ha
  cases a with
  | connect read clock =>
      have hread : read ∈ actions.filterMap Action.response? :=
        List.mem_filterMap.mpr ⟨_, ha, rfl⟩
      rw [h, List.mem_singleton] at hread
      exact ⟨sentResponse, _, hread, rfl⟩
  | console _ => trivial
  | greet => trivial
  | turn _ => trivial

instance decidableReadingSucceeds : ∀ a, Decidable (ReadingSucceeds a)
  | .console (.ctrl read) => inferInstanceAs (Decidable (0 ≤ read.result))
  | .console (.netStatus _) | .console (.event _) | .console (.send _) => .isTrue trivial
  | .greet | .connect _ _ | .turn _ => .isTrue trivial

theorem run_overtaking :
    ∃ s, System.run .sample (.initial .idle ⟨0, 0, 0, 0, 0, 0⟩) overtaking = .ok s ∧
      PadsDecode .sample s ∧
      (Setup.sample.padsSent s.thread).map (·.packet) = [3, 4, 5, 6].map padPacket ∧
      s.reports = [5, 6].map Client.padReport := by
  have hend : (System.run .sample (.initial .idle ⟨0, 0, 0, 0, 0, 0⟩) overtaking).toOption.map
      (fun s => ((Setup.sample.padsSent s.thread).map fun send => (send.packet, send.pad),
        s.reports)) =
      some ([3, 4, 5, 6].map fun low => (padPacket low, padTable low),
        [5, 6].map Client.padReport) := by decide +kernel
  obtain ⟨s, hrun, hs⟩ := StepRun.exists_ok_of_map hend
  obtain ⟨hpads, hreports⟩ := Prod.mk.inj hs
  refine ⟨s, hrun, padsDecode_sample (List.Subset.refl _) hpads, ?_, hreports⟩
  have hpackets := congrArg (List.map Prod.fst) hpads
  rwa [List.map_map, List.map_map] at hpackets

theorem reports_follow_pads_of_overtaking :
    ∃ s, System.run .sample (.initial .idle ⟨0, 0, 0, 0, 0, 0⟩) overtaking = .ok s ∧
      (Setup.sample.padsSent s.thread).map (·.packet) = [3, 4, 5, 6].map padPacket ∧
      s.reports = [5, 6].map Client.padReport ∧
      (s.reports.Pairwise fun a b => a.timestamp < b.timestamp) ∧
      (∀ report ∈ s.reports, ∃ send ∈ Setup.sample.padsSent s.thread, Carries send.pad report) ∧
      ∃ sends, sends.Sublist (Setup.sample.padsSent s.thread) ∧
        List.Forall₂ (fun report send => Carries send.pad report) s.reports sends := by
  obtain ⟨s, hrun, hdecode, hpackets, hreports⟩ := run_overtaking
  obtain ⟨hinc, hsent, horder⟩ := reports_follow_pads .sample _ _ _ s hrun hdecode
    (wholeResponse_sample (by decide +kernel))
  exact ⟨s, hrun, hpackets, hreports, hinc, hsent, horder (by decide +kernel)⟩

end VitaOxiPad.Link
