import VitaOxiPad.Link.Pads
import VitaOxiPad.Device.LinuxDevices
/-!
# From the console's controls to the PC's devices

A client on Linux gives its reports to the driver.  At any moment the four devices show
what the console measured at some earlier sending, and no report given to the driver is
newer.  When the newest pad has arrived they show that.
-/

namespace VitaOxiPad.Link

open Server VirtualDevice VirtualDevice.Linux
open Client.VitaReports (Carries MainReport)

variable {ε : Type}

def BatteryFits : Action → Prop
  | .console (.send input) => 0 ≤ input.batteryLevel ∧ input.batteryLevel ≤ 255
  | _ => True

/-- The report is what the console has measured, with the battery level of that moment, when
one of its iterations comes to the sending. -/
def MeasuredDuring (L : Setup ε) (s : System) (actions : List Action) (report : MainReport) :
    Prop :=
  ∃ before input u, before ++ [.console (.send input)] <+: actions ∧
    System.run L s before = .ok u ∧ Measured u.thread.ctrl input.batteryLevel report

theorem measured_of_carries {P : Platform} {s : NetThread} {client : Server.Client}
    {input : SendInput} (hlo : 0 ≤ input.batteryLevel) (hhi : input.batteryLevel ≤ 255)
    {report : MainReport} (h : Carries (s.padSend P client input).pad report) :
    Measured s.ctrl input.batteryLevel report := by
  obtain ⟨measured, hmeasured, hall⟩ := tryFrom_ctrlAsNetprotocol s.ctrl hlo hhi
  have hreport := (Client.VitaReports.tryFrom_eq_ok_iff _ report).mpr h
  rw [NetThread.padSend, hmeasured] at hreport
  cases hreport
  exact hall

theorem sent_by_step {L : Setup ε} {s t : System} {a : Action} (h : s.step L a = .ok t)
    {send : PadSend} (hbefore : send ∉ NetThread.pads s.thread.trace)
    (hafter : send ∈ NetThread.pads t.thread.trace) :
    ∃ input client, a = .console (.send input) ∧
      send = s.thread.padSend L.platform client input := by
  cases step_ok h with
  | console _ hthread _ =>
      rcases NetThread.step_pads hthread with hsame | ⟨input, client, rfl, -, -, hmore⟩
      · exact absurd (hsame ▸ hafter) hbefore
      · rw [hmore, List.mem_append, List.mem_singleton] at hafter
        exact ⟨input, client, rfl, hafter.resolve_left hbefore⟩
  | greet _ => exact absurd hafter hbefore
  | connect _ _ _ => exact absurd hafter hbefore
  | turn _ _ _ => exact absurd hafter hbefore

theorem measured_of_sent {L : Setup ε} {ctrl : CtrlState} {padData : SceCtrlData}
    {actions : List Action} {s : System} (hbattery : ∀ a ∈ actions, BatteryFits a)
    (h : System.run L (.initial ctrl padData) actions = .ok s) {send : PadSend}
    (hsend : send ∈ L.padsSent s.thread) {report : MainReport}
    (hcarries : Carries send.pad report) :
    MeasuredDuring L (.initial ctrl padData) actions report := by
  have hnone : send ∉ NetThread.pads (System.initial ctrl padData).thread.trace := by
    intro hmem
    cases hmem
  obtain ⟨before, a, u, v, hprefix, hu, ha, hnot, hin, -⟩ :=
    StepRun.run_since (Q := fun s => send ∈ NetThread.pads s.thread.trace) hnone h
      ((List.mem_filter.mp hsend).1)
  obtain ⟨input, client, rfl, rfl⟩ := sent_by_step ha hnot hin
  have hmem : Action.console (.send input) ∈ actions := hprefix.subset (by simp)
  obtain ⟨hlo, hhi⟩ := hbattery _ hmem
  exact ⟨before, input, u, hprefix, hu, measured_of_carries hlo hhi hcarries⟩

/-! ## The driver -/

section

variable {δ : Type} {locateAtPoint : LocateAtPoint} {config : Config}

theorem configInForce_reports (config : Config) (calls : List (Call δ)) :
    Devices.configInForce config (calls.map .sendReport) = config := by
  induction calls with
  | nil => rfl
  | cons call calls ih => exact ih

theorem shows_last {calls : List (Call δ)} {call : Call δ} {devices : Devices}
    (h : Devices.run locateAtPoint config ((calls ++ [call]).map .sendReport) = .ok devices) :
    Devices.ShowsReport locateAtPoint config call.report devices := by
  rw [List.map_append, List.map_singleton] at h
  obtain ⟨u, hu, hstep⟩ := (StepRun.run_concat_eq_ok_iff _ _ _ _).mp h
  obtain ⟨hconsistent, hconfig⟩ := Devices.run_consistent hu
  rw [configInForce_reports] at hconfig
  rw [← hconfig]
  exact (hconsistent.sendReport hstep).2

end

/-- In every interleaving, and whatever the network does to the datagrams, the devices of a
client on Linux are as at their creation, or they show the newest of the reports given to
them, which is what the console had measured at some sending.  The client has read its
response whole, and no battery level is one that a byte does not hold. -/
theorem devices_show_measured (L : Setup ε) (ctrl : CtrlState) (padData : SceCtrlData)
    (actions : List Action) (s : System)
    (hrun : System.run L (.initial ctrl padData) actions = .ok s) (hdecode : PadsDecode L s)
    (hresponse : ∀ a ∈ actions, WholeResponse L a) (hbattery : ∀ a ∈ actions, BatteryFits a)
    {δ : Type} (locateAtPoint : LocateAtPoint) (config : Config) (calls : List (Call δ))
    (devices : Devices) (hcalls : calls.map (·.report) = s.reports)
    (hdevices : Devices.run locateAtPoint config (calls.map .sendReport) = .ok devices) :
    (s.reports = [] ∧ devices = .new config) ∨
      ∃ report ∈ s.reports, MeasuredDuring L (.initial ctrl padData) actions report ∧
        Devices.ShowsReport locateAtPoint config report devices ∧
        ∀ earlier ∈ s.reports, earlier.timestamp ≤ report.timestamp := by
  obtain ⟨⟨last, hkept⟩, hsent⟩ := (run_keeps hresponse hrun hdecode).reports
  rcases List.eq_nil_or_concat' calls with rfl | ⟨calls, call, rfl⟩
  · cases hdevices
    exact .inl ⟨hcalls.symm, rfl⟩
  · right
    rw [List.map_append, List.map_singleton] at hcalls
    have hmem : call.report ∈ s.reports := by
      rw [← hcalls]
      exact List.mem_append_right _ (by simp)
    obtain ⟨send, hsend, hcarries⟩ := hsent call.report hmem
    refine ⟨call.report, hmem, measured_of_sent hbattery hrun hsend hcarries,
      shows_last hdevices, fun earlier hearlier => ?_⟩
    have hinc := hkept.increasing
    rw [← hcalls, List.pairwise_append] at hinc
    rw [← hcalls, List.mem_append, List.mem_singleton] at hearlier
    rcases hearlier with hearlier | rfl
    · exact UInt64.le_of_lt (UInt64.lt_iff_toNat_lt.mpr
        (hinc.2.2 earlier hearlier call.report (by simp)))
    · exact UInt64.le_refl _

/-- Once the newest pad has arrived, the devices show it, if every reading of the controller
has succeeded and the client has read its response whole. -/
theorem devices_catch_up (L : Setup ε) (ctrl : CtrlState) (padData : SceCtrlData)
    (actions : List Action) (s t : System)
    (hrun : System.run L (.initial ctrl padData) actions = .ok s) (hdecode : PadsDecode L s)
    (hresponse : ∀ a ∈ actions, WholeResponse L a) (hread : ∀ a ∈ actions, ReadingSucceeds a)
    (send : PadSend) (hnewest : (L.padsSent s.thread).getLast? = some send)
    (turn : Client.Turn) (hdatagram : turn.datagram = some send.packet)
    (hturn : s.step L (.turn turn) = .ok t)
    {δ : Type} (locateAtPoint : LocateAtPoint) (config : Config) (calls : List (Call δ))
    (devices : Devices) (hcalls : calls.map (·.report) = t.reports)
    (hdevices : Devices.run locateAtPoint config (calls.map .sendReport) = .ok devices) :
    ∃ report, Carries send.pad report ∧
      Devices.ShowsReport locateAtPoint config report devices := by
  have hkeeps := run_keeps hresponse hrun hdecode
  have hordered := run_orderedAt hread hrun
  have hsend := List.mem_of_getLast? hnewest
  have hlast : ∃ report, Carries send.pad report ∧ t.reports.getLast? = some report := by
    cases step_ok hturn with
    | turn hphase _ hloop =>
        have hdelivered := hkeeps.delivered _ _ hphase
        obtain ⟨report, hreport, hoffer⟩ :=
          hdelivered.offers hkeeps.whole hdecode hsend hdatagram hloop
        have hshown := hdelivered.getLast_offer (hordered.increasing L) hnewest
          (hordered.positive hsend) hreport
        rw [← hoffer] at hshown
        exact ⟨report, hreport, hshown⟩
  obtain ⟨report, hreport, hreports⟩ := hlast
  refine ⟨report, hreport, ?_⟩
  rw [← hcalls, List.getLast?_map] at hreports
  obtain ⟨call, hcall, rfl⟩ := Option.map_eq_some_iff.mp hreports
  obtain ⟨earlier, rfl⟩ := List.getLast?_eq_some_iff.mp hcall
  exact shows_last hdevices

theorem map_sentCall (reports : List MainReport) :
    (reports.map sentCall).map (·.report) = reports := by
  rw [List.map_map]
  exact List.map_id reports

theorem run_sentCalls (config : Config) (reports : List MainReport) :
    ∃ devices, Devices.run firstZone config ((reports.map sentCall).map .sendReport) =
      .ok devices := by
  induction reports using List.reverseRecOn with
  | nil => exact ⟨.new config, rfl⟩
  | append_singleton reports report ih =>
      obtain ⟨devices, hdevices⟩ := ih
      obtain ⟨devices', hstep⟩ := Devices.step_sentCall devices report
      refine ⟨devices', ?_⟩
      rw [List.map_append, List.map_append]
      exact (StepRun.run_concat_eq_ok_iff _ _ _ _).mpr ⟨devices, hdevices, hstep⟩

instance decidableBatteryFits : ∀ a, Decidable (BatteryFits a)
  | .console (.send input) =>
      inferInstanceAs (Decidable (0 ≤ input.batteryLevel ∧ input.batteryLevel ≤ 255))
  | .console (.ctrl _) | .console (.netStatus _) | .console (.event _) => .isTrue trivial
  | .greet | .connect _ _ | .turn _ => .isTrue trivial

theorem devices_show_measured_of_overtaking :
    ∃ s devices, System.run .sample (.initial .idle ⟨0, 0, 0, 0, 0, 0⟩) overtaking = .ok s ∧
      s.reports = [5, 6].map Client.padReport ∧
      Devices.run firstZone .rearRl2FrontRl3 ((s.reports.map sentCall).map .sendReport) =
        .ok devices ∧
      ((s.reports = [] ∧ devices = .new .rearRl2FrontRl3) ∨
        ∃ report ∈ s.reports,
          MeasuredDuring .sample (.initial .idle ⟨0, 0, 0, 0, 0, 0⟩) overtaking report ∧
          Devices.ShowsReport firstZone .rearRl2FrontRl3 report devices ∧
          ∀ earlier ∈ s.reports, earlier.timestamp ≤ report.timestamp) := by
  obtain ⟨s, hrun, hdecode, -, hreports⟩ := run_overtaking
  obtain ⟨devices, hdevices⟩ := run_sentCalls .rearRl2FrontRl3 s.reports
  exact ⟨s, devices, hrun, hreports, hdevices, devices_show_measured .sample .idle _ overtaking
    s hrun hdecode (wholeResponse_sample (by decide +kernel)) (by decide +kernel) firstZone
    .rearRl2FrontRl3 (s.reports.map sentCall) devices (map_sentCall s.reports) hdevices⟩

def skipping : List Action := joining ++ iteration 30000 4 []

theorem devices_catch_up_of_skipping :
    ∃ s t devices, System.run .sample (.initial .idle ⟨0, 0, 0, 0, 0, 0⟩) skipping = .ok s ∧
      s.step .sample (.turn (.reading (NetProtocol.padPacket 4))) = .ok t ∧
      Devices.run firstZone .rearRl2FrontRl3 ((t.reports.map sentCall).map .sendReport) =
        .ok devices ∧
      ∃ report, Carries (NetProtocol.padTable 4) report ∧
        Devices.ShowsReport firstZone .rearRl2FrontRl3 report devices := by
  have hend : (System.run .sample (.initial .idle ⟨0, 0, 0, 0, 0, 0⟩) skipping).toOption.map
      (fun s => ((Setup.sample.padsSent s.thread).map fun send => (send.packet, send.pad),
        (s.step .sample (.turn (.reading (NetProtocol.padPacket 4)))).isOk)) =
      some ([3, 4].map fun low => (NetProtocol.padPacket low, NetProtocol.padTable low), true) := by
    decide +kernel
  obtain ⟨s, hrun, hs⟩ := StepRun.exists_ok_of_map hend
  obtain ⟨hpads, hok⟩ := Prod.mk.inj hs
  obtain ⟨t, ht⟩ := StepRun.exists_ok_of_isOk hok
  have hlast := congrArg List.getLast? hpads
  rw [List.getLast?_map] at hlast
  obtain ⟨send, hnewest, hsend⟩ := Option.map_eq_some_iff.mp hlast
  obtain ⟨hpacket, hpad⟩ := Prod.mk.inj hsend
  have hdatagram : (Client.Turn.reading (NetProtocol.padPacket 4)).datagram =
      some send.packet := by
    rw [hpacket]
    rfl
  obtain ⟨devices, hdevices⟩ := run_sentCalls .rearRl2FrontRl3 t.reports
  have hshown := devices_catch_up .sample .idle _ skipping s t hrun
    (padsDecode_sample (by decide) hpads) (wholeResponse_sample (by decide +kernel))
    (by decide +kernel) send hnewest (.reading (NetProtocol.padPacket 4)) hdatagram ht firstZone
    .rearRl2FrontRl3 (t.reports.map sentCall) devices (map_sentCall t.reports) hdevices
  rw [hpad] at hshown
  exact ⟨s, t, devices, hrun, ht, hdevices, hshown⟩

end VitaOxiPad.Link
