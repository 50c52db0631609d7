import VitaOxiPad.Server.Moves
/-!
# Network callbacks between two polls

`netctl_cb` sets a bit of `connect_state` for each state of the network, and
`net_thread` switches on the bits that its poll returns.  The pattern of both bits
is none of its cases: when the network has both come and gone since the last poll,
nothing is done about either.
-/

namespace VitaOxiPad.Server

def NetCtlState.reports : NetCtlState → Option Bool
  | disconnected | connecting | finalizing => some false
  | connected => some true
  | other => none

def reports (states : List NetCtlState) : List Bool := states.filterMap NetCtlState.reports

def Collapses (states : List NetCtlState) : Prop :=
  true ∈ reports states ∧ false ∈ reports states

theorem reports_append (states : List NetCtlState) (state : NetCtlState) :
    reports (states ++ [state]) = reports states ++ state.reports.toList := by
  cases state <;> simp [reports, NetCtlState.reports]

/-- The flag keeps which reports there were and forgets their order. -/
theorem callbacks_eq (states : List NetCtlState) :
    states.foldl netctlCb 0 =
      (if true ∈ reports states then netCtlConnected else 0) |||
        (if false ∈ reports states then netCtlDisconnected else 0) := by
  induction states using List.reverseRecOn with
  | nil => rfl
  | append_singleton states state ih =>
      have hlast : (states ++ [state]).foldl netctlCb 0 =
          netctlCb (states.foldl netctlCb 0) state := List.foldl_append
      rw [hlast, ih, reports_append]
      by_cases hcome : true ∈ reports states <;> by_cases hgone : false ∈ reports states <;>
        cases state <;> simp [netctlCb, NetCtlState.reports, hcome, hgone] <;> decide

namespace NetThread

/-! ## Every poll clears the flag -/

@[simp] theorem resetClient_connectState (s : NetThread) :
    s.resetClient.connectState = s.connectState := by
  unfold resetClient
  split <;> rfl

@[simp] theorem disconnectClient_connectState (s : NetThread) :
    s.disconnectClient.connectState = s.connectState := resetClient_connectState _

@[simp] theorem addClient_connectState (P : Platform) (s : NetThread) (a : Accept) :
    (s.addClient P a).connectState = s.connectState := by
  unfold addClient
  split_ifs <;> rfl

@[simp] theorem refuseClient_connectState (s : NetThread) (a : Accept) :
    (s.refuseClient a).connectState = s.connectState := by
  unfold refuseClient
  split_ifs <;> rfl

@[simp] theorem announceClient_connectState (s : NetThread) :
    s.announceClient.connectState = s.connectState := by
  unfold announceClient
  split <;> rfl

theorem readable_connectState {P : Platform} {s t : NetThread} {client : Client}
    {input : Receive} (h : s.readable P client input = .ok t) :
    t.connectState = s.connectState := by
  obtain ⟨r, -, ⟨-, rfl⟩ | ⟨-, rfl⟩⟩ := readable_ok h
  · exact disconnectClient_connectState _
  · rfl

theorem sendHandshakeResponse_connectState {P : Platform} {s t : NetThread} {client : Client}
    {sends : List Int32} (h : s.sendHandshakeResponse P client sends = .ok t) :
    t.connectState = s.connectState := by
  obtain ⟨sent, pieces, -, ⟨-, rfl | rfl⟩ | ⟨-, rfl⟩⟩ := sendHandshakeResponse_ok h
  · exact disconnectClient_connectState _
  · rfl
  · rfl

theorem handleEvent_connectState {P : Platform} {s t : NetThread} {input : EventInput}
    (h : s.handleEvent P input = .ok t) : t.connectState = s.connectState := by
  cases handling_of_handleEvent h with
  | idle => rfl
  | hangup => exact disconnectClient_connectState s
  | connect => rw [announceClient_connectState, addClient_connectState]
  | refuse => rw [announceClient_connectState, refuseClient_connectState]
  | receive hreads hclient hread => exact readable_connectState hread
  | answer hasks hclient hstate hsend => exact sendHandshakeResponse_connectState hsend

theorem finish_connectState {P : Platform} {s t : NetThread} {input : SendInput}
    (h : s.finish P input = .ok t) : t.connectState = s.connectState := by
  rcases finish_cases h with ⟨-, rfl⟩ | ⟨client, -, -, rfl⟩
  · rfl
  · unfold sendPad
    split_ifs <;> rfl

/-- The poll waits for both bits, so it leaves neither. -/
theorem polled_eq {s : NetThread} (h : s.connectState = 0) (states : List NetCtlState) :
    s.polled states = s := by
  have hcleared : states.foldl netctlCb s.connectState &&&
      ~~~(netCtlConnected ||| netCtlDisconnected) = 0 := by
    rw [h, callbacks_eq]
    split_ifs <;> decide
  rw [polled, hcleared, ← h]

theorem netStatus_connectState {s : NetThread} (h : s.connectState = 0)
    (states : List NetCtlState) : (s.netStatus states).connectState = 0 := by
  rcases netStatus_cases s states with ⟨-, -, hnet⟩ | ⟨-, hnet⟩ | ⟨-, -, hnet⟩ <;>
    rw [hnet, polled_eq h]
  · exact h
  · exact (resetClient_connectState _).trans h
  · exact h

theorem step_connectState {P : Platform} {s t : NetThread} {i : Input}
    (h : s.connectState = 0) (hstep : step P s i = .ok t) : t.connectState = 0 := by
  cases i with
  | ctrl read => rw [(readCtrl_client hstep).2.2.2, h]
  | netStatus states =>
      cases hstep
      exact netStatus_connectState h states
  | event input => rw [handleEvent_connectState hstep, h]
  | send input => rw [finish_connectState hstep, h]

theorem run_connectState {P : Platform} {ctrl : CtrlState} {padData : SceCtrlData}
    {inputs : List Input} {s : NetThread} (h : run P (initial ctrl padData) inputs = .ok s) :
    s.connectState = 0 :=
  StepRun.run_invariant (I := fun s => s.connectState = 0)
    (fun _ _ _ hs hstep => step_connectState hs hstep) rfl h

/-! ## What a poll does -/

theorem netStatus_of_connected {s : NetThread} (h : s.connectState = 0)
    {states : List NetCtlState} (hcome : true ∈ reports states) (hgone : false ∉ reports states) :
    s.netStatus states = s.emit [.listening, .setEventFlag .netConnect] := by
  have hevent : s.pollEvent states = netCtlConnected := by
    rw [pollEvent, h, callbacks_eq, if_pos hcome, if_neg hgone]
    rfl
  rcases netStatus_cases s states with ⟨-, -, hnet⟩ | ⟨hlost, -⟩ | ⟨hother, -⟩
  · rw [hnet, polled_eq h]
  · exact absurd (hevent.symm.trans hlost) (by decide)
  · exact absurd hevent hother

theorem netStatus_of_disconnected {s : NetThread} (h : s.connectState = 0)
    {states : List NetCtlState} (hcome : true ∉ reports states) (hgone : false ∈ reports states) :
    s.netStatus states =
      { (s.emit [.setEventFlag .netDisconnect]).resetClient with timeout := secondInMicros } := by
  have hlost : s.LosesNetwork states := by
    rw [LosesNetwork, h, callbacks_eq, if_neg hcome, if_pos hgone]
    rfl
  rcases netStatus_cases s states with ⟨-, hkept, -⟩ | ⟨-, hnet⟩ | ⟨-, hkept, -⟩
  · exact absurd hlost hkept
  · rw [hnet, polled_eq h]
  · exact absurd hlost hkept

/-- Neither pattern is a case of the switch. -/
theorem netStatus_of_both_or_neither {s : NetThread} (h : s.connectState = 0)
    {states : List NetCtlState} (hsame : true ∈ reports states ↔ false ∈ reports states) :
    s.netStatus states = s := by
  have hevent : s.pollEvent states = 0 ∨
      s.pollEvent states = netCtlConnected ||| netCtlDisconnected := by
    rw [pollEvent, h, callbacks_eq]
    by_cases hgone : false ∈ reports states
    · exact .inr (by rw [if_pos (hsame.mpr hgone), if_pos hgone]; rfl)
    · exact .inl (by rw [if_neg (mt hsame.mp hgone), if_neg hgone]; rfl)
  rcases netStatus_cases s states with ⟨hcome, -⟩ | ⟨hlost, -⟩ | ⟨-, -, hnet⟩
  · rcases hevent with hevent | hevent <;> exact absurd (hevent.symm.trans hcome) (by decide)
  · rcases hevent with hevent | hevent <;> exact absurd (hevent.symm.trans hlost) (by decide)
  · rw [hnet, polled_eq h]

/-- The poll after the callbacks does what the last report asks for. -/
def FollowsLastReport (s : NetThread) (states : List NetCtlState) : Prop :=
  ∃ effects, (s.netStatus states).trace = s.trace ++ effects ∧
    ((reports states).getLast? = some false →
      (s.netStatus states).client = none ∧ .setEventFlag .netDisconnect ∈ effects ∧
        ∀ client, s.client = some client → .closed client.sock ∈ effects) ∧
    ((reports states).getLast? = some true →
      .listening ∈ effects ∧ .setEventFlag .netConnect ∈ effects)

theorem followsLastReport_of_connected {s : NetThread} (h : s.connectState = 0)
    {states : List NetCtlState} (hcome : true ∈ reports states) (hgone : false ∉ reports states) :
    s.FollowsLastReport states := by
  refine ⟨[.listening, .setEventFlag .netConnect], ?_, fun hlast => ?_, by simp⟩
  · rw [netStatus_of_connected h hcome hgone]
    rfl
  · exact absurd (List.mem_of_getLast? hlast) hgone

theorem followsLastReport_of_disconnected {s : NetThread} (h : s.connectState = 0)
    {states : List NetCtlState} (hcome : true ∉ reports states) (hgone : false ∈ reports states) :
    s.FollowsLastReport states := by
  have hlast : (reports states).getLast? ≠ some true :=
    fun hlast => hcome (List.mem_of_getLast? hlast)
  have hclient : (s.netStatus states).client = none := by
    rw [netStatus_of_disconnected h hcome hgone]
    exact resetClient_client _
  have htrace : (s.netStatus states).trace =
      (s.emit [.setEventFlag .netDisconnect]).resetClient.trace := by
    rw [netStatus_of_disconnected h hcome hgone]
  unfold resetClient at htrace
  cases hsome : s.client with
  | none =>
      refine ⟨[.setEventFlag .netDisconnect], ?_, fun _ => ⟨hclient, by simp, by simp [hsome]⟩,
        fun hlast' => absurd hlast' hlast⟩
      simpa [emit, hsome] using htrace
  | some client =>
      refine ⟨[.setEventFlag .netDisconnect, .epollDel client.sock, .closed client.sock], ?_,
        fun _ => ⟨hclient, by simp, by simp [hsome]⟩, fun hlast' => absurd hlast' hlast⟩
      simpa [emit, hsome] using htrace

theorem followsLastReport_of_silent {s : NetThread} (h : s.connectState = 0)
    {states : List NetCtlState} (hcome : true ∉ reports states) (hgone : false ∉ reports states) :
    s.FollowsLastReport states := by
  have htrace := netStatus_of_both_or_neither h (iff_of_false hcome hgone)
  refine ⟨[], by rw [htrace, List.append_nil], fun hlast => ?_, fun hlast => ?_⟩
  · exact absurd (List.mem_of_getLast? hlast) hgone
  · exact absurd (List.mem_of_getLast? hlast) hcome

theorem not_followsLastReport_of_collapses {s : NetThread} (h : s.connectState = 0)
    {states : List NetCtlState} (hcollapses : Collapses states) :
    ¬ s.FollowsLastReport states := by
  rintro ⟨effects, htrace, hgone, hcome⟩
  rw [netStatus_of_both_or_neither h (iff_of_true hcollapses.1 hcollapses.2)] at htrace
  have heffects : effects = [] := List.self_eq_append_right.mp htrace
  subst heffects
  cases hlast : (reports states).getLast? with
  | none =>
      have hempty : reports states = [] := List.getLast?_eq_none_iff.mp hlast
      exact absurd hcollapses.1 (by simp [hempty])
  | some report =>
      cases report with
      | false => exact absurd (hgone hlast).2.1 (by simp)
      | true => exact absurd (hcome hlast).1 (by simp)

/-- In every run, the poll leaves the server as the last report asks exactly when
the callbacks since the poll before have not reported both. -/
theorem poll_follows_last_report_iff (P : Platform) (ctrl : CtrlState) (padData : SceCtrlData)
    (inputs : List Input) (s : NetThread) (hrun : run P (initial ctrl padData) inputs = .ok s)
    (states : List NetCtlState) : s.FollowsLastReport states ↔ ¬ Collapses states := by
  have hflag := run_connectState hrun
  refine ⟨fun hfollows hcollapses => not_followsLastReport_of_collapses hflag hcollapses hfollows,
    fun hsingle => ?_⟩
  by_cases hcome : true ∈ reports states
  · have hgone : false ∉ reports states := fun hgone => hsingle ⟨hcome, hgone⟩
    exact followsLastReport_of_connected hflag hcome hgone
  · by_cases hgone : false ∈ reports states
    · exact followsLastReport_of_disconnected hflag hcome hgone
    · exact followsLastReport_of_silent hflag hcome hgone

def connecting : List Input := (Iteration.instant 0 true [.connect 0]).inputs

theorem poll_follows_last_report_of_disconnected :
    ∃ s client effects, run .sample (initial .idle ⟨0, 0, 0, 0, 0, 0⟩) connecting = .ok s ∧
      s.client = some client ∧
      (s.netStatus [.disconnected, .connecting]).trace = s.trace ++ effects ∧
      (s.netStatus [.disconnected, .connecting]).client = none ∧
      .setEventFlag .netDisconnect ∈ effects ∧ .closed client.sock ∈ effects := by
  obtain ⟨s, hrun⟩ : ∃ s, run .sample (initial .idle ⟨0, 0, 0, 0, 0, 0⟩) connecting = .ok s :=
    ⟨_, rfl⟩
  obtain ⟨effects, htrace, hgone, -⟩ :=
    (poll_follows_last_report_iff .sample .idle ⟨0, 0, 0, 0, 0, 0⟩ connecting s hrun
      [.disconnected, .connecting]).mpr fun hcollapses => absurd hcollapses.1 (by decide)
  obtain ⟨hclient, hflag, hclosed⟩ := hgone rfl
  obtain ⟨client, hsome⟩ : ∃ client, s.client = some client := by
    cases hrun
    exact ⟨_, rfl⟩
  exact ⟨s, client, effects, hrun, hsome, htrace, hclient, hflag, hclosed client hsome⟩

/-- The network comes back for a moment before it is lost, and the client stays. -/
theorem not_poll_follows_last_report_of_flapping :
    ∃ s, run .sample (initial .idle ⟨0, 0, 0, 0, 0, 0⟩) connecting = .ok s ∧
      (reports [.connected, .disconnected]).getLast? = some false ∧
      (s.netStatus [.connected, .disconnected]).client ≠ none ∧
      (s.netStatus [.connected, .disconnected]).trace = s.trace :=
  ⟨_, rfl, rfl, by decide, rfl⟩

end NetThread

end VitaOxiPad.Server
