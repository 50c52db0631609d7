import VitaOxiPad.Server.Connections
import VitaOxiPad.Server.Lifecycle
/-!
# A client that falls silent

The time of a client's last heartbeat is read from the clock when its connection is accepted
and when a heartbeat is handled, and at no other moment.  A connection on which that time lies
too far back is closed, and a connection that is closed is not used again.
-/

namespace VitaOxiPad.Server

open NetProtocol

def beatsOn (sock : Socket) (trace : List Effect) : Nat :=
  (handledOn sock trace).count .heartbeat

theorem beatsOn_append (sock : Socket) (trace effects : List Effect) :
    beatsOn sock (trace ++ effects) = beatsOn sock trace + beatsOn sock effects := by
  rw [beatsOn, handledOn_append, List.count_append]
  rfl

theorem beatsOn_mono {sock : Socket} {trace trace' : List Effect} (h : trace <+: trace') :
    beatsOn sock trace ≤ beatsOn sock trace' := by
  obtain ⟨effects, rfl⟩ := h
  rw [beatsOn_append]
  exact Nat.le_add_right _ _

/-- The readings of the clock that the input may bring as the time of a heartbeat. -/
def Input.BringsTime : Input → UInt64 → Prop
  | .event input, clock =>
      clock = input.accept.heartbeatClock ∨ ∃ size, clock = input.receive.clock size
  | _, _ => False

section

variable {client : Client} {now : UInt64}

theorem timeSinceLastHeartbeat_toNat (hpast : client.heartbeatTime.toNat ≤ now.toNat) :
    (client.timeSinceLastHeartbeat now).toNat =
      (now.toNat - client.heartbeatTime.toNat) / 1000000 := by
  have hsecs : (1000000 : UInt64).toNat = 1000000 := rfl
  rw [Client.timeSinceLastHeartbeat, UInt64.toNat_div, hsecs,
    UInt64.toNat_sub_of_le _ _ (UInt64.le_iff_toNat_le.mpr hpast)]

theorem timeSinceLastHeartbeat_le (bound : Nat)
    (hpast : client.heartbeatTime.toNat ≤ now.toNat)
    (hnow : now.toNat < client.heartbeatTime.toNat + (bound + 1) * 1000000) :
    (client.timeSinceLastHeartbeat now).toNat ≤ bound := by
  rw [timeSinceLastHeartbeat_toNat hpast]
  omega

theorem lt_timeSinceLastHeartbeat (bound : Nat)
    (hnow : client.heartbeatTime.toNat + (bound + 1) * 1000000 ≤ now.toNat) :
    bound < (client.timeSinceLastHeartbeat now).toNat := by
  rw [timeSinceLastHeartbeat_toNat (by omega)]
  omega

end

namespace NetThread

variable {P : Platform} {s t u : NetThread}

/-- Where the time of a client's last heartbeat comes from in a step. -/
inductive TimeFrom (s t : NetThread) (i : Input) (client : Client) : Prop
  | kept {c : Client} (hc : s.client = some c) (hsock : c.sock = client.sock)
      (htime : client.heartbeatTime = c.heartbeatTime)
      (hbeats : beatsOn client.sock t.trace = beatsOn client.sock s.trace)
  | beaten (hbeats : beatsOn client.sock s.trace < beatsOn client.sock t.trace)
      (hbrings : i.BringsTime client.heartbeatTime)
  | accepted (hnew : client.sock.serial = s.accepts)
      (hbrings : i.BringsTime client.heartbeatTime)

theorem timeFrom_received {client : Client} {input : EventInput} {r : Ingoing}
    (hclient : s.client = some client)
    (hr : handleIngoingData P.flatbuffers P.getpeername client input.receive = .ok r) :
    TimeFrom s (s.received client r) (.event input) r.client := by
  obtain ⟨hsilent, hbeaten⟩ := handleIngoingData_time hr
  have hsock := handleIngoingData_sock hr
  have hbeats : beatsOn r.client.sock (s.received client r).trace =
      beatsOn r.client.sock s.trace + r.handled.count .heartbeat := by
    rw [received, emit, beatsOn_append, hsock, beatsOn, beatsOn, handledOn_handled]
  by_cases hbeat : Message.heartbeat ∈ r.handled
  · have hmore := List.count_pos_iff.mpr hbeat
    exact .beaten (hbeats ▸ Nat.lt_add_of_pos_right hmore) (.inr (hbeaten hbeat))
  · rw [List.count_eq_zero_of_not_mem hbeat, Nat.add_zero] at hbeats
    exact .kept hclient hsock.symm (hsilent hbeat) hbeats

theorem timeFrom_step {i : Input} (h : step P s i = .ok t) {client : Client}
    (hclient : t.client = some client) : TimeFrom s t i client := by
  by_cases hreads : ∃ event, i = .event event ∧ Reads event ∧
      s.client.map (·.sock) = some client.sock
  · obtain ⟨event, rfl, hreads, hsome⟩ := hreads
    obtain ⟨c, hc, -⟩ := Option.map_eq_some_iff.mp hsome
    replace h : s.handleEvent P event = .ok t := h
    rw [handleEvent_of_reads hreads hc] at h
    obtain ⟨r, hr, hend⟩ := readable_ok h
    rcases hend with ⟨-, rfl⟩ | ⟨-, rfl⟩
    · rw [disconnectClient, resetClient_client] at hclient
      cases hclient
    · cases hclient
      exact timeFrom_received hc hr
  · have hspared : Spared client.sock i.acceptClock s t :=
      spared_step h fun event hevent hboth => hreads ⟨event, hevent, hboth⟩
    cases hspared with
    | untouched hsame =>
        obtain ⟨c, hc, hcsock, -, htime⟩ := hsame.client client hclient rfl
        exact .kept hc hcsock htime (congrArg (List.count _) hsame.handled)
    | accepted _ hnew =>
        obtain ⟨hserial, -, htime⟩ := hnew client hclient
        cases i with
        | event event => exact .accepted hserial (.inl (Option.some.inj htime).symm)
        | _ => cases htime

/-! ## Runs -/

theorem heartbeatTime_le {ctrl : CtrlState} {padData : SceCtrlData} {inputs : List Input}
    {heard : Nat} (hheard : ∀ i ∈ inputs, ∀ clock, i.BringsTime clock → clock.toNat ≤ heard)
    (hrun : run P (initial ctrl padData) inputs = .ok s) {client : Client}
    (hclient : s.client = some client) : client.heartbeatTime.toNat ≤ heard := by
  induction inputs using List.reverseRecOn generalizing s client with
  | nil =>
      cases hrun
      cases hclient
  | append_singleton inputs i ih =>
      obtain ⟨v, hv, hstep⟩ := (StepRun.run_concat_eq_ok_iff _ _ _ _).mp hrun
      cases timeFrom_step hstep hclient with
      | kept hc _ htime _ =>
          rw [htime]
          exact ih (fun j hj => hheard j (by simp [hj])) hv hc
      | beaten _ hbrings => exact hheard i (by simp) _ hbrings
      | accepted _ hbrings => exact hheard i (by simp) _ hbrings

/-- While no heartbeat is handled on it, a connection's client keeps its time. -/
theorem heartbeatTime_of_silent {sock : Socket} (haccepted : sock.serial < s.accepts)
    {window : List Input} (hrun : run P s window = .ok u) {client : Client}
    (hclient : u.client = some client) (hsock : client.sock = sock)
    (hsilent : beatsOn sock u.trace = beatsOn sock s.trace) :
    ∃ c, s.client = some c ∧ c.sock = sock ∧ client.heartbeatTime = c.heartbeatTime := by
  induction window using List.reverseRecOn generalizing u client with
  | nil =>
      cases hrun
      exact ⟨client, hclient, hsock, rfl⟩
  | append_singleton window i ih =>
      obtain ⟨v, hv, hstep⟩ := (StepRun.run_concat_eq_ok_iff _ _ _ _).mp hrun
      have hmoves := run_moves (.inl hv)
      have hbefore : beatsOn sock s.trace ≤ beatsOn sock v.trace :=
        beatsOn_mono hmoves.trace_prefix
      subst hsock
      cases timeFrom_step hstep hclient with
      | kept hc hcsock htime hbeats =>
          rw [htime]
          exact ih hv hc hcsock (hbeats.symm.trans hsilent)
      | beaten hbeats _ => omega
      | accepted hnew _ =>
          have hlater := hmoves.accepts_le
          omega

theorem finish_of_late {client : Client} (hclient : s.client = some client) {input : SendInput}
    (hlate : maxHeartbeatInterval < client.timeSinceLastHeartbeat input.heartbeatClock) :
    s.finish P input = .error (.emptyClient .padSending s.disconnectClient) := by
  have hdropped : s.checkHeartbeat client input.heartbeatClock = s.disconnectClient :=
    if_pos hlate
  simp only [finish, hclient, hdropped, disconnectClient, resetClient_client]

/-- The end of an iteration that finds its client late closes the connection, and the thread
does not go on. -/
theorem trace_of_late {client : Client} (hclient : s.client = some client) {input : SendInput}
    (hlate : maxHeartbeatInterval < client.timeSinceLastHeartbeat input.heartbeatClock)
    {rest : List Input} (hend : EndsIn (run P s (.send input :: rest)) t) :
    t.trace = s.trace ++
      [.setEventFlag .pcDisconnect, .epollDel client.sock, .closed client.sock] := by
  have hstop : step P s (.send input) = .error (.emptyClient .padSending s.disconnectClient) :=
    finish_of_late hclient hlate
  rw [run, StepRun.run_cons_of_error hstop] at hend
  have hdrop : t = s.disconnectClient := by
    rcases hend with hend | ⟨site, hend⟩ <;> cases hend
    rfl
  rw [hdrop, disconnectClient, resetClient]
  simp [emit, hclient]

theorem Orderly.unused (h : Orderly t) {sock : Socket} {trace effects : List Effect}
    (htrace : t.trace = trace ++ effects) (hclosed : .closed sock ∈ trace) :
    ∀ e ∈ effects, e.needs ≠ some sock := by
  intro e he hneeds
  obtain ⟨pre, post, rfl⟩ := List.append_of_mem he
  rw [← List.append_assoc] at htrace
  have hlawful := (lifecycle.accepts_iff [] t.trace).mp h.lawful _ e post htrace
  rw [lifecycle, Monitor.after_ofHistory, List.nil_append] at hlawful
  exact (hlawful.1 sock hneeds).2 (List.mem_append_left pre hclosed)

theorem closed_of_left (hs : Owned s) (hu : Owned u) (htrace : s.trace <+: u.trace)
    {client : Client} (hclient : s.client = some client)
    (hleft : ¬ ∃ c, u.client = some c ∧ c.sock = client.sock) :
    .closed client.sock ∈ u.trace := by
  have haccepted := htrace.subset (hs.openIn hclient).1
  by_contra hopen
  apply hleft
  exact Option.map_eq_some_iff.mp ((hu.open_iff client.sock).mp ⟨haccepted, hopen⟩)

/-- In every run, a connection on which no heartbeat is handled for 26 seconds is closed by
the first end of an iteration that finds it so, and from there on nothing else is done to
it: no pad is sent to a client that has fallen silent. -/
theorem silent_client_dropped (P : Platform) (ctrl : CtrlState) (padData : SceCtrlData)
    (before window rest : List Input) (input : SendInput) (s u t : NetThread) (heard : Nat)
    (hheard : ∀ i ∈ before, ∀ clock, i.BringsTime clock → clock.toNat ≤ heard)
    (hbefore : run P (initial ctrl padData) before = .ok s) (client : Client)
    (hclient : s.client = some client) (hwindow : run P s window = .ok u)
    (hsilent : beatsOn client.sock u.trace = beatsOn client.sock s.trace)
    (hlate : heard + (maxHeartbeatInterval.toNat + 1) * 1000000 ≤ input.heartbeatClock.toNat)
    (hend : EndsIn (run P u (.send input :: rest)) t) :
    .closed client.sock ∈ t.trace ∧ (∀ c, t.client = some c → c.sock ≠ client.sock) ∧
      ∃ effects, t.trace = u.trace ++ effects ∧ ∀ e ∈ effects,
        e.needs = some client.sock → e = .epollDel client.sock ∨ e = .closed client.sock := by
  have hthen := (StepRun.run_append_of_ok hbefore window).trans hwindow
  have hs := (run_orderly (.inl hbefore)).owned
  have hu := (run_orderly (.inl hthen)).owned
  have ht : Orderly t := by
    have hrun : EndsIn (run P (initial ctrl padData)
        ((before ++ window) ++ .send input :: rest)) t := by
      rwa [run, StepRun.run_append_of_ok hthen]
    exact run_orderly hrun
  have hgone : .closed client.sock ∈ t.trace → ∀ c, t.client = some c → c.sock ≠ client.sock := by
    intro hclosed c hc hsock
    exact (hsock ▸ ht.owned.openIn hc).2 hclosed
  by_cases hstill : ∃ c, u.client = some c ∧ c.sock = client.sock
  · obtain ⟨c, hc, hsock⟩ := hstill
    have haccepted := hs.fresh client.sock (.inl (hs.openIn hclient).1)
    obtain ⟨c₀, hc₀, -, htime⟩ := heartbeatTime_of_silent haccepted hwindow hc hsock hsilent
    have hold := heartbeatTime_le hheard hbefore hc₀
    rw [← htime] at hold
    have hafter : maxHeartbeatInterval < c.timeSinceLastHeartbeat input.heartbeatClock := by
      rw [UInt64.lt_iff_toNat_lt]
      exact lt_timeSinceLastHeartbeat _ ((Nat.add_le_add_right hold _).trans hlate)
    have htrace := trace_of_late hc hafter hend
    rw [hsock] at htrace
    have hclosed : .closed client.sock ∈ t.trace := by simp [htrace]
    refine ⟨hclosed, hgone hclosed, _, htrace, fun e he hneeds => ?_⟩
    simp only [List.mem_cons, List.not_mem_nil, or_false] at he
    rcases he with rfl | he
    · cases hneeds
    · exact he
  · have hmoves := run_moves (.inl hwindow)
    have hclosed := closed_of_left hs hu hmoves.trace_prefix hclient hstill
    have hmore := run_moves hend
    obtain ⟨effects, htrace⟩ := hmore.trace_prefix
    have hlater : .closed client.sock ∈ t.trace := htrace ▸ List.mem_append_left effects hclosed
    refine ⟨hlater, hgone hlater, effects, htrace.symm, fun e he hneeds => ?_⟩
    exact absurd hneeds (ht.unused htrace.symm hclosed e he)

theorem bringsTime_connect {padMode : Bool} {i : Input} {clock : UInt64}
    (hi : i ∈ (Iteration.instant 0 padMode [.connect 0]).inputs) (h : i.BringsTime clock) :
    clock.toNat ≤ 0 := by
  simp only [Iteration.inputs, Iteration.instant, List.map_cons, List.map_nil, List.mem_append,
    List.mem_cons, List.not_mem_nil, or_false] at hi
  rcases hi with ((rfl | rfl) | rfl) | rfl
  · cases h
  · cases h
  · rcases h with rfl | ⟨_, rfl⟩
    · exact le_rfl
    · exact le_rfl
  · cases h

/-- A client connects and is not heard for 26 seconds. -/
theorem silent_client_dropped_of_connecting :
    ∃ s u t client, run .sample (initial .idle ⟨0, 0, 0, 0, 0, 0⟩)
        (Iteration.instant 0 true [.connect 0]).inputs = .ok s ∧ s.client = some client ∧
      run .sample s [.ctrl (.idle 26002048), .netStatus []] = .ok u ∧
      EndsIn (run .sample u [.send (.instant 26000000 true)]) t ∧
      .closed client.sock ∈ t.trace ∧ (∀ c, t.client = some c → c.sock ≠ client.sock) ∧
      ∃ effects, t.trace = u.trace ++ effects ∧ ∀ e ∈ effects,
        e.needs = some client.sock → e = .epollDel client.sock ∨ e = .closed client.sock := by
  have hstart : (run .sample (initial .idle ⟨0, 0, 0, 0, 0, 0⟩)
      (Iteration.instant 0 true [.connect 0]).inputs).toOption.map (fun s =>
        (s.client.map (·.sock), (run .sample s [.ctrl (.idle 26002048), .netStatus []]).toOption.map
          fun u => (beatsOn ⟨0, 3, ⟨0x0201a8c0, 0x5000⟩⟩ s.trace,
            beatsOn ⟨0, 3, ⟨0x0201a8c0, 0x5000⟩⟩ u.trace))) =
      some (some ⟨0, 3, ⟨0x0201a8c0, 0x5000⟩⟩, some (0, 0)) := by decide +kernel
  obtain ⟨t, hstop⟩ : ∃ t, run .sample (initial .idle ⟨0, 0, 0, 0, 0, 0⟩)
      ((Iteration.instant 0 true [.connect 0]).inputs ++
        ([.ctrl (.idle 26002048), .netStatus []] ++ [.send (.instant 26000000 true)])) =
      .error (.emptyClient .padSending t) := ⟨_, rfl⟩
  obtain ⟨s, hbefore, hs⟩ := StepRun.exists_ok_of_map hstart
  obtain ⟨hsock, hs⟩ := Prod.mk.inj hs
  obtain ⟨client, hclient, hsock⟩ := Option.map_eq_some_iff.mp hsock
  obtain ⟨u, hwindow, hu⟩ := StepRun.exists_ok_of_map hs
  obtain ⟨hold, hnew⟩ := Prod.mk.inj hu
  rw [← hsock] at hold hnew
  rw [run, StepRun.run_append_of_ok hbefore, StepRun.run_append_of_ok hwindow] at hstop
  exact ⟨s, u, t, client, hbefore, hclient, hwindow, .inr ⟨_, hstop⟩,
    silent_client_dropped .sample .idle _ _ _ [] _ s u t 0 (fun _ hi _ h => bringsTime_connect hi h)
      hbefore client hclient hwindow (hnew.trans hold.symm) (by decide) (.inr ⟨_, hstop⟩)⟩

end NetThread

end VitaOxiPad.Server
