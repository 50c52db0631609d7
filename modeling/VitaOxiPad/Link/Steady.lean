import VitaOxiPad.Link.Rate
import VitaOxiPad.Server.Serving
/-!
# The pads keep coming

While the client stays connected and the console in pad mode, the console is a pacer: its
pads go out at the checks of the clock that find the session's polling time over, and at no
others.  So they are late by no more than an iteration takes.
-/

namespace VitaOxiPad.Link

open NetProtocol Server

variable {ε : Type}

def checks (actions : List Action) : List (Pacer.Check Nat) :=
  actions.filterMap fun
    | .console (.send input) => some input.check
    | _ => none

def FindsPadMode : Action → Prop
  | .console (.send input) => input.padMode = true
  | _ => True

/-! ## The clock -/

theorem run_paced {P : Platform} {now : Nat} {s t : NetThread} {inputs : List Input}
    (h : NetThread.Paced now s)
    (hclock : (now :: inputs.flatMap Input.sentDataClocks).Pairwise (· ≤ ·))
    (hrun : NetThread.run P s inputs = .ok t) :
    ∃ now' ∈ now :: inputs.flatMap Input.sentDataClocks, NetThread.Paced now' t := by
  induction inputs using List.reverseRecOn generalizing t with
  | nil =>
      cases hrun
      exact ⟨now, by simp, h⟩
  | append_singleton inputs i ih =>
      obtain ⟨u, hu, hstep⟩ := (StepRun.run_concat_eq_ok_iff _ _ _ _).mp hrun
      rw [List.flatMap_append, List.flatMap_singleton, ← List.cons_append] at hclock ⊢
      obtain ⟨hfirst, hi, hle⟩ := List.pairwise_append.mp hclock
      obtain ⟨now', hmem, hpaced⟩ := ih hfirst hu
      obtain ⟨now'', hmem', hafter⟩ :=
        hpaced.step (List.pairwise_cons.mpr ⟨hle now' hmem, hi⟩) (.inl hstep)
      refine ⟨now'', ?_, hafter⟩
      rcases List.mem_cons.mp hmem' with rfl | hmem'
      · exact List.mem_append_left _ hmem
      · exact List.mem_append_right _ hmem'

theorem sent_before {L : Setup ε} {ctrl : CtrlState} {padData : SceCtrlData}
    {actions : List Action} {input : SendInput} {s : System}
    (hclock : (((actions ++ [Action.console (.send input)]).filterMap Action.input?).flatMap
      Input.sentDataClocks).Pairwise (· ≤ ·))
    (hrun : System.run L (.initial ctrl padData) actions = .ok s) {client : Server.Client}
    (hclient : s.thread.client = some client) :
    client.sentDataTime.toNat ≤ input.pollingClock.toNat := by
  have hlast : [Action.console (.send input)].filterMap Action.input? = [.send input] := rfl
  rw [List.filterMap_append, hlast, List.flatMap_append, List.flatMap_singleton] at hclock
  obtain ⟨hbefore, -, hle⟩ := List.pairwise_append.mp hclock
  have hstart : (0 :: (actions.filterMap Action.input?).flatMap Input.sentDataClocks).Pairwise
      (· ≤ ·) := List.pairwise_cons.mpr ⟨fun _ _ => Nat.zero_le _, hbefore⟩
  obtain ⟨now, hnow, hpaced⟩ :=
    run_paced (NetThread.paced_initial ctrl padData) hstart (run_thread hrun)
  apply (hpaced.sentBefore client hclient).trans
  rcases List.mem_cons.mp hnow with rfl | hnow
  · exact Nat.zero_le _
  · exact hle now hnow input.pollingClock.toNat (by simp [Input.sentDataClocks])

theorem read_le_done {before window : List Action}
    (hclock : (((before ++ window).filterMap Action.input?).flatMap
      Input.sentDataClocks).Pairwise (· ≤ ·)) :
    ∀ c ∈ checks window, c.read ≤ c.done := by
  intro c hc
  obtain ⟨a, ha, hcheck⟩ := List.mem_filterMap.mp hc
  cases a with
  | console i =>
      cases i with
      | send input =>
          cases hcheck
          have hinput : Input.send input ∈ (before ++ window).filterMap Action.input? :=
            List.mem_filterMap.mpr ⟨_, List.mem_append_right before ha, rfl⟩
          have hpair := (List.pairwise_flatMap.mp hclock).1 _ hinput
          exact List.rel_of_pairwise_cons hpair (List.mem_singleton_self _)
      | _ => cases hcheck
  | _ => cases hcheck

/-! ## The one handshake -/

theorem handshakes_opening (L : Setup ε) : L.opening.countP NetThread.isHandshake = 1 := by
  rw [Setup.opening_eq]
  split_ifs <;> rfl

theorem one_le_handshakesOn {L : Setup ε} {trace : List Effect}
    (h : L.opening <+: handledOn L.sock trace) : 1 ≤ handshakesOn L.sock trace := by
  rw [← handshakes_opening L]
  exact h.sublist.countP_le

theorem InStep.handshakesOn_le {L : Setup ε} {s : System} (h : InStep L s) :
    handshakesOn L.sock s.thread.trace ≤ 1 := by
  obtain ⟨beats, hbeats⟩ := h.handled_script
  have hcount := hbeats.sublist.countP_le (p := NetThread.isHandshake)
  have hnone : (List.replicate beats Message.heartbeat).countP NetThread.isHandshake = 0 := by
    rw [List.countP_replicate]
    rfl
  rwa [List.countP_append, handshakes_opening, hnone] at hcount

/-! ## Runs -/

/-- What the pacer makes of the checks in the window is what becomes of the pads. -/
structure Paces (L : Setup ε) (s : System) (client : Server.Client) (window : List Action)
    (t : System) : Prop where
  last : ∀ c, t.thread.client = some c → c.sock = L.sock → c.sentDataTime.toNat =
    Pacer.after L.pollingTime.toNat client.sentDataTime.toNat (checks window)
  sent : ∃ new, NetThread.padsTo L.sock t.thread.trace =
      NetThread.padsTo L.sock s.thread.trace ++ new ∧
    new.map (fun send => send.sentDataTime.toNat) =
      Pacer.times L.pollingTime.toNat client.sentDataTime.toNat (checks window)

variable {L : Setup ε} {s t u : System} {client : Server.Client} {window : List Action}

theorem checks_concat (window : List Action) (a : Action) :
    checks (window ++ [a]) = checks window ++ checks [a] := List.filterMap_append

/-- No check is made, and the client and its pads stay as they are. -/
theorem Paces.idle (h : Paces L s client window u) {a : Action} (hidle : checks [a] = [])
    {c c' : Server.Client} (hc : u.thread.client = some c) (hsock : c.sock = L.sock)
    (hc' : t.thread.client = some c') (htime : c'.sentDataTime = c.sentDataTime)
    (hpads : NetThread.pads t.thread.trace = NetThread.pads u.thread.trace) :
    Paces L s client (window ++ [a]) t where
  last c'' hc'' _ := by
    rw [hc'] at hc''
    cases hc''
    rw [checks_concat, hidle, List.append_nil, htime]
    exact h.last c hc hsock
  sent := by
    rw [checks_concat, hidle, List.append_nil, NetThread.padsTo_congr hpads]
    exact h.sent

theorem Paces.send (h : Paces L s client window u) (hudp : 0 ≤ L.platform.serverUdpFd)
    {input : SendInput} (hmode : input.padMode = true) {c : Server.Client}
    (hc : u.thread.client = some c) (hsock : c.sock = L.sock) (hstate : c.state = .connected)
    (htime : c.pollingTime = L.pollingTime)
    (hbefore : c.sentDataTime.toNat ≤ input.pollingClock.toNat)
    (hfinish : u.thread.finish L.platform input = .ok t.thread)
    {c' : Server.Client} (hc' : t.thread.client = some c') :
    Paces L s client (window ++ [.console (.send input)]) t := by
  obtain ⟨hlast, new, hpads, hnew⟩ :=
    NetThread.finish_paces hudp hmode hc hstate hbefore hfinish hc'
  obtain ⟨old, hsent, hold⟩ := h.sent
  have hone : checks [.console (.send input)] = [input.check] := rfl
  rw [htime, h.last c hc hsock] at hlast hnew
  refine ⟨fun c'' hc'' _ => ?_, old ++ new, ?_, ?_⟩
  · rw [hc'] at hc''
    cases hc''
    rw [checks_concat, hone, Pacer.after_append]
    exact hlast
  · rw [← hsock, hpads, hsock, hsent, List.append_assoc]
  · rw [List.map_append, hold, hnew, checks_concat, hone, Pacer.times_append]

/-- The client's opening has been handled, and answered unless its handshake comes again. -/
structure Served (L : Setup ε) (s : System) : Prop where
  serving : NetThread.Serving L.sock 1 s.thread
  opened : L.opening <+: handledOn L.sock s.thread.trace

theorem Served.step (h : Served L s) {a : Action} (hstep : s.step L a = .ok t) : Served L t := by
  cases step_ok hstep with
  | console _ hthread _ =>
      obtain ⟨effects, heffects⟩ := NetThread.step_trace_prefix hthread
      refine ⟨h.serving.step hthread, ?_⟩
      dsimp only
      rw [← heffects, handledOn_append]
      exact h.opened.trans (List.prefix_append _ _)
  | greet _ => exact ⟨h.serving, h.opened⟩
  | connect _ _ _ => exact ⟨h.serving, h.opened⟩
  | turn _ _ _ => exact ⟨h.serving, h.opened⟩

theorem served_of_connected (hstep : InStep L s)
    (hopened : L.opening <+: handledOn L.sock s.thread.trace)
    (hclient : s.thread.client = some client) (hsock : client.sock = L.sock)
    (hstate : client.state = .connected) : Served L s where
  serving :=
    { accepted := hsock ▸ hstep.tracks.fresh client hclient
      count_le := one_le_handshakesOn hopened
      connected := fun c hc _ => by
        rw [hclient] at hc
        cases hc
        exact .inl hstate }
  opened := hopened

/-- What holds of every state in the window makes the console a pacer. -/
theorem run_paces (hudp : 0 ≤ L.platform.serverUdpFd)
    (hinStep : ∀ done u, done <+: window → System.run L s done = .ok u → InStep L u)
    (hlater : ∀ done input u c, done ++ [.console (.send input)] <+: window →
      System.run L s done = .ok u → u.thread.client = some c →
      c.sentDataTime.toNat ≤ input.pollingClock.toNat)
    (hserved : Served L s) (hclient : s.thread.client = some client)
    (hmode : ∀ a ∈ window, FindsPadMode a) (hwindow : System.run L s window = .ok t)
    (hstays : ∃ c, t.thread.client = some c ∧ c.sock = L.sock) :
    Paces L s client window t := by
  induction window using List.reverseRecOn generalizing t with
  | nil =>
      cases hwindow
      refine ⟨fun c hc _ => ?_, [], (List.append_nil _).symm, rfl⟩
      rw [hclient] at hc
      cases hc
      rfl
  | append_singleton window a ih =>
      obtain ⟨u, hu, hstep⟩ := (StepRun.run_concat_eq_ok_iff _ _ _ _).mp hwindow
      have hpre := List.prefix_append window [a]
      have hpaces : (∃ c, u.thread.client = some c ∧ c.sock = L.sock) →
          Paces L s client window u :=
        ih (fun done v hdone => hinStep done v (hdone.trans hpre))
          (fun done input v c hdone => hlater done input v c (hdone.trans hpre))
          (fun b hb => hmode b (by simp [hb])) hu
      have hthen := hinStep window u hpre hu
      obtain ⟨hserving, hopened⟩ :=
        StepRun.run_invariant (fun _ _ _ hv hvstep => hv.step hvstep) hserved hu
      cases step_ok hstep with
      | @console input _ _ _ hthread _ =>
          obtain ⟨c', hc', hsock'⟩ := hstays
          obtain ⟨c, hc, hcsock, hkept⟩ :=
            NetThread.client_before hserving.accepted hthread hc' hsock'
          have hbefore := hpaces ⟨c, hc, hcsock⟩
          cases input with
          | send input =>
              have hconnected := (hserving.connected c hc hcsock).resolve_right
                (not_lt.mpr hthen.handshakesOn_le)
              have hpadMode : FindsPadMode (.console (.send input)) := hmode _ (by simp)
              exact hbefore.send hudp hpadMode hc hcsock hconnected
                (hthen.settings hopened hc hcsock).1
                (hlater window input u c List.prefix_rfl hu hc) hthread hc'
          | _ =>
              obtain ⟨htime, hpads⟩ := hkept (by simp)
              exact hbefore.idle rfl hc hcsock hc' htime hpads
      -- What the client does leaves the thread as it is.
      | _ =>
          obtain ⟨c, hc, hcsock⟩ := hstays
          exact (hpaces ⟨c, hc, hcsock⟩).idle rfl hc hcsock hc rfl rfl

/-- Over any part of a run in which the client stays connected and the console finds itself
in pad mode, the client is sent its pads at exactly the checks at which the session's polling
time is over: the least one, or the interval that it has asked for if that is longer.  So no
pad is later after the one before than that and the time of an iteration. -/
theorem pads_keep_coming (L : Setup ε) (hpeer : ∀ sock, L.platform.getpeername sock = sock.peer)
    (hopening : Understood L L.opening) (hudp : 0 ≤ L.platform.serverUdpFd) (ctrl : CtrlState)
    (padData : SceCtrlData) (before window : List Action) (s t : System)
    (hcuts : ∀ done u, done <+: before ++ window →
      System.run L (.initial ctrl padData) done = .ok u → AtBoundary u)
    (hclock : (((before ++ window).filterMap Action.input?).flatMap
      Input.sentDataClocks).Pairwise (· ≤ ·))
    (hbefore : System.run L (.initial ctrl padData) before = .ok s)
    (hwindow : System.run L s window = .ok t)
    (hopened : L.opening <+: handledOn L.sock s.thread.trace)
    (client : Server.Client) (hclient : s.thread.client = some client)
    (hsock : client.sock = L.sock) (hstate : client.state = .connected)
    (hmode : ∀ a ∈ window, FindsPadMode a)
    (hstays : ∃ c, t.thread.client = some c ∧ c.sock = L.sock) :
    ∃ new, NetThread.padsTo L.sock t.thread.trace =
        NetThread.padsTo L.sock s.thread.trace ++ new ∧
      new.map (fun send => send.sentDataTime.toNat) =
        Pacer.times L.pollingTime.toNat client.sentDataTime.toNat (checks window) ∧
      ∀ delay, Pacer.Prompt delay (checks window) → new.IsChain fun a b =>
        b.sentDataTime.toNat ≤ a.sentDataTime.toNat + L.pollingTime.toNat + delay := by
  have hinStep : ∀ done u, done <+: window → System.run L s done = .ok u → InStep L u := by
    intro done u hdone hu
    obtain ⟨rest, rfl⟩ := hdone
    have hpre : before ++ done <+: before ++ (done ++ rest) := ⟨rest, by simp⟩
    exact run_inStep hpeer hopening (fun first v hfirst => hcuts first v (hfirst.trans hpre))
      ((StepRun.run_append_eq_ok_iff _ _ _ _).mpr ⟨s, hbefore, hu⟩)
  have hlater : ∀ done input u c, done ++ [.console (.send input)] <+: window →
      System.run L s done = .ok u → u.thread.client = some c →
      c.sentDataTime.toNat ≤ input.pollingClock.toNat := by
    intro done input u c hdone hu hc
    apply sent_before _ ((StepRun.run_append_eq_ok_iff _ _ _ _).mpr ⟨s, hbefore, hu⟩) hc
    obtain ⟨rest, rfl⟩ := hdone
    rw [← List.append_assoc, ← List.append_assoc, List.filterMap_append,
      List.flatMap_append] at hclock
    exact (List.pairwise_append.mp hclock).1
  have hserved :=
    served_of_connected (hinStep [] s List.nil_prefix rfl) hopened hclient hsock hstate
  obtain ⟨new, hnew, htimes⟩ :=
    (run_paces hudp hinStep hlater hserved hclient hmode hwindow hstays).sent
  refine ⟨new, hnew, htimes, fun delay hprompt => ?_⟩
  have hchain : (Pacer.times L.pollingTime.toNat client.sentDataTime.toNat (checks window)).IsChain
      fun a b => b ≤ a + L.pollingTime.toNat + delay :=
    Pacer.times_prompt (Nat.zero_le _) (read_le_done hclock) hprompt
  rw [← htimes, List.isChain_map] at hchain
  exact hchain

theorem findsPadMode_iteration (now : UInt64) (low : UInt8) (events : List EventInput) :
    ∀ a ∈ iteration now low events, FindsPadMode a := by
  intro a ha
  simp only [iteration, List.mem_append, List.mem_cons, List.mem_map, List.not_mem_nil,
    or_false] at ha
  rcases ha with ((rfl | rfl) | ⟨input, -, rfl⟩) | rfl
  · trivial
  · trivial
  · trivial
  · rfl

theorem pads_keep_coming_of_pacing :
    ∃ s t new, System.run .sample (.initial .idle ⟨0, 0, 0, 0, 0, 0⟩) (pacing.take 18) = .ok s ∧
      System.run .sample s (pacing.drop 18) = .ok t ∧
      NetThread.padsTo Setup.sample.sock t.thread.trace =
        NetThread.padsTo Setup.sample.sock s.thread.trace ++ new ∧
      new.map (fun send => send.sentDataTime.toNat) = [45000, 60000] ∧
      new.IsChain fun a b => b.sentDataTime.toNat ≤
        a.sentDataTime.toNat + Setup.sample.pollingTime.toNat + 15000 := by
  have hend : (System.run .sample (.initial .idle ⟨0, 0, 0, 0, 0, 0⟩)
      (pacing.take 18)).toOption.map (fun s => (s.thread.client.map fun c =>
        (c.sock, c.state, c.sentDataTime.toNat), handledOn Setup.sample.sock s.thread.trace,
          (System.run .sample s (pacing.drop 18)).toOption.map fun t =>
            t.thread.client.map (·.sock))) =
      some (some (Setup.sample.sock, .connected, 20000), Setup.sample.opening,
        some (some Setup.sample.sock)) := by decide +kernel
  obtain ⟨s, hbefore, hs⟩ := StepRun.exists_ok_of_map hend
  obtain ⟨hclient, hs⟩ := Prod.mk.inj hs
  obtain ⟨hhandled, hafter⟩ := Prod.mk.inj hs
  obtain ⟨client, hclient, hfields⟩ := Option.map_eq_some_iff.mp hclient
  obtain ⟨hsock, hfields⟩ := Prod.mk.inj hfields
  obtain ⟨hstate, htime⟩ := Prod.mk.inj hfields
  obtain ⟨t, hwindow, ht⟩ := StepRun.exists_ok_of_map hafter
  have hcuts := @atBoundary_of_check Unit .sample (.initial .idle ⟨0, 0, 0, 0, 0, 0⟩)
    (pacing.take 18 ++ pacing.drop 18) 3 (by decide +kernel)
  have hmode : ∀ a ∈ pacing.drop 18, FindsPadMode a := by
    have hdrop : pacing.drop 18 = iteration 45000 5 [] ++ iteration 60000 6 [] := rfl
    rw [hdrop, List.forall_mem_append]
    exact ⟨findsPadMode_iteration _ _ _, findsPadMode_iteration _ _ _⟩
  obtain ⟨new, hpads, htimes, hchain⟩ := pads_keep_coming .sample (fun _ => rfl) understood_sample
    (by decide) .idle _ (pacing.take 18) (pacing.drop 18) s t hcuts (by decide +kernel) hbefore
    hwindow (hhandled ▸ List.prefix_rfl) client hclient hsock hstate hmode
    (Option.map_eq_some_iff.mp ht)
  rw [htime] at htimes
  exact ⟨s, t, new, hbefore, hwindow, hpads, htimes.trans (by decide +kernel),
    hchain 15000 (by unfold Pacer.Prompt; decide +kernel)⟩

end VitaOxiPad.Link
