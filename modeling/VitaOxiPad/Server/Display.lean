import VitaOxiPad.Server.Console
/-!
# Whether the console says that it is connected

The main loop draws what it last made of the event flag.  Between the network thread's
client and what is drawn stand the flags that the thread raises, their order, which the flag
does not keep, and the main loop's polls.
-/

namespace VitaOxiPad.Server

/-! ## What has been raised -/

def pcNotes (trace : List Effect) : List Bool :=
  (trace.filterMap Effect.raised).filterMap Raised.pc?

theorem pcNotes_append (trace effects : List Effect) :
    pcNotes (trace ++ effects) = pcNotes trace ++ pcNotes effects := by
  simp only [pcNotes, List.filterMap_append]

theorem noted_of_raised_none {e : Effect} (h : e.raised = none) (last : Option MainEvent) :
    NetThread.noted last e = last := by
  cases e <;> first | rfl | cases h

theorem lastFlag_eq_pcConnect_iff (trace : List Effect) :
    NetThread.lastFlag trace = some .pcConnect ↔ (pcNotes trace).getLast? = some true := by
  induction trace using List.reverseRecOn with
  | nil => simp [NetThread.lastFlag, pcNotes]
  | append_singleton trace e ih =>
      have hlast : NetThread.lastFlag (trace ++ [e]) =
          NetThread.noted (NetThread.lastFlag trace) e := List.foldl_append
      rw [hlast, pcNotes_append]
      cases hraised : e.raised with
      | none =>
          have hnone : pcNotes [e] = [] := by simp [pcNotes, hraised]
          rw [noted_of_raised_none hraised, hnone, List.append_nil]
          exact ih
      | some raised =>
          cases e with
          | setEventFlag event =>
              cases event with
              | pcConnect => simp [NetThread.noted, pcNotes, Effect.raised, Raised.pc?]
              | pcDisconnect => simp [NetThread.noted, pcNotes, Effect.raised, Raised.pc?]
              | netConnect => simpa [NetThread.noted, pcNotes, Effect.raised, Raised.pc?] using ih
              | netDisconnect =>
                  simpa [NetThread.noted, pcNotes, Effect.raised, Raised.pc?] using ih
          | _ => cases hraised

namespace NetThread

variable {P : Platform} {s t : NetThread}

/-- The thread has told of its client, or has lost it with the network. -/
def Told (s : NetThread) : Prop := s.InSync ∨ s.Silent

theorem Silent.of_eq (h : s.Silent) (hclient : t.client = s.client)
    (hflag : NetThread.lastFlag t.trace = NetThread.lastFlag s.trace) : t.Silent where
  client := hclient.trans h.client
  lastFlag := hflag.trans h.lastFlag

theorem Silent.netStatus (h : s.Silent) (states : List NetCtlState) :
    (s.netStatus states).Silent where
  client := by
    by_cases hlost : s.LosesNetwork states
    · exact netStatus_client_of_loses hlost
    · exact (netStatus_client_of_keeps hlost).trans h.client
  lastFlag := (lastFlag_netStatus s states).trans h.lastFlag

theorem Told.netStatus (h : s.Told) (states : List NetCtlState) :
    (s.netStatus states).Told := by
  cases h with
  | inl hsync =>
      by_cases hloses : s.client ≠ none ∧ s.LosesNetwork states
      · exact .inr (netStatus_of_losesNetwork hloses.2 hloses.1 hsync)
      · exact .inl (hsync.netStatus fun hclient hlost => hloses ⟨hclient, hlost⟩)
  | inr hsilent => exact .inr (hsilent.netStatus states)

theorem Told.step (h : s.Told) {i : Input} (hstep : step P s i = .ok t) : t.Told := by
  cases i with
  | ctrl read =>
      obtain ⟨hclient, htrace, -, -⟩ := readCtrl_client hstep
      exact h.imp (fun hsync => hsync.of_eq hclient htrace)
        (fun hsilent => hsilent.of_eq hclient (congrArg NetThread.lastFlag htrace))
  | netStatus states =>
      cases hstep
      exact h.netStatus states
  | event input =>
      cases h with
      | inl hsync => exact .inl (hsync.handleEvent hstep)
      | inr hsilent =>
          rcases handleEvent_of_noClient hsilent.client hstep with ⟨-, hsync⟩ | ⟨-, rfl⟩
          · exact .inl hsync
          · exact .inr hsilent
  | send input =>
      cases h with
      | inl hsync => exact .inl (hsync.finish hstep)
      | inr hsilent =>
          rw [finish_of_noClient hsilent.client hstep]
          exact .inr hsilent

end NetThread

namespace Console

def pcRaised (s : Console) : List Bool :=
  (s.windows.flatten ++ s.window ++ s.netRaising).filterMap Raised.pc?

structure Noted (s : Console) : Prop where
  net : s.pcRaised = pcNotes s.net.trace
  status : s.statusRaising.filterMap Raised.pc? = []
  told : s.net.Told

variable {P : Platform} {s t : Console}

theorem Noted.other (h : s.Noted) (hnet : t.net = s.net) (hraised : t.pcRaised = s.pcRaised)
    (hstatus : t.statusRaising.filterMap Raised.pc? = []) : t.Noted where
  net := by rw [hraised, h.net, hnet]
  status := hstatus
  told := by
    rw [hnet]
    exact h.told

theorem Noted.netTurn (h : s.Noted) {input : Input} (hstep : s.netTurn P input = .ok t) :
    t.Noted := by
  obtain ⟨net, hnet, rfl⟩ := netTurn_ok hstep
  obtain ⟨effects, heffects⟩ := NetThread.step_trace_prefix hnet
  refine ⟨?_, h.status, h.told.step hnet⟩
  have hbefore := h.net
  show ((s.windows.flatten ++ (s.window ++ s.netRaising)) ++
    (net.trace.drop s.net.trace.length).filterMap Effect.raised).filterMap Raised.pc? =
      pcNotes net.trace
  rw [← heffects, List.drop_left, pcNotes_append, ← hbefore, pcRaised, ← List.append_assoc,
    List.filterMap_append]
  rfl

theorem Noted.netRaise (h : s.Noted) : s.netRaise.Noted := by
  apply h.other (netRaise_threads s).1
  · unfold Console.netRaise
    split
    · rfl
    · rename_i raised rest hraising
      simp only [pcRaised, hraising, raise, List.append_assoc, List.cons_append, List.nil_append]
  · unfold Console.netRaise
    split <;> exact h.status

theorem Noted.statusTurn (h : s.Noted) (input : StatusInput) : (s.statusTurn input).Noted := by
  refine h.other (t := s.statusTurn input) rfl ?_ ?_
  · simp only [pcRaised, Console.statusTurn, raise, List.filterMap_append, h.status,
      List.append_nil]
  · show ((_ : List StatusEvent).map Raised.status).filterMap Raised.pc? = []
    rw [List.filterMap_map]
    exact List.filterMap_eq_nil_iff.mpr fun _ _ => rfl

theorem Noted.statusRaise (h : s.Noted) : s.statusRaise.Noted := by
  have hstatus := h.status
  apply h.other (statusRaise_threads s).1
  · unfold Console.statusRaise
    split
    · rfl
    · rename_i raised rest hraising
      rw [hraising, List.filterMap_cons] at hstatus
      cases hpc : raised.pc? with
      | none => simp [pcRaised, raise, hpc]
      | some value => simp [hpc] at hstatus
  · unfold Console.statusRaise
    split
    · exact hstatus
    · rename_i raised rest hraising
      rw [hraising, List.filterMap_cons] at hstatus
      cases hpc : raised.pc? with
      | none => simpa [hpc] using hstatus
      | some value => simp [hpc] at hstatus

theorem Noted.mainTurn (h : s.Noted) : s.mainTurn.Noted := by
  apply h.other (mainTurn_threads s).1
  · unfold Console.mainTurn
    dsimp only
    split <;> simp [pcRaised]
  · unfold Console.mainTurn
    dsimp only
    split <;> exact h.status

theorem Noted.step (h : s.Noted) {i : ConsoleInput} (hstep : step P s i = .ok t) : t.Noted := by
  cases i with
  | net input => exact h.netTurn hstep
  | netRaise =>
      cases hstep
      exact h.netRaise
  | status input =>
      cases hstep
      exact h.statusTurn input
  | statusRaise =>
      cases hstep
      exact h.statusRaise
  | main =>
      cases hstep
      exact h.mainTurn

/-! ## What is drawn -/

def pcWindows (s : Console) : List (List Bool) := s.windows.map (·.filterMap Raised.pc?)

/-- In the last window that has told of the client, a client has not come and gone. -/
def LastWindowClear (s : Console) : Prop :=
  ∀ window, Latch.lastWindow s.pcWindows = some window → ¬ Latch.Blurred window

theorem within_pcConnectState (main : MainThread) (f : Frame) (point : MainPoint) :
    (point.within main f).pcConnectState = main.pcConnectState := by
  cases point <;>
    simp only [MainPoint.within, MainThread.switchScreen, MainThread.leavePadMode,
      MainThread.enterPadMode] <;> split_ifs <;> rfl

theorem Framed.pcConnectState {start : MainLoop} (hstart : start.Settled) {words : List UInt32}
    (h : s.Framed start words) :
    s.loop.main.pcConnectState = s.pcWindows.foldl Latch.read start.main.pcConnectState := by
  cases h with
  | between done _ hwindows _ hloop =>
      rw [hloop, pcWindows, hwindows, List.map_map]
      exact (MainLoop.run_connections hstart done).1
  | within done raised f _ hbegun =>
      have hrun : start.run (done ++ [⟨raised, f⟩]) =
          ((start.run done).raise raised).pollFrame f := List.foldl_append
      have hdone := (MainLoop.run_connections hstart (done ++ [⟨raised, f⟩])).1
      rw [hrun, MainLoop.pollFrame_eq, List.map_append] at hdone
      have hpolled := within_pcConnectState ((start.run done).raise raised).poll.main f
      rw [hbegun.loop, pcWindows, hbegun.windows, List.map_append, List.map_map]
      exact ((hpolled s.point).trans (hpolled .poll).symm).trans hdone

theorem noted_initial (ctrl : CtrlState) (padData : SceCtrlData) (status : StatusThread)
    (connectedToNetwork : Bool) (kctrl : Kctrl) :
    (initial ctrl padData status connectedToNetwork kctrl).Noted :=
  ⟨rfl, rfl, .inl (NetThread.inSync_initial ctrl padData)⟩

/-- In any interleaving, once the main loop has polled all that has been raised about the
client, it draws that a client is connected when one is: exactly if the client has not been
lost with the network and no client since, and the last window to tell of a client has not
had it come and go. -/
theorem display_follows_client_iff (P : Platform) (ctrl : CtrlState) (padData : SceCtrlData)
    (status : StatusThread) (connectedToNetwork : Bool) (kctrl : Kctrl)
    (inputs : List ConsoleInput) (s : Console)
    (hrun : run P (initial ctrl padData status connectedToNetwork kctrl) inputs = .ok s)
    (hpolled : (s.window ++ s.netRaising).filterMap Raised.pc? = []) :
    (s.loop.main.pcConnectState = true ↔ s.net.client ≠ none) ↔
      ¬ s.net.Silent ∧ s.LastWindowClear := by
  have hnoted : s.Noted := StepRun.run_invariant (fun _ _ _ ha hstep => ha.step hstep)
    (noted_initial ctrl padData status connectedToNetwork kctrl) hrun
  obtain ⟨seen, -, hthreads⟩ := run_threads hrun
  have hdrawn : s.loop.main.pcConnectState = s.pcWindows.foldl Latch.read false :=
    hthreads.main.pcConnectState (MainLoop.settled_initial connectedToNetwork kctrl)
  have hraised : pcNotes s.net.trace = s.pcWindows.flatten := by
    rw [← hnoted.net, pcRaised, List.append_assoc, List.filterMap_append, hpolled,
      List.append_nil, pcWindows, List.filterMap_flatten]
  have hflag : NetThread.lastFlag s.net.trace = some .pcConnect ↔
      Latch.latest false s.pcWindows.flatten = true := by
    rw [lastFlag_eq_pcConnect_iff, hraised, MainLoop.latest_eq_true_iff (.inl rfl)]
  have hclear := Latch.foldl_read_eq_latest_iff false s.pcWindows
  rw [hdrawn]
  cases hnoted.told with
  | inl hsync =>
      have hsilent : ¬ s.net.Silent := fun hsilent => hsilent.not_inSync hsync
      have hclient : s.net.client ≠ none ↔
          NetThread.lastFlag s.net.trace = some .pcConnect := hsync
      rw [hclient, hflag, ← Bool.eq_iff_iff, hclear]
      exact (and_iff_right hsilent).symm
  | inr hsilent =>
      have hlatest := hflag.mp hsilent.lastFlag
      have hwindow : s.LastWindowClear := by
        intro window hwindow hblurred
        rw [Latch.latest_flatten hwindow, Latch.latest, List.getLastD_eq_getLast?,
          hblurred.1] at hlatest
        cases hlatest
      rw [hclear.mpr hwindow, hlatest]
      simp [hsilent.client, hsilent]

def settling : List ConsoleInput :=
  interleaved ++ [.netRaise, .netRaise, .netRaise, .statusRaise, .main]

theorem display_follows_client_iff_of_settling :
    ∃ s, run .sample sample settling = .ok s ∧
      (s.window ++ s.netRaising).filterMap Raised.pc? = [] ∧
      ((s.loop.main.pcConnectState = true ↔ s.net.client ≠ none) ↔
        ¬ s.net.Silent ∧ s.LastWindowClear) := by
  have hpolled : (run .sample sample settling).toOption.map
      (fun s => (s.window ++ s.netRaising).filterMap Raised.pc?) = some [] := by decide +kernel
  obtain ⟨s, hrun, hpc⟩ := StepRun.exists_ok_of_map hpolled
  exact ⟨s, hrun, hpc, display_follows_client_iff .sample .idle ⟨0, 0, 0, 0, 0, 0⟩
    (.initial 60 false false) true (moduleStart true false ⟨true, 50⟩) settling s hrun hpc⟩

end Console

end VitaOxiPad.Server
