import VitaOxiPad.Server.NetThread
/-!
# The notifications of the main thread

The network thread tells the main thread of its client through the event flags
`PC_CONNECT` and `PC_DISCONNECT`.  Every way a client comes or goes raises one of
them, but the loss of the network resets the client without any.
-/

namespace VitaOxiPad.Server.NetThread

def noted (last : Option MainEvent) : Effect → Option MainEvent
  | .setEventFlag .pcConnect => some .pcConnect
  | .setEventFlag .pcDisconnect => some .pcDisconnect
  | _ => last

def lastFlag (trace : List Effect) : Option MainEvent := trace.foldl noted none

theorem lastFlag_append (trace effects : List Effect) :
    lastFlag (trace ++ effects) = effects.foldl noted (lastFlag trace) :=
  List.foldl_append

def InSync (s : NetThread) : Prop :=
  s.client ≠ none ↔ lastFlag s.trace = some .pcConnect

/-- The client is gone and the last flag was that it has come. -/
structure Silent (s : NetThread) : Prop where
  client : s.client = none
  lastFlag : lastFlag s.trace = some .pcConnect

theorem Silent.not_inSync {s : NetThread} (h : s.Silent) : ¬ s.InSync :=
  fun hsync => hsync.mpr h.lastFlag h.client

theorem InSync.of_eq {s t : NetThread} (h : s.InSync) (hclient : t.client = s.client)
    (htrace : t.trace = s.trace) : t.InSync := by
  unfold InSync
  rw [hclient, htrace]
  exact h

theorem InSync.of_present {s t : NetThread} (h : s.InSync) (hs : s.client ≠ none)
    (ht : t.client ≠ none) {effects : List Effect} (htrace : t.trace = s.trace ++ effects)
    (hflags : effects.foldl noted (some .pcConnect) = some .pcConnect) : t.InSync := by
  unfold InSync
  rw [htrace, lastFlag_append, h.mp hs, hflags]
  simp [ht]

/-! ## Each way a client comes or goes -/

theorem inSync_disconnectClient (s : NetThread) : s.disconnectClient.InSync := by
  unfold InSync disconnectClient resetClient emit
  cases hclient : s.client <;> simp [lastFlag_append, noted]

theorem inSync_announceClient {s : NetThread} (h : s.client ≠ none) :
    s.announceClient.InSync := by
  obtain ⟨client, hclient⟩ := Option.ne_none_iff_exists'.mp h
  unfold InSync announceClient emit
  simp [lastFlag_append, noted, hclient]

theorem foldl_noted_handled (sock : Socket) (messages : List Message) (last : Option MainEvent) :
    (messages.map (.handled sock)).foldl noted last = last := by
  induction messages with
  | nil => rfl
  | cons message messages ih => exact ih

theorem foldl_noted_sent (sock : Socket) (pieces : List (List UInt8)) (last : Option MainEvent) :
    (pieces.map (.sent sock)).foldl noted last = last := by
  induction pieces with
  | nil => rfl
  | cons piece pieces ih => exact ih

theorem InSync.readable {P : Platform} {s t : NetThread} {client : Client} {input : Receive}
    (h : s.InSync) (hclient : s.client = some client)
    (hstep : s.readable P client input = .ok t) : t.InSync := by
  obtain ⟨r, -, ⟨-, rfl⟩ | ⟨-, rfl⟩⟩ := readable_ok hstep
  · exact inSync_disconnectClient _
  · exact h.of_present (by simp [hclient]) (by simp [received]) rfl (foldl_noted_handled _ _ _)

theorem InSync.sendHandshakeResponse {P : Platform} {s t : NetThread} {client : Client}
    {sends : List Int32} (h : s.InSync) (hclient : s.client = some client)
    (hstep : s.sendHandshakeResponse P client sends = .ok t) : t.InSync := by
  obtain ⟨sent, pieces, -, hend⟩ := sendHandshakeResponse_ok hstep
  have hpresent : s.client ≠ none := by simp [hclient]
  have hpieces : (s.emit (pieces.map (.sent client.sock))).InSync :=
    h.of_present hpresent hpresent rfl (foldl_noted_sent _ _ _)
  rcases hend with ⟨-, rfl | rfl⟩ | ⟨-, rfl⟩
  · exact inSync_disconnectClient _
  · exact hpieces
  · exact hpieces.of_present hpresent (by simp [answered]) rfl rfl

theorem addClient_announceClient (P : Platform) {s : NetThread} (hclient : s.client = none)
    (a : Accept) :
    (0 ≤ a.fd ∧ (s.addClient P a).announceClient.InSync) ∨
      (¬ 0 ≤ a.fd ∧ (s.addClient P a).announceClient = s) := by
  by_cases hfd : 0 ≤ a.fd
  · refine .inl ⟨hfd, inSync_announceClient ?_⟩
    rw [addClient, if_pos hfd]
    simp
  · refine .inr ⟨hfd, ?_⟩
    rw [addClient, if_neg hfd, announceClient]
    simp only [hclient]

theorem inSync_refuseClient_announceClient {s : NetThread} (h : s.client ≠ none) (a : Accept) :
    (s.refuseClient a).announceClient.InSync := by
  apply inSync_announceClient
  unfold refuseClient
  split_ifs <;> exact h

/-! ## Events -/

def Raises (input : EventInput) : Prop :=
  ((input.events.epollhup || input.events.epollerr) = true ∧ input.sockType = .client) ∨
    ((input.events.epollhup || input.events.epollerr) = false ∧ input.events.epollin = true ∧
      input.sockType = .server ∧ 0 ≤ input.accept.fd)

theorem InSync.handleEvent {P : Platform} {s t : NetThread} {input : EventInput}
    (h : s.InSync) (hstep : s.handleEvent P input = .ok t) : t.InSync := by
  unfold NetThread.handleEvent at hstep
  split_ifs at hstep
  · -- `EPOLLHUP` or `EPOLLERR`
    split at hstep <;> cases hstep
    · exact inSync_disconnectClient s
    · exact h
  · -- `EPOLLIN`
    split at hstep
    next hclient =>
      cases hstep
      rcases addClient_announceClient P hclient input.accept with ⟨-, hadd⟩ | ⟨-, hadd⟩
      · exact hadd
      · rw [hadd]
        exact h
    next client _ hclient =>
      cases hstep
      exact inSync_refuseClient_announceClient (by simp [hclient]) input.accept
    next =>
      cases hstep
      exact h
    next client _ hclient => exact h.readable hclient hstep
  · -- `EPOLLOUT`
    split at hstep
    next =>
      cases hstep
      exact h
    next => cases hstep
    next client _ hclient =>
      split at hstep
      · exact h.sendHandshakeResponse hclient hstep
      · cases hstep
        exact h
  · cases hstep
    exact h

/-- With no client an event raises a flag or does nothing. -/
theorem handleEvent_of_noClient {P : Platform} {s t : NetThread} {input : EventInput}
    (hclient : s.client = none) (hstep : s.handleEvent P input = .ok t) :
    (Raises input ∧ t.InSync) ∨ (¬ Raises input ∧ t = s) := by
  unfold NetThread.handleEvent at hstep
  unfold Raises
  split_ifs at hstep with hhup hin hout
  · simp only [hhup, true_and, Bool.true_eq_false, false_and, or_false]
    split at hstep <;> cases hstep
    · exact .inl ⟨by assumption, inSync_disconnectClient s⟩
    · exact .inr ⟨by simp_all, rfl⟩
  · rw [Bool.not_eq_true] at hhup
    rw [hhup, hin]
    cases hsock : input.sockType with
    | server =>
        rw [hsock, hclient] at hstep
        cases hstep
        simpa using addClient_announceClient P hclient input.accept
    | client =>
        rw [hsock, hclient] at hstep
        cases hstep
        simp
  · have hno : input.sockType = .server → s = t := by
      intro hsock
      rw [hsock] at hstep
      cases hstep
      rfl
    cases hsock : input.sockType with
    | server => simp [hhup, hin, hno hsock]
    | client =>
        rw [hsock, hclient] at hstep
        cases hstep
  · cases hstep
    simp [hhup, hin]

theorem InSync.handleEvents {P : Platform} {s t : NetThread} {events : List EventInput}
    (h : s.InSync) (hrun : s.handleEvents P events = .ok t) : t.InSync :=
  StepRun.run_invariant (fun _ _ _ ha hstep => ha.handleEvent hstep) h hrun

/-- A batch ends the silence exactly when one of its events raises a flag. -/
theorem Silent.handleEvents {P : Platform} {s t : NetThread} {events : List EventInput}
    (h : s.Silent) (hrun : s.handleEvents P events = .ok t) :
    ((∃ e ∈ events, Raises e) ∧ t.InSync) ∨ ((∀ e ∈ events, ¬ Raises e) ∧ t = s) := by
  induction events with
  | nil =>
      cases hrun
      simp
  | cons e events ih =>
      obtain ⟨u, hu, hrest⟩ := (StepRun.run_cons_eq_ok_iff s e events t).mp hrun
      rcases handleEvent_of_noClient h.client hu with ⟨he, hsync⟩ | ⟨he, rfl⟩
      · exact .inl ⟨⟨e, by simp, he⟩, hsync.handleEvents hrest⟩
      · simpa [he] using ih hrest

/-! ## The other steps -/

theorem lastFlag_resetClient (s : NetThread) :
    lastFlag s.resetClient.trace = lastFlag s.trace := by
  unfold resetClient
  split
  · rfl
  · exact lastFlag_append s.trace _

theorem lastFlag_netStatus (s : NetThread) (states : List NetCtlState) :
    lastFlag (s.netStatus states).trace = lastFlag s.trace := by
  rcases netStatus_cases s states with ⟨-, -, hnet⟩ | ⟨-, hnet⟩ | ⟨-, -, hnet⟩ <;> rw [hnet]
  · exact lastFlag_append s.trace _
  · exact (lastFlag_resetClient _).trans (lastFlag_append s.trace _)
  · rfl

theorem netStatus_client_of_loses {s : NetThread} {states : List NetCtlState}
    (h : s.LosesNetwork states) : (s.netStatus states).client = none := by
  rcases netStatus_cases s states with ⟨-, hkept, -⟩ | ⟨-, hnet⟩ | ⟨-, hkept, -⟩
  · exact absurd h hkept
  · rw [hnet]
    exact resetClient_client _
  · exact absurd h hkept

theorem netStatus_client_of_keeps {s : NetThread} {states : List NetCtlState}
    (h : ¬ s.LosesNetwork states) : (s.netStatus states).client = s.client := by
  rcases netStatus_cases s states with ⟨-, -, hnet⟩ | ⟨hlost, -⟩ | ⟨-, -, hnet⟩
  · rw [hnet]
    rfl
  · exact absurd hlost h
  · rw [hnet]
    rfl

theorem losesNetwork_readCtrl {s u : NetThread} {read : CtrlRead} (h : s.readCtrl read = .ok u)
    (states : List NetCtlState) : u.LosesNetwork states ↔ s.LosesNetwork states := by
  rw [LosesNetwork, LosesNetwork, (readCtrl_client h).2.2.2]

theorem netStatus_of_losesNetwork {s : NetThread} {states : List NetCtlState}
    (h : s.LosesNetwork states) (hclient : s.client ≠ none) (hsync : s.InSync) :
    (s.netStatus states).Silent where
  client := netStatus_client_of_loses h
  lastFlag := by rw [lastFlag_netStatus, hsync.mp hclient]

theorem InSync.netStatus {s : NetThread} {states : List NetCtlState} (h : s.InSync)
    (hkeeps : s.client ≠ none → ¬ s.LosesNetwork states) : (s.netStatus states).InSync := by
  have hclient : (s.netStatus states).client = s.client := by
    by_cases hlost : s.LosesNetwork states
    · have hnone : s.client = none := by
        by_contra hpresent
        exact hkeeps hpresent hlost
      rw [netStatus_client_of_loses hlost, hnone]
    · exact netStatus_client_of_keeps hlost
  unfold InSync
  rw [hclient, lastFlag_netStatus]
  exact h

theorem sendPad_spec (P : Platform) (s : NetThread) {client : Client} (input : SendInput)
    (hclient : s.client = some client) :
    (s.sendPad P client input).client ≠ none ∧
      ∃ effects, (s.sendPad P client input).trace = s.trace ++ effects ∧
        effects.foldl noted (some .pcConnect) = some .pcConnect := by
  unfold sendPad storeTimeout
  split_ifs
  · exact ⟨by simp, _, rfl, rfl⟩
  · exact ⟨by simp, _, rfl, rfl⟩
  · exact ⟨by simp [hclient], [], by simp, rfl⟩
  · exact ⟨by simp [hclient], [], by simp, rfl⟩

theorem InSync.finish {P : Platform} {s t : NetThread} {input : SendInput} (h : s.InSync)
    (hstep : s.finish P input = .ok t) : t.InSync := by
  rcases finish_cases hstep with ⟨-, rfl⟩ | ⟨client, hclient, -, rfl⟩
  · exact h
  · obtain ⟨hpresent, effects, htrace, hflags⟩ := sendPad_spec P s input hclient
    exact h.of_present (by simp [hclient]) hpresent htrace hflags

theorem finish_of_noClient {P : Platform} {s t : NetThread} {input : SendInput}
    (hclient : s.client = none) (hstep : s.finish P input = .ok t) : t = s := by
  rcases finish_cases hstep with ⟨-, rfl⟩ | ⟨client, hsome, -, -⟩
  · rfl
  · cases hclient.symm.trans hsome

/-! ## Iterations -/

/-- The network is lost while there is a client, and no event of the same
iteration raises a flag. -/
def LosesClientSilently (s : NetThread) (iteration : Iteration) : Prop :=
  s.client ≠ none ∧ s.LosesNetwork iteration.states ∧ ∀ e ∈ iteration.events, ¬ Raises e

theorem InSync.iterate_iff {P : Platform} {s t : NetThread} {iteration : Iteration}
    (h : s.InSync) (hstep : s.iterate P iteration = .ok t) :
    t.InSync ↔ ¬ s.LosesClientSilently iteration := by
  obtain ⟨u, v, hread, hevents, hfinish⟩ := (iterate_eq_ok_iff P s t iteration).mp hstep
  obtain ⟨hclient, htrace, -, -⟩ := readCtrl_client hread
  have hu : u.InSync := h.of_eq hclient htrace
  unfold LosesClientSilently
  rw [← hclient, ← losesNetwork_readCtrl hread]
  by_cases hlost : u.client ≠ none ∧ u.LosesNetwork iteration.states
  · have hsilent := netStatus_of_losesNetwork hlost.2 hlost.1 hu
    have hbatch := hsilent.handleEvents hevents
    rcases hbatch with ⟨hraises, hsync⟩ | ⟨hquiet, rfl⟩
    · have ht := hsync.finish hfinish
      simpa [hlost, ht] using hraises
    · have ht := finish_of_noClient hsilent.client hfinish
      have hno := hsilent.not_inSync
      rw [ht]
      simpa [hlost, hno] using hquiet
  · have hnet := hu.netStatus fun hpresent hl => hlost ⟨hpresent, hl⟩
    have ht := (hnet.handleEvents hevents).finish hfinish
    constructor
    · exact fun _ hs => hlost ⟨hs.1, hs.2.1⟩
    · exact fun _ => ht

theorem inSync_initial (ctrl : CtrlState) (padData : SceCtrlData) :
    (initial ctrl padData).InSync := by
  simp [InSync, initial, lastFlag]

/-- At the end of every iteration of a run the main thread has been told whether
there is a client, exactly when no iteration loses the client to the network
without raising a flag afterwards. -/
theorem client_notified_iff (P : Platform) (ctrl : CtrlState) (padData : SceCtrlData)
    (iterations : List Iteration) :
    (∀ done s, done <+: iterations → loop P (initial ctrl padData) done = .ok s →
        (s.client ≠ none ↔ lastFlag s.trace = some .pcConnect)) ↔
      ∀ done iteration s t, done ++ [iteration] <+: iterations →
        loop P (initial ctrl padData) done = .ok s → iterate P s iteration = .ok t →
        ¬ s.LosesClientSilently iteration :=
  StepRun.run_holds_iff (I := InSync) (fun _ h => h)
    (fun _ _ _ hs hstep hgood => (hs.iterate_iff hstep).mpr hgood)
    (fun _ _ _ hs hstep ht => (hs.iterate_iff hstep).mp ht)
    (inSync_initial ctrl padData) iterations

/-- A client connects, and in the next iteration the network is gone. -/
theorem not_client_notified_after_network_loss :
    ∃ s, loop .sample (initial .idle ⟨0, 0, 0, 0, 0, 0⟩)
        [.instant 0 true [.connect 0],
          { Iteration.instant 10000 true [] with states := [.disconnected] }] = .ok s ∧
      ¬ (s.client ≠ none ↔ lastFlag s.trace = some .pcConnect) :=
  ⟨_, rfl, by decide⟩

end VitaOxiPad.Server.NetThread
