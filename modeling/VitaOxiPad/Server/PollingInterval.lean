import Mathlib.Data.List.Chain
import VitaOxiPad.Server.Timestamps
/-!
# The time between two pads

A client is sent a pad only when more than its polling time has passed since the
last one.  A client may ask for any polling time, but none below the default is
taken.  So between two pads to a client lies more than the polling time in force
at the second one, however it has been changed in between.
-/

namespace VitaOxiPad.Server

open NetProtocol

namespace Client

/-- The client is the same connection, with the same last pad, and polls no more often than
is allowed if it did not before. -/
structure SamePace (c c' : Client) : Prop where
  sock : c'.sock = c.sock
  sentDataTime : c'.sentDataTime = c.sentDataTime
  pollingTime : minPollingIntervalMicros.toUInt64 ≤ c.pollingTime →
    minPollingIntervalMicros.toUInt64 ≤ c'.pollingTime

theorem SamePace.refl (c : Client) : SamePace c c := ⟨rfl, rfl, id⟩

theorem SamePace.trans {a b c : Client} (hab : SamePace a b) (hbc : SamePace b c) :
    SamePace a c where
  sock := hbc.sock.trans hab.sock
  sentDataTime := hbc.sentDataTime.trans hab.sentDataTime
  pollingTime := hbc.pollingTime ∘ hab.pollingTime

theorem samePace_handle (getpeername : Socket → SockaddrIn) (client : Client)
    (message : Message) : SamePace client (client.handle getpeername 0 message) := by
  cases message with
  | handshake handshake => exact ⟨rfl, rfl, id⟩
  | config config =>
      simp only [handle, handleConfig]
      split_ifs with hlonger
      · exact ⟨rfl, rfl, fun _ => UInt64.le_of_lt hlonger⟩
      · exact .refl client
  | heartbeat => exact ⟨rfl, rfl, id⟩

theorem samePace_foldl_handle (getpeername : Socket → SockaddrIn) (client : Client)
    (messages : List Message) :
    SamePace client (messages.foldl (handle getpeername 0) client) := by
  induction messages generalizing client with
  | nil => exact .refl client
  | cons message messages ih => exact (samePace_handle getpeername client message).trans (ih _)

theorem SamePace.of_settings {c c' c'' : Client} (h : SamePace c c')
    (hsettings : c''.settings = c'.settings) : SamePace c c'' where
  sock := (congrArg Client.sock hsettings).trans h.sock
  sentDataTime := (congrArg Client.sentDataTime hsettings).trans h.sentDataTime
  pollingTime hmin := by
    have hsame := congrArg Client.pollingTime hsettings
    change c''.pollingTime = c'.pollingTime at hsame
    rw [hsame]
    exact h.pollingTime hmin

end Client

/-- What the clock shows at the points of the code where a client's last pad is timed,
whether or not the code gets there. -/
def Input.sentDataClocks : Input → List Nat
  | .ctrl _ | .netStatus _ => []
  | .event input => [input.accept.sentDataClock.toNat]
  | .send input => [input.pollingClock.toNat, input.sentDataClock.toNat]

namespace NetThread

/-! ## Steps that send no pad and gain no client -/

structure KeepsPace (s t : NetThread) : Prop where
  accepts : s.accepts ≤ t.accepts
  client : ∀ c', t.client = some c' → ∃ c, s.client = some c ∧ c.SamePace c'

theorem KeepsPace.of_same {s t : NetThread} (hclient : t.client = s.client)
    (haccepts : s.accepts ≤ t.accepts) : KeepsPace s t where
  accepts := haccepts
  client c' hc' := ⟨c', hclient ▸ hc', .refl c'⟩

theorem KeepsPace.of_none {s t : NetThread} (hclient : t.client = none)
    (haccepts : s.accepts ≤ t.accepts) : KeepsPace s t where
  accepts := haccepts
  client c' hc' := by
    rw [hclient] at hc'
    cases hc'

theorem KeepsPace.trans {s t u : NetThread} (hst : KeepsPace s t) (htu : KeepsPace t u) :
    KeepsPace s u where
  accepts := hst.accepts.trans htu.accepts
  client c'' hc'' := by
    obtain ⟨c', hc', hlast⟩ := htu.client c'' hc''
    obtain ⟨c, hc, hfirst⟩ := hst.client c' hc'
    exact ⟨c, hc, hfirst.trans hlast⟩

theorem keepsPace_resetClient (s : NetThread) : KeepsPace s s.resetClient := by
  apply KeepsPace.of_none (resetClient_client s)
  unfold resetClient
  split <;> exact le_rfl

theorem keepsPace_covers (P : Platform) : CoversEvents P KeepsPace where
  refl _ := .of_same rfl le_rfl
  trans := .trans
  quiet hclient haccepts _ _ := .of_same hclient haccepts.ge
  signals _ _ _ := .of_same rfl le_rfl
  reset := keepsPace_resetClient
  sent _ _ _ := .of_same rfl le_rfl
  refuse a _ := by
    unfold refuseClient
    split_ifs
    · exact .of_same rfl (Nat.le_succ _)
    · exact .of_same rfl le_rfl
  receive {s client input r} hclient hr := by
    refine ⟨le_rfl, ?_⟩
    rintro c' ⟨⟩
    have hhandled := Client.samePace_foldl_handle P.getpeername client r.handled
    exact ⟨client, hclient, hhandled.of_settings (handleIngoingData_settings hr)⟩
  respond {s client} hclient _ := by
    refine ⟨le_rfl, ?_⟩
    rintro c' ⟨⟩
    exact ⟨client, hclient, rfl, rfl, id⟩

/-! ## The pads to each client -/

/-- Each pad is sent later than its polling time after the one before. -/
def PadsSpaced (sends : List PadSend) : Prop :=
  sends.IsChain fun a b => a.sentDataTime.toNat + b.pollingTime.toNat < b.sentDataTime.toNat

theorem PadsSpaced.concat {sends : List PadSend} {send : PadSend} (h : PadsSpaced sends)
    (hlast : ∀ last, sends.getLast? = some last →
      last.sentDataTime.toNat + send.pollingTime.toNat < send.sentDataTime.toNat) :
    PadsSpaced (sends ++ [send]) := by
  apply List.IsChain.append h (List.isChain_singleton _)
  intro last hmem b hb
  cases hb
  exact hlast last hmem

/-- What holds when the clock has last shown `now`. -/
structure Paced (now : Nat) (s : NetThread) : Prop where
  pollingTime : ∀ client, s.client = some client →
    minPollingIntervalMicros.toUInt64 ≤ client.pollingTime
  sentBefore : ∀ client, s.client = some client → client.sentDataTime.toNat ≤ now
  lastPad : ∀ client, s.client = some client → ∀ send,
    (padsTo client.sock s.trace).getLast? = some send → send.sentDataTime = client.sentDataTime
  fresh : ∀ client, s.client = some client → client.sock.serial < s.accepts
  serials : ∀ send ∈ pads s.trace, send.sock.serial < s.accepts
  spaced : ∀ sock, PadsSpaced (padsTo sock s.trace)

theorem padsTo_congr {trace trace' : List Effect} (h : pads trace' = pads trace) (sock : Socket) :
    padsTo sock trace' = padsTo sock trace := by
  rw [padsTo, padsTo, h]

section

variable {now : Nat} {s t : NetThread}

theorem Paced.keeps (h : Paced now s) (hpads : pads t.trace = pads s.trace)
    (hpace : KeepsPace s t) : Paced now t where
  pollingTime c' hc' := by
    obtain ⟨c, hc, hsame⟩ := hpace.client c' hc'
    exact hsame.pollingTime (h.pollingTime c hc)
  sentBefore c' hc' := by
    obtain ⟨c, hc, hsame⟩ := hpace.client c' hc'
    rw [hsame.sentDataTime]
    exact h.sentBefore c hc
  lastPad c' hc' send hlast := by
    obtain ⟨c, hc, hsame⟩ := hpace.client c' hc'
    rw [padsTo_congr hpads, hsame.sock] at hlast
    rw [hsame.sentDataTime]
    exact h.lastPad c hc send hlast
  fresh c' hc' := by
    obtain ⟨c, hc, hsame⟩ := hpace.client c' hc'
    rw [hsame.sock]
    exact (h.fresh c hc).trans_le hpace.accepts
  serials send hsend := by
    rw [hpads] at hsend
    exact (h.serials send hsend).trans_le hpace.accepts
  spaced sock := by
    rw [padsTo_congr hpads]
    exact h.spaced sock

theorem Paced.later {now' : Nat} (h : Paced now s) (hle : now ≤ now') : Paced now' s :=
  { h with sentBefore := fun c hc => (h.sentBefore c hc).trans hle }

theorem padsTo_new (h : Paced now s) {sock : Socket} (hserial : s.accepts ≤ sock.serial) :
    padsTo sock s.trace = [] := by
  rw [padsTo, List.filter_eq_nil_iff]
  intro send hsend
  have hlt := h.serials send hsend
  simp only [decide_eq_true_eq]
  rintro rfl
  omega

theorem Paced.addClient (P : Platform) (h : Paced now s) {a : Accept}
    (hclock : now ≤ a.sentDataClock.toNat) :
    Paced a.sentDataClock.toNat (s.addClient P a) := by
  have hpads := pads_addClient P s a
  unfold NetThread.addClient at hpads ⊢
  split_ifs at hpads ⊢
  · have hpadsTo := fun sock => padsTo_congr hpads sock
    refine ⟨?_, ?_, ?_, ?_, ?_, ?_⟩
    · rintro client ⟨⟩
      exact UInt64.le_refl _
    · rintro client ⟨⟩
      exact le_rfl
    · rintro client ⟨⟩ send hlast
      have hnone : padsTo ⟨s.accepts, a.fd, a.peer⟩ s.trace = [] := padsTo_new h le_rfl
      rw [hpadsTo, Client.new, hnone] at hlast
      cases hlast
    · rintro client ⟨⟩
      exact Nat.lt_succ_self s.accepts
    · intro send hsend
      rw [hpads] at hsend
      exact Nat.lt_succ_of_lt (h.serials send hsend)
    · intro sock
      rw [hpadsTo]
      exact h.spaced sock
  · exact h.later hclock

/-- Where a pad is due, more than the polling time has passed since the last one. -/
theorem elapsed_of_isPollingTimeElapsed {client : Client} {clock : UInt64}
    (hbefore : client.sentDataTime.toNat ≤ clock.toNat)
    (helapsed : client.isPollingTimeElapsed clock = true) :
    client.sentDataTime.toNat + client.pollingTime.toNat < clock.toNat := by
  have hlt := UInt64.lt_iff_toNat_lt.mp (of_decide_eq_true helapsed)
  rw [Client.timeSinceLastSentData,
    UInt64.toNat_sub_of_le _ _ (UInt64.le_iff_toNat_le.mpr hbefore)] at hlt
  omega

theorem pads_concat (trace : List Effect) (send : PadSend) :
    pads (trace ++ [.padSent send]) = pads trace ++ [send] := pads_append _ _

theorem padsTo_concat (sock : Socket) (trace : List Effect) (send : PadSend) :
    padsTo sock (trace ++ [.padSent send]) =
      if send.sock = sock then padsTo sock trace ++ [send] else padsTo sock trace := by
  rw [padsTo, pads_concat, List.filter_append]
  split_ifs with hsock
  · have hkept : [send].filter (·.sock = sock) = [send] := by simp [hsock]
    rw [hkept, padsTo]
  · have hdropped : [send].filter (·.sock = sock) = [] := by simp [hsock]
    rw [hdropped, List.append_nil, padsTo]

theorem Paced.padSent {P : Platform} (h : Paced now s) {client : Client}
    (hclient : s.client = some client) {input : SendInput} (hnow : now ≤ input.pollingClock.toNat)
    (hclock : input.pollingClock.toNat ≤ input.sentDataClock.toNat)
    (helapsed : client.isPollingTimeElapsed input.pollingClock = true)
    (ht : t = { s.emit [.padSent (s.padSend P client input)] with
      client := some (client.updateSentDataTime input.sentDataClock) }) :
    Paced input.sentDataClock.toNat t := by
  have hbefore := (h.sentBefore client hclient).trans hnow
  have hgap := elapsed_of_isPollingTimeElapsed hbefore helapsed
  have hsent : t.client = some (client.updateSentDataTime input.sentDataClock) := by rw [ht]
  have htrace : t.trace = s.trace ++ [.padSent (s.padSend P client input)] := by
    rw [ht]
    rfl
  have haccepts : t.accepts = s.accepts := by
    rw [ht]
    rfl
  refine ⟨?_, ?_, ?_, ?_, ?_, ?_⟩
  · intro c hc
    cases hsent.symm.trans hc
    exact h.pollingTime client hclient
  · intro c hc
    cases hsent.symm.trans hc
    exact le_rfl
  · intro c hc send hlast
    cases hsent.symm.trans hc
    have hsock : (s.padSend P client input).sock =
        (client.updateSentDataTime input.sentDataClock).sock := rfl
    rw [htrace, padsTo_concat, if_pos hsock, List.getLast?_concat] at hlast
    cases hlast
    rfl
  · intro c hc
    cases hsent.symm.trans hc
    rw [haccepts]
    exact h.fresh client hclient
  · intro send hsend
    rw [htrace, pads_concat, List.mem_append, List.mem_singleton] at hsend
    rw [haccepts]
    rcases hsend with hold | rfl
    · exact h.serials send hold
    · exact h.fresh client hclient
  · intro sock
    rw [htrace, padsTo_concat]
    split_ifs with hsock
    · subst hsock
      apply (h.spaced _).concat
      intro last hlast
      rw [h.lastPad client hclient last hlast]
      exact hgap.trans_le hclock
    · exact h.spaced sock

end

/-! ## Runs -/

theorem Paced.sendPad {P : Platform} {now : Nat} {s : NetThread} (h : Paced now s)
    {client : Client} (hclient : s.client = some client) {input : SendInput}
    (hnow : now ≤ input.pollingClock.toNat)
    (hclock : input.pollingClock.toNat ≤ input.sentDataClock.toNat) :
    Paced input.sentDataClock.toNat (s.sendPad P client input) := by
  have hlater := h.later (hnow.trans hclock)
  unfold NetThread.sendPad
  split_ifs with hdue hfd hfailed
  · exact h.padSent hclient hnow hclock hdue.2.1 rfl
  · have hsent := h.padSent (P := P) hclient hnow hclock hdue.2.1 rfl
    exact hsent.keeps rfl (.of_same rfl le_rfl)
  · exact hlater
  · exact hlater.keeps rfl (.of_same rfl le_rfl)

/-- One step: the state is paced by the clock's last reading, whichever that is. -/
theorem Paced.step {P : Platform} {now : Nat} {s t : NetThread} {i : Input} (h : Paced now s)
    (hclock : (now :: i.sentDataClocks).Pairwise (· ≤ ·)) (hend : EndsIn (step P s i) t) :
    ∃ now' ∈ now :: i.sentDataClocks, Paced now' t := by
  cases i with
  | ctrl read =>
      rcases hend with hok | ⟨site, herr⟩
      · obtain ⟨hclient, htrace, haccepts, -⟩ := readCtrl_client hok
        exact ⟨now, by simp, h.keeps (by rw [htrace]) (.of_same hclient haccepts.ge)⟩
      · simp only [NetThread.step, readCtrl] at herr
        split at herr <;> cases herr
  | netStatus states =>
      rw [endsIn_ok_iff.mp hend]
      have hpads := ((keepsPads_covers P).netStatus s states).pads
      exact ⟨now, by simp, h.keeps hpads ((keepsPace_covers P).netStatus s states)⟩
  | event input =>
      rcases hend with hok | ⟨site, herr⟩
      · have hpads := (keepsPads_handleEvent hok).pads
        rcases (keepsPace_covers P).handleEvent hok with hpace | ⟨-, hpace⟩
        · exact ⟨now, by simp, h.keeps hpads hpace⟩
        · rw [← pads_addClient P s input.accept] at hpads
          have hnow : now ≤ input.accept.sentDataClock.toNat :=
            List.rel_of_pairwise_cons hclock (List.mem_singleton_self _)
          exact ⟨_, List.mem_cons_of_mem now (List.mem_singleton_self _),
            (h.addClient P hnow).keeps hpads hpace⟩
      · rw [handleEvent_emptyClient herr]
        exact ⟨now, by simp, h⟩
  | send input =>
      rcases finish_ends hend with rfl | rfl | ⟨client, hclient, rfl⟩
      · exact ⟨now, by simp, h⟩
      · have hpads := ((keepsPads_covers P).disconnectClient s).pads
        exact ⟨now, by simp, h.keeps hpads ((keepsPace_covers P).disconnectClient s)⟩
      · obtain ⟨hbefore, hafter⟩ := List.pairwise_cons.mp hclock
        have hnow := hbefore input.pollingClock.toNat (by simp [Input.sentDataClocks])
        have hsend : input.pollingClock.toNat ≤ input.sentDataClock.toNat :=
          List.rel_of_pairwise_cons hafter (List.mem_singleton_self _)
        exact ⟨_, by simp [Input.sentDataClocks], h.sendPad hclient hnow hsend⟩

theorem paced_initial (ctrl : CtrlState) (padData : SceCtrlData) :
    Paced 0 (initial ctrl padData) := by
  refine ⟨by rintro _ ⟨⟩, by rintro _ ⟨⟩, by rintro _ ⟨⟩, by rintro _ ⟨⟩, ?_, ?_⟩
  · intro send hsend
    cases hsend
  · intro sock
    exact List.isChain_nil

theorem Paced.run {P : Platform} {now : Nat} {s t : NetThread} (h : Paced now s)
    {inputs : List Input} (hclock : (now :: inputs.flatMap Input.sentDataClocks).Pairwise (· ≤ ·))
    (hend : EndsIn (run P s inputs) t) : ∃ now', Paced now' t := by
  induction inputs generalizing now s with
  | nil =>
      rw [endsIn_ok_iff.mp hend]
      exact ⟨now, h⟩
  | cons i inputs ih =>
      rw [List.flatMap_cons, ← List.cons_append, List.pairwise_append] at hclock
      obtain ⟨hfirst, hrest, hle⟩ := hclock
      cases hstep : NetThread.step P s i with
      | error stop =>
          rw [NetThread.run, StepRun.run_cons_of_error hstep, ← hstep] at hend
          obtain ⟨now', -, ht⟩ := h.step hfirst hend
          exact ⟨now', ht⟩
      | ok u =>
          rw [NetThread.run, StepRun.run_cons_of_ok hstep] at hend
          obtain ⟨now', hmem, hu⟩ := h.step hfirst (.inl hstep)
          exact ih hu (List.pairwise_cons.mpr ⟨hle now' hmem, hrest⟩) hend

/-- On a clock that never goes back, a client's polling time is never below the default, and
between two pads to a client lies more than the polling time in force at the second. -/
theorem pads_keep_polling_time (P : Platform) (ctrl : CtrlState) (padData : SceCtrlData)
    (inputs : List Input) (s : NetThread)
    (hclock : (inputs.flatMap Input.sentDataClocks).Pairwise (· ≤ ·))
    (hrun : EndsIn (run P (initial ctrl padData) inputs) s) :
    (∀ client, s.client = some client →
      minPollingIntervalMicros.toUInt64 ≤ client.pollingTime) ∧
    ∀ sock before a b after, padsTo sock s.trace = before ++ a :: b :: after →
      a.sentDataTime.toNat + b.pollingTime.toNat < b.sentDataTime.toNat := by
  have hstart : (0 :: inputs.flatMap Input.sentDataClocks).Pairwise (· ≤ ·) :=
    List.pairwise_cons.mpr ⟨fun _ _ => Nat.zero_le _, hclock⟩
  obtain ⟨now, hs⟩ := (paced_initial ctrl padData).run hstart hrun
  refine ⟨hs.pollingTime, fun sock before a b after hpads => ?_⟩
  exact List.isChain_iff_forall_rel_of_append_cons_cons.mp (hs.spaced sock) hpads

def slowedDown : List Iteration :=
  [.instant 0 true [.connect 0],
    .instant 10000 true [{ EventInput.connect 10000 with
      sockType := .client, receive := .wouldBlock handshakePacket }],
    .instant 20000 true [{ EventInput.connect 20000 with
      events := ⟨false, true, false, false⟩, sockType := .client, sends := [52] }],
    .instant 25000 true [{ EventInput.connect 25000 with
      sockType := .client, receive := .wouldBlock configPacket }],
    .instant 35000 true []]

theorem pads_keep_polling_time_of_slowedDown :
    ∃ s, run .sample (initial .idle ⟨0, 0, 0, 0, 0, 0⟩) (slowedDown.flatMap Iteration.inputs) =
        .ok s ∧
      (∀ client, s.client = some client →
        minPollingIntervalMicros.toUInt64 ≤ client.pollingTime) ∧
      ∀ sock before a b after, padsTo sock s.trace = before ++ a :: b :: after →
        a.sentDataTime.toNat + b.pollingTime.toNat < b.sentDataTime.toNat := by
  have hok : (run .sample (initial .idle ⟨0, 0, 0, 0, 0, 0⟩)
      (slowedDown.flatMap Iteration.inputs)).isOk = true := by decide +kernel
  obtain ⟨s, hrun⟩ := StepRun.exists_ok_of_isOk hok
  exact ⟨s, hrun, pads_keep_polling_time .sample _ _ _ s (by decide +kernel) (.inl hrun)⟩

end NetThread

end VitaOxiPad.Server
