import Mathlib.Data.List.Pairwise
import VitaOxiPad.Client.PadDelivery
import VitaOxiPad.Server.Session
/-!
# The timestamps of the pads

`get_ctrl` waits for a reading newer than the last one.  If the first read fails
it returns at once, with whatever the read has left in the structure, and the
iteration goes on to send that.
-/

namespace VitaOxiPad.Server.NetThread

open NetProtocol

def padOf : Effect → Option PadSend
  | .padSent send => some send
  | _ => none

def pads (trace : List Effect) : List PadSend := trace.filterMap padOf

theorem pads_append (trace effects : List Effect) :
    pads (trace ++ effects) = pads trace ++ pads effects := List.filterMap_append

def padsTo (sock : Socket) (trace : List Effect) : List PadSend :=
  (pads trace).filter (·.sock = sock)

theorem pads_map {α : Type} {f : α → Effect} (h : ∀ a, padOf (f a) = none) (as : List α) :
    pads (as.map f) = [] := by
  simp [pads, List.filterMap_map, h]

def timestamps (sends : List PadSend) : List UInt64 := sends.map (·.pad.timestamp)

/-! ## Steps that send no pad -/

structure KeepsPads (s t : NetThread) : Prop where
  ctrl : t.ctrl = s.ctrl
  pads : pads t.trace = pads s.trace

theorem KeepsPads.refl (s : NetThread) : KeepsPads s s := ⟨rfl, rfl⟩

theorem KeepsPads.trans {s t u : NetThread} (hst : KeepsPads s t) (htu : KeepsPads t u) :
    KeepsPads s u :=
  ⟨htu.ctrl.trans hst.ctrl, htu.pads.trans hst.pads⟩

theorem KeepsPads.of_append {s t : NetThread} (hctrl : t.ctrl = s.ctrl) {effects : List Effect}
    (htrace : t.trace = s.trace ++ effects) (hno : NetThread.pads effects = []) :
    KeepsPads s t where
  ctrl := hctrl
  pads := by rw [htrace, pads_append, hno, List.append_nil]

theorem keepsPads_resetClient (s : NetThread) : KeepsPads s s.resetClient := by
  unfold resetClient
  split
  · exact .refl s
  · exact .of_append rfl rfl rfl

theorem pads_addClient (P : Platform) (s : NetThread) (a : Accept) :
    pads (s.addClient P a).trace = pads s.trace := by
  unfold addClient
  split_ifs
  · exact (pads_append _ _).trans (List.append_nil _)
  · rfl

theorem addClient_ctrl (P : Platform) (s : NetThread) (a : Accept) :
    (s.addClient P a).ctrl = s.ctrl := by
  unfold addClient
  split_ifs <;> rfl

theorem keepsPads_covers (P : Platform) : CoversEvents P KeepsPads where
  refl := .refl
  trans := .trans
  quiet _ _ htrace hctrl := ⟨hctrl, by rw [htrace]⟩
  signals s effects h := by
    refine .of_append rfl rfl ?_
    rw [NetThread.pads, List.filterMap_eq_nil_iff]
    intro e he
    have hsignal := h e he
    cases e <;> first | rfl | cases hsignal
  reset := keepsPads_resetClient
  sent _ _ _ := .of_append rfl rfl (pads_map (fun _ => rfl) _)
  refuse a _ := by
    unfold refuseClient
    split_ifs
    · exact .of_append rfl rfl rfl
    · exact .refl _
  receive _ _ := .of_append rfl rfl (pads_map (fun _ => rfl) _)
  respond _ _ := .of_append rfl rfl rfl

theorem keepsPads_handleEvent {P : Platform} {s t : NetThread} {input : EventInput}
    (h : s.handleEvent P input = .ok t) : KeepsPads s t := by
  rcases (keepsPads_covers P).handleEvent h with hkeeps | ⟨-, hkeeps⟩
  · exact hkeeps
  · exact KeepsPads.trans ⟨addClient_ctrl P s _, pads_addClient P s _⟩ hkeeps

theorem keepsPads_handleEvents {P : Platform} {s t : NetThread} {events : List EventInput}
    (h : s.handleEvents P events = .ok t) : KeepsPads s t :=
  StepRun.run_invariant (I := KeepsPads s)
    (fun _ _ _ hs hstep => hs.trans (keepsPads_handleEvent hstep)) (.refl s) h

/-! ## The reading and the sending of one iteration -/

/-- A successful read leaves a newer timestamp, a failed one anything at all. -/
theorem readCtrl_timestamps {s t : NetThread} {read : CtrlRead} (h : s.readCtrl read = .ok t) :
    if read.result < 0 then t.ctrl.lastTs = s.ctrl.lastTs
    else s.ctrl.lastTs < t.ctrl.pad.timeStamp ∧ t.ctrl.lastTs = t.ctrl.pad.timeStamp := by
  unfold readCtrl getCtrl at h
  split_ifs at h ⊢
  · cases h
    rfl
  · split at h
    · cases h
    · rename_i ctrl hctrl
      obtain ⟨pad, hpad, rfl⟩ := Option.map_eq_some_iff.mp hctrl
      have hnewer := List.find?_some hpad
      cases h
      exact ⟨of_decide_eq_true hnewer, rfl⟩

def PadDue (P : Platform) (s : NetThread) (input : SendInput) : Prop :=
  0 ≤ P.serverUdpFd ∧ input.padMode = true ∧ ∃ client, s.client = some client ∧
    client.state = .connected ∧ client.isPollingTimeElapsed input.pollingClock = true

theorem finish_pads {P : Platform} {s t : NetThread} {input : SendInput}
    (h : s.finish P input = .ok t) :
    t.ctrl = s.ctrl ∧ (pads t.trace = pads s.trace ∨
      (s.PadDue P input ∧ ∃ send, pads t.trace = pads s.trace ++ [send] ∧
        send.pad.timestamp = s.ctrl.pad.timeStamp)) := by
  rcases finish_cases h with ⟨-, rfl⟩ | ⟨client, hclient, -, rfl⟩
  · exact ⟨rfl, .inl rfl⟩
  · unfold sendPad storeTimeout
    split_ifs with hdue hfd
    · exact ⟨rfl, .inr ⟨⟨hfd, hdue.2.2, client, hclient, hdue.1, hdue.2.1⟩, _,
        pads_append _ _, rfl⟩⟩
    · exact ⟨rfl, .inr ⟨⟨hfd, hdue.2.2, client, hclient, hdue.1, hdue.2.1⟩, _,
        pads_append _ _, rfl⟩⟩
    · exact ⟨rfl, .inl rfl⟩
    · exact ⟨rfl, .inl rfl⟩

/-- A step sends no pad, or it ends an iteration in pad mode and sends one. -/
theorem step_pads {P : Platform} {s t : NetThread} {i : Input} (h : s.step P i = .ok t) :
    pads t.trace = pads s.trace ∨ ∃ input client, i = .send input ∧ input.padMode = true ∧
      s.client = some client ∧ pads t.trace = pads s.trace ++ [s.padSend P client input] := by
  cases i with
  | ctrl read => exact .inl (congrArg pads (readCtrl_client h).2.1)
  | netStatus states =>
      cases h
      exact .inl ((keepsPads_covers P).netStatus s states).pads
  | event input => exact .inl (keepsPads_handleEvent h).pads
  | send input =>
      rcases finish_cases h with ⟨-, rfl⟩ | ⟨client, hclient, -, rfl⟩
      · exact .inl rfl
      · unfold sendPad storeTimeout
        split_ifs with hdue hfd
        · exact .inr ⟨input, client, rfl, hdue.2.2, hclient, pads_append _ _⟩
        · exact .inr ⟨input, client, rfl, hdue.2.2, hclient, pads_append _ _⟩
        · exact .inl rfl
        · exact .inl rfl

/-- The iteration's first read fails, and a pad is sent all the same. -/
def SendsUnread (P : Platform) (s : NetThread) (iteration : Iteration) : Prop :=
  iteration.ctrl.result < 0 ∧ ∃ u v, s.readCtrl iteration.ctrl = .ok u ∧
    handleEvents P (u.netStatus iteration.states) iteration.events = .ok v ∧
    v.PadDue P iteration.send

/-- All pads so far are in the order of their timestamps, up to the last reading. -/
structure InOrder (s : NetThread) : Prop where
  increasing : (timestamps (pads s.trace)).Pairwise (· < ·)
  positive : ∀ x ∈ timestamps (pads s.trace), 0 < x
  read : ∀ x ∈ timestamps (pads s.trace), x ≤ s.ctrl.lastTs

section

variable {s t : NetThread}

theorem InOrder.of_same (h : InOrder s) (hpads : pads t.trace = pads s.trace)
    (hlast : s.ctrl.lastTs ≤ t.ctrl.lastTs) : InOrder t where
  increasing := by
    rw [hpads]
    exact h.increasing
  positive := by
    rw [hpads]
    exact h.positive
  read := by
    rw [hpads]
    exact fun x hx => UInt64.le_trans (h.read x hx) hlast

theorem InOrder.of_sent (h : InOrder s) {send : PadSend}
    (hpads : pads t.trace = pads s.trace ++ [send])
    (hnewer : s.ctrl.lastTs < send.pad.timestamp) (hlast : t.ctrl.lastTs = send.pad.timestamp) :
    InOrder t := by
  have hall : timestamps (pads t.trace) =
      timestamps (pads s.trace) ++ [send.pad.timestamp] := by
    rw [hpads, timestamps, List.map_append, List.map_singleton]
    rfl
  have hbefore : ∀ x ∈ timestamps (pads s.trace), x < send.pad.timestamp :=
    fun x hx => UInt64.lt_of_le_of_lt (h.read x hx) hnewer
  refine ⟨?_, ?_, ?_⟩
  · rw [hall, List.pairwise_append]
    refine ⟨h.increasing, List.pairwise_singleton _ _, fun x hx y hy => ?_⟩
    rw [List.mem_singleton.mp hy]
    exact hbefore x hx
  · intro x hx
    rw [hall, List.mem_append, List.mem_singleton] at hx
    rcases hx with hx | rfl
    · exact h.positive x hx
    · exact UInt64.lt_of_le_of_lt UInt64.zero_le hnewer
  · intro x hx
    rw [hall, List.mem_append, List.mem_singleton] at hx
    rw [hlast]
    rcases hx with hx | rfl
    · exact UInt64.le_of_lt (hbefore x hx)
    · exact UInt64.le_refl _

theorem InOrder.iterate {P : Platform} {iteration : Iteration} (h : InOrder s)
    (hstep : s.iterate P iteration = .ok t) (hread : ¬ SendsUnread P s iteration) :
    InOrder t := by
  obtain ⟨u, v, hu, hv, ht⟩ := (iterate_eq_ok_iff P s t iteration).mp hstep
  have htimes := readCtrl_timestamps hu
  have hstatus := (keepsPads_covers P).netStatus u iteration.states
  have hkept := hstatus.trans (keepsPads_handleEvents hv)
  have hpads : pads v.trace = pads s.trace := by
    rw [hkept.pads, (readCtrl_client hu).2.1]
  rw [← hkept.ctrl] at htimes
  obtain ⟨hctrl, hsame | ⟨hdue, send, hsend, hstamp⟩⟩ := finish_pads ht
  · apply h.of_same (hsame.trans hpads)
    rw [hctrl]
    split_ifs at htimes
    · rw [htimes]
      exact UInt64.le_refl _
    · rw [htimes.2]
      exact UInt64.le_of_lt htimes.1
  · have hok : ¬ iteration.ctrl.result < 0 := fun hfail => hread ⟨hfail, u, v, hu, hv, hdue⟩
    rw [if_neg hok, ← hstamp] at htimes
    apply h.of_sent (hsend.trans (congrArg (· ++ [send]) hpads)) htimes.1
    rw [hctrl]
    exact htimes.2

end

theorem inOrder_initial (ctrl : CtrlState) (padData : SceCtrlData) :
    InOrder (initial ctrl padData) where
  increasing := .nil
  positive := by simp [initial, pads, timestamps]
  read := by simp [initial, pads, timestamps]

/-! ## The client's filter -/

open Client.VitaReports (MainReport)

/-- The client's filter drops no report of an increasing sequence. -/
theorem freshReports_of_increasing {earlier reports : List MainReport}
    (hinc : ((earlier ++ reports).map (·.timestamp)).Pairwise (· < ·))
    (hpos : ∀ report ∈ reports, 0 < report.timestamp) :
    Client.freshReports earlier reports = reports := by
  induction reports generalizing earlier with
  | nil => rfl
  | cons report reports ih =>
      have hfresh : ∀ e ∈ earlier, e.timestamp < report.timestamp := by
        intro e he
        rw [List.map_append, List.pairwise_append] at hinc
        exact hinc.2.2 _ (List.mem_map_of_mem he) _ (by simp)
      rw [Client.freshReports, if_pos ⟨hpos report (by simp), hfresh⟩]
      congr 1
      apply ih
      · simpa using hinc
      · exact fun r hr => hpos r (by simp [hr])

/-- If no pad is sent in an iteration whose first read fails, the pads sent to each
client have increasing timestamps and all pass the client's filter. -/
theorem timestamps_increase (P : Platform) (ctrl : CtrlState) (padData : SceCtrlData)
    (iterations : List Iteration) (s : NetThread)
    (hrun : loop P (initial ctrl padData) iterations = .ok s)
    (hread : ∀ done iteration t, done ++ [iteration] <+: iterations →
      loop P (initial ctrl padData) done = .ok t → ¬ SendsUnread P t iteration)
    (sock : Socket) :
    (timestamps (padsTo sock s.trace)).Pairwise (· < ·) ∧
      ∀ reports : List MainReport,
        reports.map (·.timestamp) = timestamps (padsTo sock s.trace) →
          Client.freshReports [] reports = reports := by
  have hkeeps : ∀ s iteration t, InOrder s → iterate P s iteration = .ok t →
      ¬ SendsUnread P s iteration → InOrder t :=
    fun s iteration t hs hstep hgood => hs.iterate hstep hgood
  have horder : InOrder s :=
    StepRun.run_invariant_of_good hkeeps (inOrder_initial ctrl padData)
      (fun done iteration t _ hpre ht _ _ => hread done iteration t hpre ht)
      iterations s List.prefix_rfl hrun
  have hsub : List.Sublist (timestamps (padsTo sock s.trace)) (timestamps (pads s.trace)) :=
    List.filter_sublist.map _
  have hinc := horder.increasing.sublist hsub
  refine ⟨hinc, fun reports hreports => freshReports_of_increasing ?_ ?_⟩
  · rw [List.nil_append, hreports]
    exact hinc
  · intro report hmem
    have hstamp : report.timestamp ∈ timestamps (padsTo sock s.trace) := by
      rw [← hreports]
      exact List.mem_map_of_mem hmem
    exact horder.positive _ (hsub.subset hstamp)

def sendTwice : List Iteration := Iteration.handshaking ++ [.instant 30000 true []]

theorem timestamps_increase_of_sendTwice :
    ∃ s, loop .sample (initial .idle ⟨0, 0, 0, 0, 0, 0⟩) sendTwice = .ok s ∧
      ∀ sock, (timestamps (padsTo sock s.trace)).Pairwise (· < ·) ∧
        ∀ reports : List MainReport,
          reports.map (·.timestamp) = timestamps (padsTo sock s.trace) →
            Client.freshReports [] reports = reports := by
  have hok : (loop .sample (initial .idle ⟨0, 0, 0, 0, 0, 0⟩) sendTwice).isOk = true := by
    decide +kernel
  obtain ⟨s, hrun⟩ := StepRun.exists_ok_of_isOk hok
  refine ⟨s, hrun, timestamps_increase .sample _ _ sendTwice s hrun ?_⟩
  intro done iteration t hpre _ hunread
  have hmem : iteration ∈ sendTwice := hpre.subset (by simp)
  have hreads : ∀ it ∈ sendTwice, ¬ it.ctrl.result < 0 := by decide
  exact hreads iteration hmem hunread.1

/-- After a pad the first read fails, leaving an old reading in the structure. -/
def sendUnread : List Iteration :=
  Iteration.handshaking ++
    [{ Iteration.instant 30000 true [] with ctrl := { CtrlRead.idle 5 with result := -1 } }]

theorem not_timestamps_increase_of_sendUnread :
    ∃ s sock, loop .sample (initial .idle ⟨0, 0, 0, 0, 0, 0⟩) sendUnread = .ok s ∧
      ¬ (timestamps (padsTo sock s.trace)).Pairwise (· < ·) := by
  let sock : Socket := ⟨0, 3, ⟨0x0201a8c0, 0x5000⟩⟩
  have hend : (loop .sample (initial .idle ⟨0, 0, 0, 0, 0, 0⟩) sendUnread).toOption.map
      (fun s => timestamps (padsTo sock s.trace)) = some [22048, 5] := by decide +kernel
  obtain ⟨s, hrun, hstamps⟩ := StepRun.exists_ok_of_map hend
  refine ⟨s, sock, hrun, ?_⟩
  rw [hstamps]
  decide

end VitaOxiPad.Server.NetThread
