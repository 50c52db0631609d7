import VitaOxiPad.Link.Control
import VitaOxiPad.Server.PollingInterval
/-!
# The rate that the client has asked for

The polling interval goes from the client's command line into its configuration message,
over the control socket into the console's settings, and from there into the time between
two pads.
-/

namespace VitaOxiPad.Link

open NetProtocol Server

variable {ε : Type}

def Action.input? : Action → Option Input
  | .console input => some input
  | _ => none

theorem run_thread {L : Setup ε} {s t : System} {actions : List Action}
    (h : System.run L s actions = .ok t) :
    NetThread.run L.platform s.thread (actions.filterMap Action.input?) = .ok t.thread := by
  induction actions generalizing s with
  | nil =>
      cases h
      rfl
  | cons a actions ih =>
      obtain ⟨u, hu, hrest⟩ := (StepRun.run_cons_eq_ok_iff _ _ _ _).mp h
      have hthread := ih hrest
      cases step_ok hu with
      | console _ hstep _ =>
          rw [List.filterMap_cons_some (f := Action.input?) rfl]
          exact (StepRun.run_cons_eq_ok_iff _ _ _ _).mpr ⟨_, hstep, hthread⟩
      | greet _ => exact hthread
      | connect _ _ _ => exact hthread
      | turn _ _ _ => exact hthread

section

open NetThread

theorem padsTo_append (sock : Socket) (trace effects : List Effect) :
    padsTo sock (trace ++ effects) = padsTo sock trace ++ padsTo sock effects := by
  rw [padsTo, pads_append, List.filter_append]
  rfl

theorem padsTo_cons_pad {sock : Socket} {send : PadSend} (h : send.sock = sock)
    (effects : List Effect) :
    padsTo sock (.padSent send :: effects) = send :: padsTo sock effects := by
  have hpads : pads (.padSent send :: effects) = send :: pads effects := rfl
  rw [padsTo, hpads, List.filter_cons_of_pos (by simpa using h)]
  rfl

theorem padsTo_neighbours {sock : Socket} {a b : PadSend} {before between after : List Effect}
    (ha : a.sock = sock) (hb : b.sock = sock) (hnext : padsTo sock between = []) :
    padsTo sock (before ++ .padSent a :: between ++ .padSent b :: after) =
      padsTo sock before ++ a :: b :: padsTo sock after := by
  rw [padsTo_append, padsTo_append, padsTo_cons_pad ha, padsTo_cons_pad hb, hnext,
    List.append_assoc]
  rfl

end

theorem minPollingIntervalMicros_le (L : Setup ε) :
    minPollingIntervalMicros.toUInt64.toNat ≤ L.pollingTime.toNat := by
  unfold Setup.pollingTime
  split_ifs with hlong
  · exact (UInt64.lt_iff_toNat_lt.mp hlong).le
  · exact le_rfl

/-- The neighbours are spaced by the polling time that the second is sent with. -/
theorem spaced_by_pollingTime {L : Setup ε} {ctrl : CtrlState} {padData : SceCtrlData}
    {actions : List Action} {s : System}
    (hclock : ((actions.filterMap Action.input?).flatMap Input.sentDataClocks).Pairwise (· ≤ ·))
    (hrun : System.run L (.initial ctrl padData) actions = .ok s)
    {before between after : List Effect} {a b : PadSend}
    (htrace : s.thread.trace = before ++ .padSent a :: between ++ .padSent b :: after)
    {sock : Socket} (ha : a.sock = sock) (hb : b.sock = sock)
    (hnext : NetThread.padsTo sock between = []) :
    a.sentDataTime.toNat + b.pollingTime.toNat < b.sentDataTime.toNat := by
  have hstart : (0 :: (actions.filterMap Action.input?).flatMap Input.sentDataClocks).Pairwise
      (· ≤ ·) := List.pairwise_cons.mpr ⟨fun _ _ => Nat.zero_le _, hclock⟩
  obtain ⟨now, hpaced⟩ := (NetThread.paced_initial ctrl padData).run hstart (.inl (run_thread hrun))
  have hspaced := hpaced.spaced sock
  rw [htrace, padsTo_neighbours ha hb hnext] at hspaced
  exact List.isChain_iff_forall_rel_of_append_cons_cons.mp hspaced rfl

/-- In every interleaving in which the console never stops inside a message and its clock does
not go back, two pads that the client is sent one after the other are further apart than
the least interval, and than the interval on its command line once the opening has been
handled. -/
theorem pads_keep_requested_interval (L : Setup ε)
    (hpeer : ∀ sock, L.platform.getpeername sock = sock.peer)
    (hopening : Understood L L.opening) (ctrl : CtrlState) (padData : SceCtrlData)
    (actions : List Action) (s : System)
    (hcuts : ∀ done t, done <+: actions →
      System.run L (.initial ctrl padData) done = .ok t → AtBoundary t)
    (hclock : ((actions.filterMap Action.input?).flatMap Input.sentDataClocks).Pairwise (· ≤ ·))
    (hrun : System.run L (.initial ctrl padData) actions = .ok s)
    (before between after : List Effect) (a b : PadSend)
    (htrace : s.thread.trace = before ++ .padSent a :: between ++ .padSent b :: after)
    (ha : a.sock = L.sock) (hb : b.sock = L.sock)
    (hnext : NetThread.padsTo L.sock between = []) :
    a.sentDataTime.toNat + minPollingIntervalMicros.toUInt64.toNat < b.sentDataTime.toNat ∧
      (L.opening <+: handledOn L.sock (before ++ .padSent a :: between) →
        a.sentDataTime.toNat + L.pollingTime.toNat < b.sentDataTime.toNat) := by
  have hspaced := spaced_by_pollingTime hclock hrun htrace ha hb hnext
  have hstep := run_inStep hpeer hopening hcuts hrun
  obtain ⟨messages, -, -, hheard⟩ := hstep.script
  obtain ⟨beats, hbeats⟩ := hstep.handled_script
  have hpart : handledOn L.sock (before ++ .padSent a :: between) <+:
      L.opening ++ List.replicate beats .heartbeat := by
    rw [htrace, handledOn_append] at hbeats
    exact (List.prefix_append _ _).trans hbeats
  obtain ⟨htime, -⟩ := hheard.settled.pad htrace
  rw [hb] at htime
  rw [htime] at hspaced
  constructor
  · have hmin := minPollingIntervalMicros_le L
    rcases pollingTimeFor_script hpart with hleast | hasked
    · rwa [hleast] at hspaced
    · rw [hasked] at hspaced
      omega
  · intro hdone
    rwa [(settled_of_opening hpart hdone).1] at hspaced

def pacing : List Action :=
  iteration 0 1 [.connect 0] ++ [.greet] ++
    iteration 10000 2 [{ EventInput.connect 10000 with
      sockType := .client, receive := .wouldBlock greetingPacket }] ++
    iteration 20000 3 [{ EventInput.connect 20000 with
      events := ⟨false, true, false, false⟩, sockType := .client, sends := [52] }] ++
    [.connect responsePacket 0] ++
    iteration 30000 4 [{ EventInput.connect 30000 with
      sockType := .client, receive := .wouldBlock configPacket }] ++
    iteration 45000 5 [] ++ iteration 60000 6 []

theorem pads_keep_requested_interval_of_pacing :
    ∃ s before a b, System.run .sample (.initial .idle ⟨0, 0, 0, 0, 0, 0⟩) pacing = .ok s ∧
      s.thread.trace = before ++ .padSent a :: [] ++ .padSent b :: [] ∧
      a.sentDataTime.toNat + Setup.sample.pollingTime.toNat < b.sentDataTime.toNat := by
  have hend : (System.run .sample (.initial .idle ⟨0, 0, 0, 0, 0, 0⟩) pacing).toOption.map
      (fun s => ((s.thread.trace.drop 10).map fun e => (NetThread.padOf e).map (·.sock),
        handledOn Setup.sample.sock (s.thread.trace.take 10))) =
      some ([some Setup.sample.sock, some Setup.sample.sock], Setup.sample.opening) := by
    decide +kernel
  obtain ⟨s, hrun, hs⟩ := StepRun.exists_ok_of_map hend
  obtain ⟨hpads, hhandled⟩ := Prod.mk.inj hs
  obtain ⟨e, es, hdrop, he, hes⟩ := List.map_eq_cons_iff.mp hpads
  obtain ⟨e', es', rfl, he', hes'⟩ := List.map_eq_cons_iff.mp hes
  obtain ⟨a, ha, hasock⟩ := Option.map_eq_some_iff.mp he
  obtain ⟨b, hb, hbsock⟩ := Option.map_eq_some_iff.mp he'
  rw [padSent_of_padOf ha, padSent_of_padOf hb, List.map_eq_nil_iff.mp hes'] at hdrop
  have htrace : s.thread.trace =
      s.thread.trace.take 10 ++ .padSent a :: [] ++ .padSent b :: [] := by
    rw [List.append_assoc]
    exact (List.take_append_drop 10 _).symm.trans (congrArg (s.thread.trace.take 10 ++ ·) hdrop)
  have hopening : Setup.sample.opening <+:
      handledOn Setup.sample.sock (s.thread.trace.take 10 ++ .padSent a :: []) := by
    rw [handledOn_append, hhandled]
    exact List.prefix_append _ _
  have hcuts := @atBoundary_of_check Unit .sample (.initial .idle ⟨0, 0, 0, 0, 0, 0⟩) pacing 3
    (by decide +kernel)
  have hkept := pads_keep_requested_interval .sample (fun _ => rfl) understood_sample .idle _
    pacing s hcuts (by decide +kernel) hrun _ [] [] a b htrace hasock hbsock rfl
  exact ⟨s, _, a, b, hrun, htrace, hkept.2 hopening⟩

end VitaOxiPad.Link
