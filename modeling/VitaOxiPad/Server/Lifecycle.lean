import VitaOxiPad.Server.Registrations
/-!
# The life of a connection

A connection is accepted once.  Only after that and before it is closed is it registered,
read from, written to and sent pads, and it is closed while it is open.
-/

namespace VitaOxiPad.Server

def Effect.needs : Effect → Option Socket
  | .epollAdd sock _ | .epollMod sock _ | .epollDel sock | .closed sock => some sock
  | .handled sock _ | .sent sock _ | .responded sock => some sock
  | .padSent send => some send.sock
  | .accepted _ | .setEventFlag _ | .listening => none

namespace NetThread

def lifecycle : Monitor (List Effect) Effect :=
  .ofHistory fun before e =>
    (∀ sock, e.needs = some sock → OpenIn before sock) ∧
      ∀ sock, e = .accepted sock → .accepted sock ∉ before

theorem openIn_append {effects : List Effect} (h : ∀ e ∈ effects, KeepsSockets e)
    (trace : List Effect) (sock : Socket) :
    OpenIn (trace ++ effects) sock ↔ OpenIn trace sock := by
  have haccepted : .accepted sock ∉ effects := fun hmem => h _ hmem
  have hclosed : .closed sock ∉ effects := fun hmem => h _ hmem
  simp only [OpenIn, List.mem_append, haccepted, hclosed, or_false]

/-- Effects that open and close nothing, on connections that are open. -/
theorem accepts_of_keepsSockets {effects : List Effect} (hkeeps : ∀ e ∈ effects, KeepsSockets e)
    {trace : List Effect}
    (hopen : ∀ e ∈ effects, ∀ sock, e.needs = some sock → OpenIn trace sock) :
    lifecycle.Accepts trace effects := by
  induction effects generalizing trace with
  | nil => trivial
  | cons e effects ih =>
      refine ⟨⟨hopen e (by simp), ?_⟩, ih (fun e' he' => hkeeps e' (by simp [he'])) ?_⟩
      · rintro sock rfl
        exact (hkeeps (.accepted sock) (by simp)).elim
      · intro e' he' sock hneeds
        have hone : ∀ d ∈ [e], KeepsSockets d := by
          intro d hd
          rw [List.mem_singleton.mp hd]
          exact hkeeps e (by simp)
        exact (openIn_append hone trace sock).mpr (hopen e' (by simp [he']) sock hneeds)

structure Orderly (s : NetThread) : Prop where
  owned : Owned s
  lawful : lifecycle.Accepts [] s.trace

section

variable {P : Platform} {s t : NetThread}

theorem Orderly.of_effects (h : Orderly s) (howned : Owned t) {effects : List Effect}
    (htrace : t.trace = s.trace ++ effects) (hlawful : lifecycle.Accepts s.trace effects) :
    Orderly t where
  owned := howned
  lawful := by
    rw [htrace, Monitor.accepts_append, lifecycle, Monitor.after_ofHistory, List.nil_append]
    exact ⟨h.lawful, hlawful⟩

theorem Orderly.keeps (h : Orderly s) (howned : Owned t) {effects : List Effect}
    (htrace : t.trace = s.trace ++ effects) (hkeeps : ∀ e ∈ effects, KeepsSockets e)
    (hopen : ∀ e ∈ effects, ∀ sock, e.needs = some sock → OpenIn s.trace sock) : Orderly t :=
  h.of_effects howned htrace (accepts_of_keepsSockets hkeeps hopen)

theorem Owned.openIn (h : Owned s) {client : Client} (hclient : s.client = some client) :
    OpenIn s.trace client.sock :=
  (h.open_iff client.sock).mpr (by rw [clientSock, hclient, Option.map_some])

theorem Orderly.resetClient (h : Orderly s) : Orderly s.resetClient := by
  have howned := h.owned.resetClient
  unfold NetThread.resetClient at howned ⊢
  split
  · exact h
  · rename_i client hclient
    rw [hclient] at howned
    have hopen := h.owned.openIn hclient
    refine h.of_effects howned rfl ⟨⟨?_, by rintro sock ⟨⟩⟩, ⟨?_, by rintro sock ⟨⟩⟩, trivial⟩
    · rintro sock ⟨⟩
      exact hopen
    · rintro sock ⟨⟩
      show OpenIn (s.trace ++ [.epollDel client.sock]) client.sock
      simpa [OpenIn] using hopen

theorem Orderly.addClient (h : Orderly s) (a : Accept) (hclient : s.client = none) :
    Orderly (s.addClient P a) := by
  have howned := h.owned.addClient (P := P) a hclient
  obtain ⟨haccepted, hclosed⟩ := h.owned.nextSock_new a
  unfold NetThread.addClient at howned ⊢
  split_ifs at howned ⊢
  · refine h.of_effects howned rfl ⟨⟨by rintro sock ⟨⟩, ?_⟩, ⟨?_, by rintro sock ⟨⟩⟩,
      ⟨by rintro sock ⟨⟩, by rintro sock ⟨⟩⟩, trivial⟩
    · rintro sock ⟨⟩
      exact haccepted
    · rintro sock ⟨⟩
      show OpenIn (s.trace ++ [.accepted (s.nextSock a)]) (s.nextSock a)
      simpa [OpenIn] using hclosed
  · exact h

theorem Orderly.refuseClient (h : Orderly s) (a : Accept) : Orderly (s.refuseClient a) := by
  have howned := h.owned.refuseClient a
  obtain ⟨haccepted, hclosed⟩ := h.owned.nextSock_new a
  unfold NetThread.refuseClient at howned ⊢
  split_ifs at howned ⊢
  · refine h.of_effects howned rfl ⟨⟨by rintro sock ⟨⟩, ?_⟩, ⟨?_, by rintro sock ⟨⟩⟩, trivial⟩
    · rintro sock ⟨⟩
      exact haccepted
    · rintro sock ⟨⟩
      show OpenIn (s.trace ++ [.accepted (s.nextSock a)]) (s.nextSock a)
      simpa [OpenIn] using hclosed
  · exact h

theorem orderly_covers : CoversStatus fun s t : NetThread => Orderly s → Orderly t where
  refl _ := id
  trans hst htu h := htu (hst h)
  quiet hclient haccepts htrace _ h := by
    have hnone := htrace.trans (List.append_nil _).symm
    exact h.keeps (h.owned.move (P := .sample) (.quiet hclient haccepts htrace)) hnone (by simp)
      (by simp)
  signals s effects hsignals h := by
    have hkeeps : ∀ e ∈ effects, KeepsSockets e := by
      intro e he
      have hsignal := hsignals e he
      cases e <;> first | exact hsignal.elim | trivial
    refine h.keeps (h.owned.of_keepsSockets effects rfl hkeeps rfl rfl) rfl hkeeps ?_
    intro e he sock hneeds
    have hsignal := hsignals e he
    cases e <;> first | exact hsignal.elim | cases hneeds
  reset _ h := h.resetClient

theorem Orderly.received (h : Orderly s) {client : Client} (hclient : s.client = some client)
    {input : Receive} {r : Ingoing}
    (hr : handleIngoingData P.flatbuffers P.getpeername client input = .ok r) :
    Orderly (s.received client r) := by
  refine h.keeps (h.owned.move (.receive hclient hr)) rfl ?_ ?_
  · intro e he
    obtain ⟨message, -, rfl⟩ := List.mem_map.mp he
    trivial
  · intro e he sock hneeds
    obtain ⟨message, -, rfl⟩ := List.mem_map.mp he
    cases hneeds
    exact h.owned.openIn hclient

theorem Orderly.sent (h : Orderly s) {client : Client} (hclient : s.client = some client)
    (pieces : List (List UInt8)) : Orderly (s.emit (pieces.map (.sent client.sock))) := by
  have hkeeps : ∀ e ∈ pieces.map (Effect.sent client.sock), KeepsSockets e := by
    intro e he
    obtain ⟨piece, -, rfl⟩ := List.mem_map.mp he
    trivial
  refine h.keeps (h.owned.of_keepsSockets _ rfl hkeeps rfl rfl) rfl hkeeps ?_
  intro e he sock hneeds
  obtain ⟨piece, -, rfl⟩ := List.mem_map.mp he
  cases hneeds
  exact h.owned.openIn hclient

theorem Orderly.answered (h : Orderly s) {client : Client} (hclient : s.client = some client)
    (hstate : client.state = .waitingForServerConfirm) : Orderly (s.answered client) := by
  refine h.keeps (h.owned.move (P := .sample) (.respond hclient hstate)) rfl ?_ ?_
  · simp [KeepsSockets]
  · intro e he sock hneeds
    simp only [List.mem_cons, List.not_mem_nil, or_false] at he
    rcases he with rfl | rfl <;> cases hneeds <;> exact h.owned.openIn hclient

theorem Orderly.sendHandshakeResponse (h : Orderly s) {client : Client}
    (hclient : s.client = some client) (hstate : client.state = .waitingForServerConfirm)
    {sends : List Int32} (ht : s.sendHandshakeResponse P client sends = .ok t) : Orderly t := by
  obtain ⟨sent, pieces, -, hend⟩ := sendHandshakeResponse_ok ht
  have hsent := h.sent hclient pieces
  rcases hend with ⟨-, rfl | rfl⟩ | ⟨-, rfl⟩
  · exact orderly_covers.disconnectClient _ hsent
  · exact hsent
  · exact hsent.answered hclient hstate

theorem Orderly.handleEvent (h : Orderly s) {input : EventInput}
    (ht : s.handleEvent P input = .ok t) : Orderly t := by
  cases handling_of_handleEvent ht with
  | idle => exact h
  | hangup => exact orderly_covers.disconnectClient s h
  | connect _ _ hclient => exact orderly_covers.announceClient _ (h.addClient input.accept hclient)
  | refuse => exact orderly_covers.announceClient _ (h.refuseClient input.accept)
  | receive _ hclient hread =>
      obtain ⟨r, hr, hend⟩ := readable_ok hread
      have hreceived := h.received hclient hr
      rcases hend with ⟨-, rfl⟩ | ⟨-, rfl⟩
      · exact orderly_covers.disconnectClient _ hreceived
      · exact hreceived
  | answer _ hclient hstate hanswer => exact h.sendHandshakeResponse hclient hstate hanswer

theorem Orderly.sendPad (h : Orderly s) {client : Client} (hclient : s.client = some client)
    (input : SendInput) : Orderly (s.sendPad P client input) := by
  have howned := (moves_sendPad (P := P) hclient input).invariant
    (fun _ _ ha hab => ha.move hab) h.owned
  unfold NetThread.sendPad NetThread.storeTimeout at howned ⊢
  have hpad : ∀ e ∈ [Effect.padSent (s.padSend P client input)],
      KeepsSockets e ∧ ∀ sock, e.needs = some sock → OpenIn s.trace sock := by
    intro e he
    rw [List.mem_singleton.mp he]
    refine ⟨trivial, ?_⟩
    rintro sock ⟨⟩
    exact h.owned.openIn hclient
  split_ifs at howned ⊢
  · exact h.keeps howned rfl (fun e he => (hpad e he).1) fun e he => (hpad e he).2
  · exact h.keeps howned rfl (fun e he => (hpad e he).1) fun e he => (hpad e he).2
  · exact h
  · exact h.keeps howned (List.append_nil _).symm (by simp) (by simp)

theorem Orderly.step {i : Input} (h : Orderly s) (ht : EndsIn (step P s i) t) : Orderly t := by
  cases i with
  | ctrl read =>
      rcases ht with ht | ⟨site, ht⟩
      · obtain ⟨hclient, htrace, haccepts, -⟩ := readCtrl_client ht
        have hquiet : Move P s t := .quiet hclient haccepts htrace
        exact h.keeps (h.owned.move hquiet) (htrace.trans (List.append_nil _).symm) (by simp)
          (by simp)
      · simp only [NetThread.step, readCtrl] at ht
        split at ht <;> cases ht
  | netStatus states =>
      rw [endsIn_ok_iff.mp ht]
      exact orderly_covers.netStatus s states h
  | event input =>
      rcases ht with ht | ⟨site, ht⟩
      · exact h.handleEvent ht
      · rw [handleEvent_emptyClient ht]
        exact h
  | send input =>
      rcases finish_ends ht with rfl | rfl | ⟨client, hclient, rfl⟩
      · exact h
      · exact orderly_covers.disconnectClient s h
      · exact h.sendPad hclient input

end

theorem orderly_initial (ctrl : CtrlState) (padData : SceCtrlData) :
    Orderly (initial ctrl padData) := ⟨owned_initial ctrl padData, trivial⟩

theorem run_orderly {P : Platform} {ctrl : CtrlState} {padData : SceCtrlData}
    {inputs : List Input} {s : NetThread}
    (hrun : EndsIn (run P (initial ctrl padData) inputs) s) : Orderly s := by
  have hok : ∀ {is : List Input} {t : NetThread}, run P (initial ctrl padData) is = .ok t →
      Orderly t := fun ht =>
    StepRun.run_invariant (fun _ _ _ ha hab => ha.step (.inl hab)) (orderly_initial ctrl padData)
      ht
  rcases hrun with hrun | ⟨site, hrun⟩
  · exact hok hrun
  · obtain ⟨pre, i, post, t, -, hpre, hstep⟩ := (StepRun.run_eq_error_iff _ inputs _).mp hrun
    exact (hok hpre).step (.inr ⟨site, hstep⟩)

/-- In every run, up to its end or the first use of an empty optional, no connection is
accepted twice, and whatever is done to a connection, its closing included, is done after it
has been accepted and before it is closed. -/
theorem connections_used_while_open (P : Platform) (ctrl : CtrlState) (padData : SceCtrlData)
    (inputs : List Input) (s : NetThread)
    (hrun : EndsIn (run P (initial ctrl padData) inputs) s) (before : List Effect) (e : Effect)
    (after : List Effect) (htrace : s.trace = before ++ e :: after) :
    (∀ sock, e.needs = some sock → .accepted sock ∈ before ∧ .closed sock ∉ before) ∧
      ∀ sock, e = .accepted sock → .accepted sock ∉ before := by
  have hlawful := (lifecycle.accepts_iff [] s.trace).mp (run_orderly hrun).lawful
    before e after htrace
  rw [lifecycle, Monitor.after_ofHistory, List.nil_append] at hlawful
  exact hlawful

theorem connections_used_while_open_of_connectTwice :
    ∃ s before after, run .sample (initial .idle ⟨0, 0, 0, 0, 0, 0⟩)
        (connectTwice.flatMap Iteration.inputs) = .ok s ∧
      s.trace = before ++ .closed ⟨1, 3, ⟨0x0201a8c0, 0x5000⟩⟩ :: after ∧
      (∀ sock, (Effect.closed ⟨1, 3, ⟨0x0201a8c0, 0x5000⟩⟩).needs = some sock →
        .accepted sock ∈ before ∧ .closed sock ∉ before) ∧
      ∀ sock, Effect.closed ⟨1, 3, ⟨0x0201a8c0, 0x5000⟩⟩ = .accepted sock →
        .accepted sock ∉ before := by
  have hend : (run .sample (initial .idle ⟨0, 0, 0, 0, 0, 0⟩)
      (connectTwice.flatMap Iteration.inputs)).toOption.map
        (fun s => decide (.closed ⟨1, 3, ⟨0x0201a8c0, 0x5000⟩⟩ ∈ s.trace)) = some true := by
    decide +kernel
  obtain ⟨s, hrun, hmem⟩ := StepRun.exists_ok_of_map hend
  obtain ⟨before, after, htrace⟩ := List.append_of_mem (of_decide_eq_true hmem)
  exact ⟨s, before, after, hrun, htrace,
    connections_used_while_open .sample .idle ⟨0, 0, 0, 0, 0, 0⟩ _ s (.inl hrun) before _ after
      htrace⟩

end NetThread

end VitaOxiPad.Server
