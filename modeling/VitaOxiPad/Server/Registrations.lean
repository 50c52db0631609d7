import Mathlib.Data.List.Count
import Mathlib.Logic.Function.Basic
import VitaOxiPad.Server.Session
/-!
# Sockets and the epoll set

A connection's socket is closed by the destructor of `EpollSocket`, which runs
when the client is reset, or by the refusal path.  The trace tells which sockets
are open and what is registered with epoll: always the current client's socket,
and the listening socket besides.
-/

namespace VitaOxiPad.Server.NetThread

inductive EpollEntry where
  | server
  | client (sock : Socket)
  deriving DecidableEq, Repr

def epollAtStart : EpollEntry → Option EpollEvents
  | .server => some ⟨true, false, false, false⟩
  | .client _ => none

/-- `sceNetEpollControl`. -/
def controlled (set : EpollEntry → Option EpollEvents) :
    Effect → EpollEntry → Option EpollEvents
  | .epollAdd sock events => Function.update set (.client sock) (some events)
  | .epollMod sock events =>
      Function.update set (.client sock) ((set (.client sock)).map fun _ => events)
  | .epollDel sock => Function.update set (.client sock) none
  | _ => set

def epollSet (trace : List Effect) : EpollEntry → Option EpollEvents :=
  trace.foldl controlled epollAtStart

theorem epollSet_append (trace effects : List Effect) :
    epollSet (trace ++ effects) = effects.foldl controlled (epollSet trace) :=
  List.foldl_append

/-- The effect opens, closes, registers and removes no socket. -/
def KeepsSockets : Effect → Prop
  | .accepted _ | .closed _ | .epollAdd _ _ | .epollDel _ => False
  | _ => True

theorem keepsSockets_of_isNotice {e : Effect} (h : e.IsNotice) : KeepsSockets e := by
  cases e <;> first | exact h.elim | trivial

theorem isSome_controlled {e : Effect} (h : KeepsSockets e)
    (set : EpollEntry → Option EpollEvents) (entry : EpollEntry) :
    (controlled set e entry).isSome = (set entry).isSome := by
  cases e with
  | epollMod sock events =>
      simp only [controlled, Function.update_apply]
      split_ifs with heq
      · rw [heq, Option.isSome_map]
      · rfl
  | accepted | closed | epollAdd | epollDel => exact h.elim
  | _ => rfl

theorem isSome_foldl_controlled {effects : List Effect} (h : ∀ e ∈ effects, KeepsSockets e)
    (set : EpollEntry → Option EpollEvents) (entry : EpollEntry) :
    (effects.foldl controlled set entry).isSome = (set entry).isSome := by
  induction effects generalizing set with
  | nil => rfl
  | cons e effects ih =>
      rw [List.foldl_cons, ih fun e' he' => h e' (by simp [he'])]
      exact isSome_controlled (h e (by simp)) set entry

def OpenIn (trace : List Effect) (sock : Socket) : Prop :=
  .accepted sock ∈ trace ∧ .closed sock ∉ trace

theorem openIn_reset (trace : List Effect) (c sock : Socket) :
    OpenIn (trace ++ [.epollDel c, .closed c]) sock ↔ OpenIn trace sock ∧ sock ≠ c := by
  simp only [OpenIn, List.mem_append, List.mem_cons, List.not_mem_nil, or_false, reduceCtorEq,
    false_or, Effect.closed.injEq, not_or, and_assoc, ne_eq]

theorem openIn_add {trace : List Effect} {n : Socket} (hnew : .closed n ∉ trace)
    (events : EpollEvents) (flag : MainEvent) (sock : Socket) :
    OpenIn (trace ++ [.accepted n, .epollAdd n events, .setEventFlag flag]) sock ↔
      OpenIn trace sock ∨ sock = n := by
  simp only [OpenIn, List.mem_append, List.mem_cons, List.not_mem_nil, or_false, reduceCtorEq,
    Effect.accepted.injEq, or_and_right]
  apply or_congr_right
  constructor
  · exact And.left
  · rintro rfl
    exact ⟨rfl, hnew⟩

theorem openIn_refuse {trace : List Effect} {n : Socket} (hnew : .accepted n ∉ trace)
    (sock : Socket) : OpenIn (trace ++ [.accepted n, .closed n]) sock ↔ OpenIn trace sock := by
  simp only [OpenIn, List.mem_append, List.mem_cons, List.not_mem_nil, or_false, reduceCtorEq,
    false_or, Effect.accepted.injEq, Effect.closed.injEq, not_or]
  constructor
  · rintro ⟨hmem | rfl, hopen, hne⟩
    · exact ⟨hmem, hopen⟩
    · exact absurd rfl hne
  · rintro ⟨hmem, hopen⟩
    refine ⟨.inl hmem, hopen, ?_⟩
    rintro rfl
    exact hnew hmem

theorem isSome_epollSet_reset (trace : List Effect) (c : Socket) (entry : EpollEntry) :
    (epollSet (trace ++ [.epollDel c, .closed c]) entry).isSome ↔
      (epollSet trace entry).isSome ∧ entry ≠ .client c := by
  simp only [epollSet_append, List.foldl_cons, List.foldl_nil, controlled, Function.update_apply]
  split_ifs with heq <;> simp [heq]

theorem isSome_epollSet_add (trace : List Effect) (n : Socket) (events : EpollEvents)
    (flag : MainEvent) (entry : EpollEntry) :
    (epollSet (trace ++ [.accepted n, .epollAdd n events, .setEventFlag flag]) entry).isSome ↔
      (epollSet trace entry).isSome ∨ entry = .client n := by
  simp only [epollSet_append, List.foldl_cons, List.foldl_nil, controlled, Function.update_apply]
  split_ifs with heq <;> simp [heq]

/-! ## What the thread owns -/

def clientSock (s : NetThread) : Option Socket := s.client.map (·.sock)

structure Owned (s : NetThread) : Prop where
  /-- Every socket is one of the connections accepted so far. -/
  fresh : ∀ sock, .accepted sock ∈ s.trace ∨ .closed sock ∈ s.trace → sock.serial < s.accepts
  open_iff : ∀ sock, OpenIn s.trace sock ↔ s.clientSock = some sock
  registered_iff : ∀ entry, (epollSet s.trace entry).isSome ↔
    entry = .server ∨ ∃ sock, s.clientSock = some sock ∧ entry = .client sock
  once : ∀ sock, s.trace.count (.closed sock) ≤ 1

theorem owned_initial (ctrl : CtrlState) (padData : SceCtrlData) :
    Owned (initial ctrl padData) where
  fresh := by simp [initial]
  open_iff := by simp [initial, OpenIn, clientSock]
  registered_iff := by
    intro entry
    cases entry <;> simp [initial, epollSet, epollAtStart, clientSock]
  once := by simp [initial]

theorem Owned.of_keepsSockets {s t : NetThread} (h : Owned s) (effects : List Effect)
    (htrace : t.trace = s.trace ++ effects) (hkeeps : ∀ e ∈ effects, KeepsSockets e)
    (hsock : t.clientSock = s.clientSock) (haccepts : t.accepts = s.accepts) : Owned t := by
  have hno : ∀ sock, .accepted sock ∉ effects ∧ .closed sock ∉ effects :=
    fun sock => ⟨fun hmem => hkeeps _ hmem, fun hmem => hkeeps _ hmem⟩
  refine ⟨?_, ?_, ?_, ?_⟩
  · intro sock
    simp only [htrace, haccepts, List.mem_append, hno, or_false]
    exact h.fresh sock
  · intro sock
    simp only [OpenIn, htrace, hsock, List.mem_append, hno, or_false]
    exact h.open_iff sock
  · intro entry
    rw [htrace, hsock, epollSet_append, isSome_foldl_controlled hkeeps]
    exact h.registered_iff entry
  · intro sock
    rw [htrace, List.count_append, List.count_eq_zero.mpr (hno sock).2, Nat.add_zero]
    exact h.once sock

section

variable {P : Platform} {s : NetThread}

theorem Owned.resetClient (h : Owned s) : Owned s.resetClient := by
  unfold NetThread.resetClient
  cases hclient : s.client with
  | none => exact h
  | some client =>
      have hsock : s.clientSock = some client.sock := by rw [clientSock, hclient, Option.map_some]
      obtain ⟨haccepted, hopen⟩ := (h.open_iff client.sock).mpr hsock
      refine ⟨?_, ?_, ?_, ?_⟩
      · intro sock hmem
        simp only [emit, List.mem_append, List.mem_cons, List.not_mem_nil, or_false,
          reduceCtorEq, false_or, Effect.closed.injEq] at hmem
        rcases hmem with hmem | hmem | rfl
        · exact h.fresh sock (.inl hmem)
        · exact h.fresh sock (.inr hmem)
        · exact h.fresh _ (.inl haccepted)
      · intro sock
        show OpenIn (s.trace ++ [.epollDel client.sock, .closed client.sock]) sock ↔
          none = some sock
        rw [openIn_reset, h.open_iff, hsock]
        simp [eq_comm]
      · intro entry
        show (epollSet (s.trace ++ [.epollDel client.sock, .closed client.sock]) entry).isSome ↔
          entry = .server ∨ ∃ sock, none = some sock ∧ entry = .client sock
        rw [isSome_epollSet_reset, h.registered_iff, hsock]
        cases entry <;> simp [eq_comm]
      · intro sock
        show List.count (.closed sock) (s.trace ++ [.epollDel client.sock, .closed client.sock]) ≤ 1
        by_cases heq : client.sock = sock
        · rw [← heq]
          simp [List.count_append, List.count_eq_zero.mpr hopen]
        · simpa [List.count_append, List.count_cons, heq] using h.once sock

def nextSock (s : NetThread) (a : Accept) : Socket := ⟨s.accepts, a.fd, a.peer⟩

theorem Owned.nextSock_new (h : Owned s) (a : Accept) :
    .accepted (s.nextSock a) ∉ s.trace ∧ .closed (s.nextSock a) ∉ s.trace := by
  constructor
  · exact fun hmem => lt_irrefl _ (h.fresh _ (.inl hmem))
  · exact fun hmem => lt_irrefl _ (h.fresh _ (.inr hmem))

theorem Owned.addClient (h : Owned s) (a : Accept) (hclient : s.client = none) :
    Owned (s.addClient P a) := by
  have hsock : s.clientSock = none := by rw [clientSock, hclient, Option.map_none]
  obtain ⟨hnew, hnewc⟩ := h.nextSock_new a
  unfold NetThread.addClient
  split_ifs
  · refine ⟨?_, ?_, ?_, ?_⟩
    · intro sock hmem
      show sock.serial < s.accepts + 1
      simp only [emit, List.mem_append, List.mem_cons, List.not_mem_nil, or_false,
        reduceCtorEq, Effect.accepted.injEq] at hmem
      rcases hmem with (hmem | rfl) | hmem
      · exact Nat.lt_succ_of_lt (h.fresh sock (.inl hmem))
      · exact Nat.lt_succ_self _
      · exact Nat.lt_succ_of_lt (h.fresh sock (.inr hmem))
    · intro sock
      show OpenIn (s.trace ++ [.accepted (s.nextSock a), .epollAdd (s.nextSock a) clientEvents,
        .setEventFlag .pcConnect]) sock ↔ some (s.nextSock a) = some sock
      rw [openIn_add hnewc, h.open_iff, hsock]
      simp [eq_comm]
    · intro entry
      show (epollSet (s.trace ++ [.accepted (s.nextSock a),
        .epollAdd (s.nextSock a) clientEvents, .setEventFlag .pcConnect]) entry).isSome ↔
          entry = .server ∨ ∃ sock, some (s.nextSock a) = some sock ∧ entry = .client sock
      rw [isSome_epollSet_add, h.registered_iff, hsock]
      simp
    · intro sock
      simpa [emit, List.count_append] using h.once sock
  · exact h

theorem Owned.refuseClient (h : Owned s) (a : Accept) : Owned (s.refuseClient a) := by
  obtain ⟨hnew, hnewc⟩ := h.nextSock_new a
  unfold NetThread.refuseClient
  split_ifs
  · refine ⟨?_, ?_, ?_, ?_⟩
    · intro sock hmem
      show sock.serial < s.accepts + 1
      simp only [emit, List.mem_append, List.mem_cons, List.not_mem_nil, or_false, false_or,
        reduceCtorEq, Effect.accepted.injEq, Effect.closed.injEq] at hmem
      rcases hmem with (hmem | rfl) | (hmem | rfl)
      · exact Nat.lt_succ_of_lt (h.fresh sock (.inl hmem))
      · exact Nat.lt_succ_self _
      · exact Nat.lt_succ_of_lt (h.fresh sock (.inr hmem))
      · exact Nat.lt_succ_self _
    · intro sock
      exact (openIn_refuse hnew sock).trans (h.open_iff sock)
    · intro entry
      show (epollSet (s.trace ++ _) entry).isSome ↔ _
      rw [epollSet_append]
      exact h.registered_iff entry
    · intro sock
      show List.count (.closed sock)
        (s.trace ++ [.accepted (s.nextSock a), .closed (s.nextSock a)]) ≤ 1
      by_cases heq : s.nextSock a = sock
      · rw [← heq]
        simp [List.count_append, List.count_eq_zero.mpr hnewc]
      · simpa [List.count_append, List.count_cons, heq] using h.once sock
  · exact h

theorem Owned.move {t : NetThread} (h : Owned s) (hmove : Move P s t) : Owned t := by
  cases hmove with
  | quiet hclient haccepts htrace =>
      apply h.of_keepsSockets [] (by rw [htrace, List.append_nil]) (by simp) _ haccepts
      rw [clientSock, clientSock, hclient]
  | notices hnotices =>
      exact h.of_keepsSockets _ rfl (fun e he => keepsSockets_of_isNotice (hnotices e he)) rfl rfl
  | reset => exact h.resetClient
  | connect a hclient => exact h.addClient a hclient
  | refuse a hclient => exact h.refuseClient a
  | receive hclient hr =>
      refine h.of_keepsSockets _ rfl ?_ ?_ rfl
      · intro e he
        obtain ⟨message, -, rfl⟩ := List.mem_map.mp he
        trivial
      · simp only [clientSock, hclient, Option.map_some, handleIngoingData_sock hr]
  | respond hclient hstate =>
      refine h.of_keepsSockets _ rfl ?_ ?_ rfl
      · simp [KeepsSockets]
      · simp only [clientSock, hclient, Option.map_some]
  | sendPad hclient hstate helapsed hpadMode =>
      refine h.of_keepsSockets _ rfl ?_ ?_ rfl
      · simp [KeepsSockets]
      · simp only [clientSock, hclient, Option.map_some, Client.updateSentDataTime]

end

theorem run_owned {P : Platform} {ctrl : CtrlState} {padData : SceCtrlData}
    {inputs : List Input} {s : NetThread}
    (hrun : EndsIn (run P (initial ctrl padData) inputs) s) : Owned s :=
  (run_moves hrun).invariant (fun _ _ ha hab => ha.move hab) (owned_initial ctrl padData)

/-- In every run, up to its end or the first use of an empty optional, exactly the
client's socket is open, exactly it and the listening socket are registered with
epoll, and no socket has been closed twice. -/
theorem owns_client_socket (P : Platform) (ctrl : CtrlState) (padData : SceCtrlData)
    (inputs : List Input) (s : NetThread)
    (hrun : EndsIn (run P (initial ctrl padData) inputs) s) :
    (∀ sock, (.accepted sock ∈ s.trace ∧ .closed sock ∉ s.trace) ↔
        ∃ client, s.client = some client ∧ client.sock = sock) ∧
      (∀ entry, (epollSet s.trace entry).isSome ↔
        entry = .server ∨ ∃ client, s.client = some client ∧ entry = .client client.sock) ∧
      ∀ sock, s.trace.count (.closed sock) ≤ 1 := by
  have howned := run_owned hrun
  refine ⟨?_, ?_, howned.once⟩
  · intro sock
    rw [← Option.map_eq_some_iff]
    exact howned.open_iff sock
  · intro entry
    rw [howned.registered_iff]
    simp [clientSock]

/-- One connection is accepted, a second one is refused, and the first hangs up. -/
def connectTwice : List Iteration :=
  [.instant 0 true [.connect 0], .instant 10000 true [.connect 10000],
    .instant 20000 true
      [{ EventInput.connect 0 with events := ⟨false, false, true, false⟩, sockType := .client }]]

theorem owns_client_socket_of_connectTwice :
    ∃ s, run .sample (initial .idle ⟨0, 0, 0, 0, 0, 0⟩)
        (connectTwice.flatMap Iteration.inputs) = .ok s ∧
      (∀ sock, (.accepted sock ∈ s.trace ∧ .closed sock ∉ s.trace) ↔
        ∃ client, s.client = some client ∧ client.sock = sock) ∧
      (∀ entry, (epollSet s.trace entry).isSome ↔
        entry = .server ∨ ∃ client, s.client = some client ∧ entry = .client client.sock) ∧
      ∀ sock, s.trace.count (.closed sock) ≤ 1 := by
  obtain ⟨s, hrun⟩ : ∃ s, run .sample (initial .idle ⟨0, 0, 0, 0, 0, 0⟩)
      (connectTwice.flatMap Iteration.inputs) = .ok s := ⟨_, rfl⟩
  exact ⟨s, hrun, owns_client_socket .sample .idle ⟨0, 0, 0, 0, 0, 0⟩ _ s (.inl hrun)⟩

end VitaOxiPad.Server.NetThread
