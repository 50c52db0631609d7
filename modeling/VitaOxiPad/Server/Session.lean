import Mathlib.Data.List.Basic
import VitaOxiPad.Lib.Monitor
import VitaOxiPad.Server.Moves
/-!
# Where pads are sent

A session is the life of one registered connection as the trace tells it: which
connection it is, how far its handshake has got, and the port of the last
handshake handled on it.  The client object always agrees with the session, so a
pad goes out only in a connected session, to the connection's peer at that port.
-/

namespace VitaOxiPad.Server

open NetProtocol NetThread

structure Session where
  sock : Socket
  state : Client.State
  port : Option UInt16
  deriving DecidableEq, Repr

namespace Session

def begin (sock : Socket) : Session := ⟨sock, .waitingForHandshake, none⟩

def handled (session : Session) : Message → Session
  | .handshake handshake =>
      { session with state := .waitingForServerConfirm, port := some handshake.port }
  | .config _ | .heartbeat => session

def padAddr (session : Session) : Option SockaddrIn :=
  session.port.map fun port => { session.sock.peer with sinPort := sceNetHtons port }

/-- Effects on one connection do not touch the session of another. -/
def next (session : Session) : Effect → Option Session
  | .closed sock => if sock = session.sock then none else some session
  | .handled sock message =>
      if sock = session.sock then some (session.handled message) else some session
  | .responded sock =>
      if sock = session.sock then some { session with state := .connected } else some session
  | _ => some session

end Session

/-- The sessions of a trace.  A pad may be sent in pad mode, in a connected
session with a known port, to that port of the session's peer. -/
def sessions : Monitor (Option Session) Effect where
  next session
    | .epollAdd sock _ => some (.begin sock)
    | e => session.bind (·.next e)
  Allowed session
    | .padSent send => send.padMode = true ∧ ∃ t port, session = some t ∧
        send.sock = t.sock ∧ t.state = .connected ∧ t.port = some port ∧
        send.clientAddr = some { t.sock.peer with sinPort := sceNetHtons port }
    | _ => True

structure Client.InSession (client : Client) (session : Session) : Prop where
  sock : session.sock = client.sock
  state : session.state = client.state
  dataConnInfo : client.dataConnInfo = session.padAddr
  port : client.state ≠ .waitingForHandshake → session.port ≠ none

def Agree : Option Client → Option Session → Prop
  | none, none => True
  | some client, some session => client.InSession session
  | _, _ => False

structure Tracks (s : NetThread) : Prop where
  accepted : sessions.Accepts none s.trace
  agree : Agree s.client (sessions.after none s.trace)
  /-- No later connection has the client's serial. -/
  fresh : ∀ client, s.client = some client → client.sock.serial < s.accepts

theorem agree_none {session : Option Session} (h : Agree none session) : session = none := by
  cases session with
  | none => rfl
  | some session => exact h.elim

theorem agree_some {client : Client} {session : Option Session}
    (h : Agree (some client) session) : ∃ t, session = some t ∧ client.InSession t := by
  cases session with
  | none => exact h.elim
  | some t => exact ⟨t, rfl, h⟩

theorem Client.InSession.of_fields {client client' : Client} {session : Session}
    (h : client.InSession session) (hsock : client'.sock = client.sock)
    (hstate : client'.state = client.state)
    (hinfo : client'.dataConnInfo = client.dataConnInfo) : client'.InSession session where
  sock := by rw [hsock, h.sock]
  state := by rw [hstate, h.state]
  dataConnInfo := by rw [hinfo, h.dataConnInfo]
  port := by
    rw [hstate]
    exact h.port

theorem Client.InSession.of_settings {client client' : Client} {session : Session}
    (h : client.InSession session) (hsettings : client'.settings = client.settings) :
    client'.InSession session := by
  have hsock := congrArg Client.sock hsettings
  have hstate := congrArg Client.state hsettings
  have hinfo := congrArg Client.dataConnInfo hsettings
  exact h.of_fields hsock hstate hinfo

/-! ## Messages -/

theorem Client.InSession.handle {getpeername : Socket → SockaddrIn}
    (hpeer : ∀ sock, getpeername sock = sock.peer) {client : Client} {session : Session}
    (h : client.InSession session) (message : Message) :
    (client.handle getpeername 0 message).InSession (session.handled message) := by
  cases message with
  | handshake handshake =>
      refine ⟨h.sock, rfl, ?_, fun _ => by simp [Session.handled]⟩
      simp only [Client.handle, Client.handleHandshake, Session.handled, Session.padAddr,
        hpeer, h.sock, Option.map_some]
  | config config =>
      simp only [Client.handle, Client.handleConfig, Session.handled]
      split_ifs
      · exact h.of_fields rfl rfl rfl
      · exact h
  | heartbeat => exact h.of_fields rfl rfl rfl

theorem agree_handled {getpeername : Socket → SockaddrIn}
    (hpeer : ∀ sock, getpeername sock = sock.peer) {client : Client} {session : Session}
    (h : client.InSession session) (messages : List Message) :
    ∃ t, sessions.after (some session) (messages.map (.handled client.sock)) = some t ∧
      (messages.foldl (Client.handle getpeername 0) client).InSession t := by
  induction messages generalizing client session with
  | nil => exact ⟨session, rfl, h⟩
  | cons message messages ih =>
      have hnext : sessions.next (some session) (.handled client.sock message) =
          some (session.handled message) := if_pos h.sock.symm
      obtain ⟨t, ht, hclient⟩ := ih (h.handle hpeer message)
      refine ⟨t, ?_, hclient⟩
      rw [Client.handle_sock] at ht
      rw [List.map_cons, Monitor.after_cons, hnext, ht]

/-! ## Moves -/

theorem accepts_of_no_pad {effects : List Effect} (h : ∀ e ∈ effects, ∀ send, e ≠ .padSent send)
    (session : Option Session) : sessions.Accepts session effects := by
  induction effects generalizing session with
  | nil => trivial
  | cons e effects ih =>
      refine ⟨?_, ih (fun e' he' => h e' (by simp [he'])) _⟩
      cases e with
      | padSent send => exact absurd rfl (h _ (by simp) send)
      | _ => trivial

theorem after_notices {effects : List Effect} (h : ∀ e ∈ effects, e.IsNotice)
    (session : Option Session) : sessions.after session effects = session := by
  induction effects with
  | nil => rfl
  | cons e effects ih =>
      have he : e.IsNotice := h e (by simp)
      have hnext : sessions.next session e = session := by
        cases e <;> first | exact he.elim | (cases session <;> rfl)
      rw [Monitor.after_cons, hnext, ih fun e' he' => h e' (by simp [he'])]

theorem Tracks.emit {s t : NetThread} (h : Tracks s) (effects : List Effect)
    (htrace : t.trace = s.trace ++ effects) (hno : ∀ e ∈ effects, ∀ send, e ≠ .padSent send)
    (hagree : Agree t.client (sessions.after (sessions.after none s.trace) effects))
    (hfresh : ∀ client, t.client = some client → client.sock.serial < t.accepts) : Tracks t where
  accepted := by
    rw [htrace, Monitor.accepts_append]
    exact ⟨h.accepted, accepts_of_no_pad hno _⟩
  agree := by
    rw [htrace, Monitor.after_append]
    exact hagree
  fresh := hfresh

section

variable {P : Platform} {s : NetThread}

theorem Tracks.session (h : Tracks s) {client : Client} (hclient : s.client = some client) :
    ∃ session, sessions.after none s.trace = some session ∧ client.InSession session := by
  have hagree := h.agree
  rw [hclient] at hagree
  exact agree_some hagree

theorem Tracks.resetClient (h : Tracks s) : Tracks s.resetClient := by
  unfold NetThread.resetClient
  cases hclient : s.client with
  | none => exact h
  | some client =>
      obtain ⟨session, hsession, hin⟩ := h.session hclient
      apply h.emit [.epollDel client.sock, .closed client.sock] rfl (by simp)
      · have hended : sessions.after (some session)
            [.epollDel client.sock, .closed client.sock] = none := if_pos hin.sock.symm
        rw [hsession, hended]
        trivial
      · simp

theorem Tracks.addClient (h : Tracks s) (a : Accept) (hclient : s.client = none) :
    Tracks (s.addClient P a) := by
  have hagree := h.agree
  rw [hclient] at hagree
  unfold NetThread.addClient
  split_ifs
  · apply h.emit _ rfl (by simp)
    · rw [agree_none hagree]
      exact ⟨rfl, rfl, rfl, fun hstate => absurd rfl hstate⟩
    · intro client heq
      cases heq
      exact Nat.lt_succ_self s.accepts
  · exact h

/-- The refused connection has a serial of its own, so its closing ends no session. -/
theorem Tracks.refuseClient (h : Tracks s) (a : Accept) (hclient : s.client ≠ none) :
    Tracks (s.refuseClient a) := by
  obtain ⟨client, hsome⟩ := Option.ne_none_iff_exists'.mp hclient
  have hfresh := h.fresh client hsome
  obtain ⟨session, hsession, hin⟩ := h.session hsome
  unfold NetThread.refuseClient
  split_ifs
  · apply h.emit _ rfl (by simp)
    · have hother : (⟨s.accepts, a.fd, a.peer⟩ : Socket) ≠ session.sock := by
        intro heq
        rw [← hin.sock, ← heq] at hfresh
        exact lt_irrefl _ hfresh
      have hkept : sessions.after (some session)
          [.accepted ⟨s.accepts, a.fd, a.peer⟩, .closed ⟨s.accepts, a.fd, a.peer⟩] =
            some session := if_neg hother
      rw [hsession, hkept]
      show Agree s.client _
      rw [hsome]
      exact hin
    · exact fun c hc => Nat.lt_succ_of_lt (h.fresh c hc)
  · exact h

theorem Tracks.receive (hpeer : ∀ sock, P.getpeername sock = sock.peer) (h : Tracks s)
    {client : Client} (hclient : s.client = some client) {input : Receive} {r : Ingoing}
    (hr : handleIngoingData P.flatbuffers P.getpeername client input = .ok r) :
    Tracks { s.emit (r.handled.map (.handled client.sock)) with client := some r.client } := by
  have hfresh := h.fresh client hclient
  obtain ⟨session, hsession, hin⟩ := h.session hclient
  obtain ⟨t, ht, hclient'⟩ := agree_handled hpeer hin r.handled
  have hsettings := handleIngoingData_settings hr
  apply h.emit _ rfl (by simp)
  · rw [hsession, ht]
    exact hclient'.of_settings hsettings
  · intro c hc
    cases hc
    rw [← handleIngoingData_sock hr] at hfresh
    exact hfresh

theorem Tracks.respond (h : Tracks s) {client : Client} (hclient : s.client = some client)
    (hstate : client.state = .waitingForServerConfirm) :
    Tracks { s.emit [.responded client.sock, .epollMod client.sock reinitEvents] with
      client := some { client with state := .connected } } := by
  have hfresh := h.fresh client hclient
  obtain ⟨session, hsession, hin⟩ := h.session hclient
  apply h.emit _ rfl (by simp)
  · have hnext : sessions.next (some session) (.responded client.sock) =
        some { session with state := .connected } := if_pos hin.sock.symm
    have hresponded : sessions.after (some session)
        [.responded client.sock, .epollMod client.sock reinitEvents] =
          some { session with state := .connected } := by
      rw [Monitor.after_cons, hnext]
      rfl
    rw [hsession, hresponded]
    exact ⟨hin.sock, rfl, hin.dataConnInfo, fun _ => hin.port (by rw [hstate]; simp)⟩
  · intro c hc
    cases hc
    exact hfresh

theorem Tracks.sendPad (h : Tracks s) {client : Client} (hclient : s.client = some client)
    (hstate : client.state = .connected) {input : SendInput} (hpadMode : input.padMode = true) :
    Tracks { s.emit [.padSent (s.padSend P client input)] with
      client := some (client.updateSentDataTime input.sentDataClock) } := by
  have hfresh := h.fresh client hclient
  obtain ⟨session, hsession, hin⟩ := h.session hclient
  obtain ⟨port, hport⟩ := Option.ne_none_iff_exists'.mp (hin.port (by rw [hstate]; simp))
  refine ⟨?_, ?_, ?_⟩
  · show sessions.Accepts none (s.trace ++ [.padSent (s.padSend P client input)])
    rw [Monitor.accepts_append, hsession]
    refine ⟨h.accepted, ⟨hpadMode, session, port, rfl, hin.sock.symm, ?_, hport, ?_⟩, trivial⟩
    · rw [hin.state, hstate]
    · show client.dataConnInfo = _
      rw [hin.dataConnInfo, Session.padAddr, hport, Option.map_some]
  · show Agree _ (sessions.after none (s.trace ++ [.padSent (s.padSend P client input)]))
    rw [Monitor.after_append, hsession]
    exact hin.of_fields rfl rfl rfl
  · intro c hc
    cases hc
    exact hfresh

theorem Tracks.move (hpeer : ∀ sock, P.getpeername sock = sock.peer) {t : NetThread}
    (h : Tracks s) (hmove : Move P s t) : Tracks t := by
  cases hmove with
  | quiet hclient haccepts htrace =>
      apply h.emit [] (by rw [htrace, List.append_nil]) (by simp)
      · rw [hclient]
        exact h.agree
      · rw [hclient, haccepts]
        exact h.fresh
  | @notices effects hnotices =>
      refine h.emit effects rfl (fun e he send hsend => ?_) ?_ h.fresh
      · have hnotice := hnotices e he
        rw [hsend] at hnotice
        exact hnotice
      · rw [after_notices hnotices]
        exact h.agree
  | reset => exact h.resetClient
  | connect a hclient => exact h.addClient a hclient
  | refuse a hclient => exact h.refuseClient a hclient
  | receive hclient hr => exact h.receive hpeer hclient hr
  | respond hclient hstate => exact h.respond hclient hstate
  | sendPad hclient hstate helapsed hpadMode => exact h.sendPad hclient hstate hpadMode

end

theorem tracks_initial (ctrl : CtrlState) (padData : SceCtrlData) :
    Tracks (initial ctrl padData) where
  accepted := trivial
  agree := trivial
  fresh := by
    intro client h
    cases h

/-- In every run, up to its end or the first use of an empty optional, each pad is
sent in pad mode and in a session that is connected at that moment, to the
session's peer at the port of the session's most recent handshake. -/
theorem pads_follow_session (P : Platform) (hpeer : ∀ sock, P.getpeername sock = sock.peer)
    (ctrl : CtrlState) (padData : SceCtrlData) (inputs : List Input) (s : NetThread)
    (hrun : EndsIn (run P (initial ctrl padData) inputs) s) (pre : List Effect)
    (send : PadSend) (post : List Effect) (htrace : s.trace = pre ++ .padSent send :: post) :
    send.padMode = true ∧ ∃ session port, sessions.after none pre = some session ∧
      send.sock = session.sock ∧ session.state = .connected ∧ session.port = some port ∧
      send.clientAddr = some { session.sock.peer with sinPort := sceNetHtons port } := by
  have htracks : Tracks s :=
    (run_moves hrun).invariant (fun a b ha hab => ha.move hpeer hab)
      (tracks_initial ctrl padData)
  exact (sessions.accepts_iff none s.trace).mp htracks.accepted pre _ post htrace

def Iteration.handshaking : List Iteration :=
  [.instant 0 true [.connect 0],
    .instant 10000 true
      [{ EventInput.connect 0 with sockType := .client, receive := .wouldBlock handshakePacket }],
    .instant 20000 true
      [{ EventInput.connect 0 with
        events := ⟨false, true, false, false⟩, sockType := .client, sends := [52] }]]

theorem pads_follow_session_of_handshaking :
    ∃ s send session port,
      run .sample (initial .idle ⟨0, 0, 0, 0, 0, 0⟩)
        (Iteration.handshaking.flatMap Iteration.inputs) = .ok s ∧
      s.trace = s.trace.dropLast ++ [.padSent send] ∧ send.padMode = true ∧
      sessions.after none s.trace.dropLast = some session ∧ send.sock = session.sock ∧
      session.state = .connected ∧ session.port = some port ∧
      send.clientAddr = some { session.sock.peer with sinPort := sceNetHtons port } := by
  have hlast : ((run .sample (initial .idle ⟨0, 0, 0, 0, 0, 0⟩)
      (Iteration.handshaking.flatMap Iteration.inputs)).toOption.bind
        (·.trace.getLast?)).any (· matches .padSent _) = true := by decide +kernel
  obtain ⟨e, hbind, hpad⟩ := (Option.any_eq_true _ _).mp hlast
  obtain ⟨s, hrun, he⟩ := StepRun.exists_ok_of_bind hbind
  cases e with
  | padSent send =>
      have htrace := (List.dropLast_append_getLast? _ he).symm
      obtain ⟨hpadMode, session, port, hsession⟩ :=
        pads_follow_session .sample (fun _ => rfl) _ _ _ s (.inl hrun) _ send [] htrace
      exact ⟨s, send, session, port, hrun, htrace, hpadMode, hsession⟩
  | _ => cases hpad

end VitaOxiPad.Server
