import VitaOxiPad.Server.Notifications
import VitaOxiPad.Server.Registrations
/-!
# Events of a client that has gone

An epoll event names the kind of its socket, not the socket.  The events of a batch
are reported before the network callbacks are looked at, so the client may be
dropped between the wait and the handling of its event, and a client that the same
batch brings takes its place.
-/

namespace VitaOxiPad.Server.NetThread

def EpollEntry.sockType : EpollEntry → SocketType
  | .server => .server
  | .client _ => .client

/-- An event and the registration it is reported for. -/
structure Reported where
  source : EpollEntry
  input : EventInput

/-- An iteration whose events are told apart by their sources. -/
structure Round where
  ctrl : CtrlRead
  states : List NetCtlState
  reported : List Reported
  send : SendInput

def Round.iteration (round : Round) : Iteration where
  ctrl := round.ctrl
  states := round.states
  events := round.reported.map (·.input)
  send := round.send

/-- What a wait can report: at most one event for each registered socket. -/
structure Round.Polled (round : Round) (s : NetThread) : Prop where
  once : (round.reported.map (·.source)).Nodup
  registered : ∀ r ∈ round.reported, (epollSet s.trace r.source).isSome
  sockType : ∀ r ∈ round.reported, r.input.sockType = r.source.sockType

/-! ## Whom an event is used on -/

def usedOn (s : NetThread) (input : EventInput) : Option Socket :=
  match input.sockType, s.client with
  | .client, some client =>
      if input.events.epollhup || input.events.epollerr || input.events.epollin then
        some client.sock
      else if input.events.epollout ∧ client.state = .waitingForServerConfirm then
        some client.sock
      else none
  | _, _ => none

def Uses (sock : Socket) : Effect → Prop
  | .handled c _ | .sent c _ | .responded c | .epollMod c _ | .epollDel c | .closed c => c = sock
  | _ => False

/-- What happens between the states uses no other sockets than these. -/
def UsesOnly (allowed : Socket → Prop) (s t : NetThread) : Prop :=
  ∃ effects, t.trace = s.trace ++ effects ∧ ∀ e ∈ effects, ∀ sock, Uses sock e → allowed sock

theorem UsesOnly.refl (allowed : Socket → Prop) (s : NetThread) : UsesOnly allowed s s :=
  ⟨[], (List.append_nil _).symm, by simp⟩

theorem UsesOnly.of_effects {allowed : Socket → Prop} {s t : NetThread} (effects : List Effect)
    (htrace : t.trace = s.trace ++ effects)
    (h : ∀ e ∈ effects, ∀ sock, Uses sock e → allowed sock) : UsesOnly allowed s t :=
  ⟨effects, htrace, h⟩

theorem UsesOnly.trans {allowed : Socket → Prop} {s t u : NetThread}
    (hst : UsesOnly allowed s t) (htu : UsesOnly allowed t u) : UsesOnly allowed s u := by
  obtain ⟨es, hes, hesUses⟩ := hst
  obtain ⟨fs, hfs, hfsUses⟩ := htu
  refine ⟨es ++ fs, by rw [hfs, hes, List.append_assoc], fun e he => ?_⟩
  rcases List.mem_append.mp he with he | he
  · exact hesUses e he
  · exact hfsUses e he

section

variable {P : Platform} {s t : NetThread} {allowed : Socket → Prop}

theorem announceClient_client (s : NetThread) : s.announceClient.client = s.client := by
  unfold announceClient
  split <;> rfl

theorem usesOnly_announceClient (allowed : Socket → Prop) (s : NetThread) :
    UsesOnly allowed s s.announceClient := by
  unfold announceClient
  split
  · exact .refl allowed s
  · exact .of_effects [.setEventFlag .pcConnect] rfl (by simp [Uses])

theorem usesOnly_addClient (P : Platform) (allowed : Socket → Prop) (s : NetThread) (a : Accept) :
    UsesOnly allowed s (s.addClient P a) := by
  unfold addClient
  split_ifs
  · exact .of_effects _ rfl (by simp [Uses])
  · exact .refl allowed s

theorem usesOnly_refuseClient (s : NetThread) (a : Accept) (h : allowed (s.nextSock a)) :
    UsesOnly allowed s (s.refuseClient a) := by
  unfold refuseClient
  split_ifs
  · refine .of_effects _ rfl ?_
    have hrefused : allowed ⟨s.accepts, a.fd, a.peer⟩ := h
    simpa [Uses] using hrefused
  · exact .refl allowed s

theorem usesOnly_disconnectClient (h : ∀ client, s.client = some client → allowed client.sock) :
    UsesOnly allowed s s.disconnectClient := by
  unfold disconnectClient resetClient emit
  cases hclient : s.client with
  | none => exact .of_effects [.setEventFlag .pcDisconnect] rfl (by simp [Uses])
  | some client =>
      refine .of_effects [.setEventFlag .pcDisconnect, .epollDel client.sock,
        .closed client.sock] (by simp) ?_
      simpa [Uses] using h client hclient

theorem usesOnly_readable {client : Client} {input : Receive}
    (h : s.readable P client input = .ok t) (hallowed : allowed client.sock) :
    UsesOnly allowed s t := by
  obtain ⟨r, hr, hend⟩ := readable_ok h
  have hreceived : UsesOnly allowed s (s.received client r) := by
    refine .of_effects (r.handled.map (.handled client.sock)) rfl ?_
    simpa [Uses] using fun _ _ => hallowed
  rcases hend with ⟨-, rfl⟩ | ⟨-, rfl⟩
  · refine hreceived.trans (usesOnly_disconnectClient ?_)
    rintro c ⟨⟩
    rw [handleIngoingData_sock hr]
    exact hallowed
  · exact hreceived

theorem usesOnly_sendHandshakeResponse {client : Client} {sends : List Int32}
    (hclient : s.client = some client) (h : s.sendHandshakeResponse P client sends = .ok t)
    (hallowed : allowed client.sock) : UsesOnly allowed s t := by
  obtain ⟨sent, pieces, -, hend⟩ := sendHandshakeResponse_ok h
  have hsent : UsesOnly allowed s (s.emit (pieces.map (.sent client.sock))) := by
    refine .of_effects (pieces.map (.sent client.sock)) rfl ?_
    simpa [Uses] using fun _ _ => hallowed
  rcases hend with ⟨-, rfl | rfl⟩ | ⟨-, rfl⟩
  · refine hsent.trans (usesOnly_disconnectClient fun c hc => ?_)
    cases hclient.symm.trans hc
    exact hallowed
  · exact hsent
  · refine hsent.trans (.of_effects
      [.responded client.sock, .epollMod client.sock reinitEvents] rfl ?_)
    simpa [Uses] using hallowed

/-- An event uses the connection it is used on, and the one that it may refuse. -/
theorem usesOnly_handleEvent {input : EventInput} (h : s.handleEvent P input = .ok t) :
    UsesOnly (fun sock => s.usedOn input = some sock ∨ sock = s.nextSock input.accept) s t := by
  unfold handleEvent at h
  split_ifs at h with hhup hin hout
  · split at h <;> cases h
    next hsock =>
      refine usesOnly_disconnectClient fun client hclient => .inl ?_
      simp [usedOn, hsock, hclient, hhup]
    next => exact .refl _ s
  · split at h
    next =>
      cases h
      exact (usesOnly_addClient P _ s input.accept).trans (usesOnly_announceClient _ _)
    next =>
      cases h
      exact (usesOnly_refuseClient s input.accept (.inr rfl)).trans (usesOnly_announceClient _ _)
    next =>
      cases h
      exact .refl _ s
    next client hsock hclient =>
      apply usesOnly_readable h
      simp [usedOn, hsock, hclient, hin]
  · split at h
    next =>
      cases h
      exact .refl _ s
    next => cases h
    next client hsock hclient =>
      split at h
      next hstate =>
        apply usesOnly_sendHandshakeResponse hclient h
        simp [usedOn, hsock, hclient, hout, hstate]
      next =>
        cases h
        exact .refl _ s
  · cases h
    exact .refl _ s

/-! ## A new client in the middle of a batch -/

def Brings (input : EventInput) : Prop :=
  input.events.epollhup = false ∧ input.events.epollerr = false ∧ input.events.epollin = true ∧
    0 ≤ input.accept.fd

/-- The event reads from or disconnects whatever client there is. -/
def Acts (input : EventInput) : Prop :=
  (input.events.epollhup || input.events.epollerr || input.events.epollin) = true

theorem usedOn_eq_some_iff {input : EventInput} {used : Socket} :
    s.usedOn input = some used ↔
      input.sockType = .client ∧ ∃ client, s.client = some client ∧ client.sock = used ∧
        (Acts input ∨
          input.events.epollout = true ∧ client.state = .waitingForServerConfirm) := by
  unfold usedOn Acts
  cases hsock : input.sockType with
  | server => simp
  | client =>
      cases hclient : s.client with
      | none => simp
      | some client =>
          dsimp only
          split_ifs with hacts hanswers
          · simp [hacts]
          · simp [hacts, hanswers]
          · simp only [hacts, false_or, Option.some.injEq, exists_eq_left', reduceCtorEq,
              false_iff, true_and]
            exact fun h => hanswers h.2

theorem handleEvent_of_brings {input : EventInput} (hsock : input.sockType = .server)
    (hclient : s.client = none) (h : Brings input) :
    s.handleEvent P input = .ok (s.addClient P input.accept).announceClient := by
  obtain ⟨hhup, herr, hin, -⟩ := h
  simp [handleEvent, hhup, herr, hin, hsock, hclient]

theorem client_of_brings {input : EventInput} (h : Brings input) :
    (s.addClient P input.accept).announceClient.client =
      some (Client.new P.getpeername (s.nextSock input.accept) input.accept.heartbeatClock
        input.accept.sentDataClock) := by
  rw [announceClient_client, addClient, if_pos h.2.2.2]
  rfl

/-- An event of the listening socket leaves the client as it is, unless it brings one. -/
theorem handleEvent_server {input : EventInput} (hsock : input.sockType = .server)
    (h : s.handleEvent P input = .ok t) :
    t.client = s.client ∨
      s.client = none ∧ Brings input ∧ t = (s.addClient P input.accept).announceClient := by
  simp only [handleEvent, hsock] at h
  split_ifs at h with hhup hin hout
  · cases h
    exact .inl rfl
  · split at h
    next hclient =>
      cases h
      by_cases hfd : 0 ≤ input.accept.fd
      · simp only [Bool.or_eq_true, not_or, Bool.not_eq_true] at hhup
        exact .inr ⟨hclient, ⟨hhup.1, hhup.2, hin, hfd⟩, rfl⟩
      · rw [announceClient_client, addClient, if_neg hfd]
        exact .inl rfl
    next client hclient =>
      cases h
      rw [announceClient_client, refuseClient]
      split_ifs <;> exact .inl rfl
    next hother _ => cases hother
    next hother _ => cases hother
  · cases h
    exact .inl rfl
  · cases h
    exact .inl rfl

/-- An event that is used on no connection leaves the client as it is. -/
theorem handleEvent_of_unused {input : EventInput} (h : s.handleEvent P input = .ok t)
    (hunused : s.usedOn input = none) {client : Client} (hclient : s.client = some client) :
    t.client = some client := by
  cases hsock : input.sockType with
  | server =>
      rcases handleEvent_server hsock h with hkept | ⟨hnone, -, -⟩
      · rw [hkept, hclient]
      · rw [hnone] at hclient
        cases hclient
  | client =>
      simp only [usedOn, hsock, hclient] at hunused
      split_ifs at hunused with hacts hanswers
      simp only [Bool.or_eq_true, not_or, Bool.not_eq_true] at hacts
      obtain ⟨⟨hhup, herr⟩, hin⟩ := hacts
      simp only [handleEvent, hsock, hclient, hhup, herr, hin, Bool.or_false, Bool.false_eq_true,
        if_false] at h
      split_ifs at h with hout
      · split at h
        next hstate => exact absurd ⟨hout, hstate⟩ hanswers
        next =>
          cases h
          exact hclient
      · cases h
        exact hclient

end

/-! ## Rounds -/

/-- Each event of the round is used on no connection but the one it is reported for. -/
def KeepsToSource (P : Platform) (s : NetThread) (round : Round) : Prop :=
  ∀ u before r after t, s.readCtrl round.ctrl = .ok u → round.reported = before ++ r :: after →
    handleEvents P (u.netStatus round.states) (before.map (·.input)) = .ok t →
    ∀ used, t.usedOn r.input = some used → r.source = .client used

/-- The network has gone, the batch begins with a new connection, and an event that
was reported for the client comes after it. -/
def Stale (s : NetThread) (round : Round) : Prop :=
  (∃ u, s.readCtrl round.ctrl = .ok u) ∧ s.client ≠ none ∧ s.LosesNetwork round.states ∧
    ∃ newcomer left rest, round.reported = newcomer :: left :: rest ∧
      newcomer.source = .server ∧ Brings newcomer.input ∧ Acts left.input

theorem netStatus_accepts (s : NetThread) (states : List NetCtlState) :
    (s.netStatus states).accepts = s.accepts := by
  rcases netStatus_cases s states with ⟨-, -, hnet⟩ | ⟨-, hnet⟩ | ⟨-, -, hnet⟩ <;> rw [hnet]
  · rfl
  · unfold resetClient
    split <;> rfl
  · rfl

/-- A source that is not the listening socket is the client. -/
theorem source_of_polled {s : NetThread} (howned : Owned s) {round : Round}
    (hpolled : round.Polled s) {r : Reported} (hr : r ∈ round.reported)
    (hsource : r.source ≠ .server) :
    ∃ client, s.client = some client ∧ r.source = .client client.sock := by
  have hregistered := (howned.registered_iff r.source).mp (hpolled.registered r hr)
  rcases hregistered with hserver | ⟨sock, hsock, h⟩
  · exact absurd hserver hsource
  · obtain ⟨client, hclient, rfl⟩ := Option.map_eq_some_iff.mp hsock
    exact ⟨client, hclient, h⟩

theorem sockType_ne_server {source : EpollEntry} :
    source.sockType = .client ↔ source ≠ .server := by
  cases source <;> simp [EpollEntry.sockType]

/-- Before an event of the client there is at most one other, of the listening socket. -/
theorem before_of_polled {s : NetThread} (howned : Owned s) {round : Round}
    (hpolled : round.Polled s) {before after : List Reported} {r : Reported}
    (hreported : round.reported = before ++ r :: after) (hsource : r.source ≠ .server) :
    before = [] ∨ ∃ b, before = [b] ∧ b.source = .server := by
  have hserver : ∀ b ∈ before, b.source = .server := by
    intro b hb
    by_contra hother
    have hbr : b ∈ round.reported := by simp [hreported, hb]
    have hrr : r ∈ round.reported := by simp [hreported]
    obtain ⟨client, hclient, hbsource⟩ := source_of_polled howned hpolled hbr hother
    obtain ⟨client', hclient', hrsource⟩ := source_of_polled howned hpolled hrr hsource
    cases hclient.symm.trans hclient'
    have hnodup := hpolled.once
    rw [hreported, List.map_append, List.map_cons, List.nodup_append] at hnodup
    exact hnodup.2.2 _ (List.mem_map_of_mem hb) _ List.mem_cons_self (hbsource.trans hrsource.symm)
  rcases before with _ | ⟨b, _ | ⟨b', before⟩⟩
  · exact .inl rfl
  · exact .inr ⟨b, rfl, hserver b (by simp)⟩
  · have hb := hserver b (by simp)
    have hb' := hserver b' (by simp)
    have hnodup := hpolled.once
    rw [hreported] at hnodup
    simp [hb, hb'] at hnodup

theorem netStatus_client_of_some {s : NetThread} {states : List NetCtlState} {client : Client}
    (hclient : (s.netStatus states).client = some client) : s.client = some client := by
  by_cases hlost : s.LosesNetwork states
  · rw [netStatus_client_of_loses hlost] at hclient
    cases hclient
  · rwa [netStatus_client_of_keeps hlost] at hclient

theorem keepsToSource_of_not_stale {P : Platform} {s : NetThread} (howned : Owned s)
    {round : Round} (hpolled : round.Polled s) (hstale : ¬ s.Stale round) :
    s.KeepsToSource P round := by
  intro u before r after t hread hreported hbefore used hused
  obtain ⟨hsock, client, hclient, rfl, huse⟩ := usedOn_eq_some_iff.mp hused
  have hsame := (readCtrl_client hread).1
  have hr : r ∈ round.reported := by simp [hreported]
  have hsource : r.source ≠ .server := sockType_ne_server.mp (hpolled.sockType r hr ▸ hsock)
  obtain ⟨owner, howner, hrsource⟩ := source_of_polled howned hpolled hr hsource
  -- The client the event finds is the one it was reported for, unless the batch has brought it.
  suffices hfound : (u.netStatus round.states).client = some client by
    have hkept := netStatus_client_of_some hfound
    rw [hsame, howner] at hkept
    cases hkept
    exact hrsource
  rcases before_of_polled howned hpolled hreported hsource with rfl | ⟨b, rfl, hbsource⟩
  · cases hbefore
    exact hclient
  · have hb : b ∈ round.reported := by simp [hreported]
    have hbsock : b.input.sockType = .server := by
      rw [hpolled.sockType b hb, hbsource]
      rfl
    have hstep : (u.netStatus round.states).handleEvent P b.input = .ok t :=
      (StepRun.run_singleton _ _).symm.trans hbefore
    rcases handleEvent_server hbsock hstep with hkept | ⟨hnone, hbrings, rfl⟩
    · rw [← hkept]
      exact hclient
    · have hnew := (client_of_brings hbrings).symm.trans hclient
      cases hnew
      have hacts : Acts r.input := by
        rcases huse with hacts | ⟨-, hstate⟩
        · exact hacts
        · cases hstate
      have hlost : s.LosesNetwork round.states := by
        by_contra hkept
        rw [← losesNetwork_readCtrl hread] at hkept
        rw [netStatus_client_of_keeps hkept, hsame, howner] at hnone
        cases hnone
      refine absurd ⟨⟨u, hread⟩, ?_, hlost, b, r, after, hreported, hbsource, hbrings, hacts⟩ hstale
      rw [howner]
      exact Option.some_ne_none _

theorem not_keepsToSource_of_stale {P : Platform} {s : NetThread} (howned : Owned s)
    {round : Round} (hpolled : round.Polled s) (hstale : s.Stale round) :
    ¬ s.KeepsToSource P round := by
  intro hkeeps
  obtain ⟨⟨u, hread⟩, -, hlost, b, r, rest, hreported, hbsource, hbrings, hacts⟩ := hstale
  have hsameAccepts := (readCtrl_client hread).2.2.1
  have hnone : (u.netStatus round.states).client = none :=
    netStatus_client_of_loses ((losesNetwork_readCtrl hread _).mpr hlost)
  have hb : b ∈ round.reported := by simp [hreported]
  have hr : r ∈ round.reported := by simp [hreported]
  have hbsock : b.input.sockType = .server := by
    rw [hpolled.sockType b hb, hbsource]
    rfl
  have hsource : r.source ≠ .server := by
    intro hrsource
    have hnodup := hpolled.once
    rw [hreported] at hnodup
    simp [hbsource, hrsource] at hnodup
  have hrsock : r.input.sockType = .client := by
    rw [hpolled.sockType r hr]
    exact sockType_ne_server.mpr hsource
  have hstep := handleEvent_of_brings (P := P) hbsock hnone hbrings
  have hused := usedOn_eq_some_iff.mpr
    ⟨hrsock, _, client_of_brings (P := P) (s := u.netStatus round.states) hbrings, rfl,
      .inl hacts⟩
  have hrsource := hkeeps u [b] r rest _ hread hreported
    ((StepRun.run_singleton _ _).trans hstep) _ hused
  -- The new connection's serial is that of no connection before it.
  have hregistered := hpolled.registered r hr
  rw [hrsource, howned.registered_iff] at hregistered
  rcases hregistered with hserver | ⟨sock, hsock, hentry⟩
  · cases hserver
  · cases hentry
    have hold := howned.fresh _ (.inl ((howned.open_iff _).mpr hsock).1)
    have hnew : ((u.netStatus round.states).nextSock b.input.accept).serial = s.accepts :=
      (netStatus_accepts u round.states).trans hsameAccepts
    exact absurd hold (by rw [← hnew]; exact lt_irrefl _)

theorem loop_owned {P : Platform} {ctrl : CtrlState} {padData : SceCtrlData}
    {iterations : List Iteration} {s : NetThread}
    (h : loop P (initial ctrl padData) iterations = .ok s) : Owned s := by
  rw [loop_eq_run] at h
  exact run_owned (.inl h)

/-- In every run every event is used on no other connection than the one it is
reported for, exactly when no round of it drops a client, accepts the next one and
then comes to an event that was left for the first. -/
theorem events_keep_to_source_iff (P : Platform) (ctrl : CtrlState) (padData : SceCtrlData)
    (rounds : List Round)
    (hpolled : ∀ pre round post s, rounds = pre ++ round :: post →
      loop P (initial ctrl padData) (pre.map Round.iteration) = .ok s → round.Polled s) :
    (∀ pre round post s, rounds = pre ++ round :: post →
      loop P (initial ctrl padData) (pre.map Round.iteration) = .ok s →
      s.KeepsToSource P round) ↔
    ∀ pre round post s, rounds = pre ++ round :: post →
      loop P (initial ctrl padData) (pre.map Round.iteration) = .ok s → ¬ s.Stale round := by
  constructor
  · intro hkeeps pre round post s hrounds hloop hstale
    have howned := loop_owned hloop
    exact not_keepsToSource_of_stale howned (hpolled pre round post s hrounds hloop) hstale
      (hkeeps pre round post s hrounds hloop)
  · intro hfresh pre round post s hrounds hloop
    have howned := loop_owned hloop
    exact keepsToSource_of_not_stale howned (hpolled pre round post s hrounds hloop)
      (hfresh pre round post s hrounds hloop)

/-! ## A hang-up that comes too late -/

def firstSock : Socket := ⟨0, 3, ⟨0x0201a8c0, 0x5000⟩⟩

def Reported.newcomer : Reported := ⟨.server, .connect 10000⟩

def Reported.hangup : Reported where
  source := .client firstSock
  input :=
    { EventInput.connect 10000 with events := ⟨false, false, true, false⟩, sockType := .client }

def Round.connecting : Round := ⟨.idle 2048, [], [.newcomer], .instant 10000 true⟩

def Round.leaving : Round := ⟨.idle 4096, [], [.hangup], .instant 20000 true⟩

/-- The first client hangs up, the network goes, and another client connects. -/
def Round.replacing : Round :=
  ⟨.idle 4096, [.disconnected], [.newcomer, .hangup], .instant 20000 true⟩

theorem polled_connecting : Round.connecting.Polled (initial .idle ⟨0, 0, 0, 0, 0, 0⟩) where
  once := by decide
  registered := by simp [Round.connecting, Reported.newcomer, initial, epollSet, epollAtStart]
  sockType := by
    intro r hr
    rw [List.mem_singleton.mp hr]
    rfl

/-- With the first client connected, a batch may be of events for it and newcomers. -/
theorem polled_after_connecting {s : NetThread}
    (h : loop .sample (initial .idle ⟨0, 0, 0, 0, 0, 0⟩) [Round.connecting.iteration] = .ok s)
    {round : Round} (honce : (round.reported.map (·.source)).Nodup)
    (hreported : ∀ r ∈ round.reported, r = .newcomer ∨ r = .hangup) : round.Polled s where
  once := honce
  registered := by
    have hsock : s.clientSock = some firstSock := by
      cases h
      rfl
    intro r hr
    rw [(loop_owned h).registered_iff, hsock]
    rcases hreported r hr with rfl | rfl
    · exact .inl rfl
    · exact .inr ⟨firstSock, rfl, rfl⟩
  sockType := by
    intro r hr
    rcases hreported r hr with rfl | rfl <;> rfl

theorem events_keep_to_source_when_leaving :
    ∃ s, loop .sample (initial .idle ⟨0, 0, 0, 0, 0, 0⟩) [Round.connecting.iteration] = .ok s ∧
      s.KeepsToSource .sample .leaving := by
  obtain ⟨s, hloop⟩ : ∃ s, loop .sample (initial .idle ⟨0, 0, 0, 0, 0, 0⟩)
    [Round.connecting.iteration] = .ok s := ⟨_, rfl⟩
  refine ⟨s, hloop, (events_keep_to_source_iff .sample .idle ⟨0, 0, 0, 0, 0, 0⟩
    [.connecting, .leaving] ?_).mpr ?_ [.connecting] .leaving [] s rfl hloop⟩
  · intro pre round post t hrounds hrun
    rcases pre with _ | ⟨a, _ | ⟨b, pre⟩⟩
    · cases hrounds
      cases hrun
      exact polled_connecting
    · cases hrounds
      exact polled_after_connecting hrun (by decide) (by simp [Round.leaving])
    · simp at hrounds
  · rintro pre round post t hrounds hrun ⟨-, hclient, hlost, -⟩
    rcases pre with _ | ⟨a, _ | ⟨b, pre⟩⟩
    · cases hrounds
      cases hrun
      exact hclient rfl
    · cases hrounds
      unfold LosesNetwork at hlost
      cases hrun
      exact absurd hlost (by decide)
    · simp at hrounds

/-- The hang-up of the first client disconnects the second. -/
theorem not_events_keep_to_source_when_replacing :
    ∃ s, loop .sample (initial .idle ⟨0, 0, 0, 0, 0, 0⟩) [Round.connecting.iteration] = .ok s ∧
      Round.replacing.Polled s ∧ ¬ s.KeepsToSource .sample .replacing ∧
      ∃ t, s.iterate .sample Round.replacing.iteration = .ok t ∧ t.client = none ∧
        .closed { firstSock with serial := 1 } ∈ t.trace := by
  obtain ⟨s, hloop⟩ : ∃ s, loop .sample (initial .idle ⟨0, 0, 0, 0, 0, 0⟩)
    [Round.connecting.iteration] = .ok s := ⟨_, rfl⟩
  have howned := loop_owned hloop
  have hpolled : Round.replacing.Polled s :=
    polled_after_connecting hloop (by decide) (by simp [Round.replacing])
  refine ⟨s, hloop, hpolled, not_keepsToSource_of_stale howned hpolled ?_, ?_⟩
  · cases hloop
    exact ⟨⟨_, rfl⟩, by decide, rfl, .newcomer, .hangup, [], rfl, rfl,
      ⟨rfl, rfl, rfl, by decide⟩, rfl⟩
  · cases hloop
    exact ⟨_, rfl, rfl, by decide⟩

end VitaOxiPad.Server.NetThread
