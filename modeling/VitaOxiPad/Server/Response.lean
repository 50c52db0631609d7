import VitaOxiPad.Server.Answers
/-!
# The bytes of the handshake response

`send_all` may stop after any part of the response, and the next `EPOLLOUT`
starts again with the first byte.  So the stream has one copy of the response
where the client becomes connected, unless an attempt was cut short before.
-/

namespace VitaOxiPad.Server

open NetProtocol

/-! ## `send_all` -/

def accepted (sends : List Int32) : Nat :=
  ((sends.takeWhile (0 ≤ ·)).map Int32.toNatClampNeg).sum

theorem accepted_cons_of_neg {n : Int32} (sends : List Int32) (h : n < 0) :
    accepted (n :: sends) = 0 := by
  have hnot : ¬ 0 ≤ n := Int32.not_le.mpr h
  simp [accepted, hnot]

theorem accepted_cons_of_nonneg {n : Int32} (sends : List Int32) (h : ¬ n < 0) :
    accepted (n :: sends) = n.toNatClampNeg + accepted sends := by
  have hle : 0 ≤ n := Int32.not_lt.mp h
  simp [accepted, hle]

theorem sendAll_nil (sends : List Int32) (last : Int32) :
    sendAll [] sends last = some (last, []) := by
  rw [sendAll]

/-- What has been sent is as much of the packet as `sceNetSend` takes. -/
theorem sendAll_flatten {buf : List UInt8} {sends : List Int32} {last sent : Int32}
    {pieces : List (List UInt8)} (h : sendAll buf sends last = some (sent, pieces)) :
    pieces.flatten = buf.take (accepted sends) := by
  induction sends generalizing buf last sent pieces with
  | nil =>
      cases buf with
      | nil =>
          cases h
          rfl
      | cons b buf => cases h
  | cons n sends ih =>
      cases buf with
      | nil =>
          cases h
          simp
      | cons b buf =>
          rw [sendAll] at h
          split_ifs at h with hneg
          · cases h
            simp [accepted_cons_of_neg sends hneg]
          · obtain ⟨⟨sent', pieces'⟩, hrest, heq⟩ := Option.map_eq_some_iff.mp h
            cases heq
            rw [List.flatten_cons, ih hrest, accepted_cons_of_nonneg sends hneg, List.take_add]

/-- The last call has sent something exactly when the whole packet has been sent. -/
theorem sendAll_pos_iff {buf : List UInt8} {sends : List Int32} {last sent : Int32}
    {pieces : List (List UInt8)} (h : sendAll buf sends last = some (sent, pieces))
    (hbuf : 0 < buf.length) : 0 < sent ↔ buf.length ≤ accepted sends := by
  induction sends generalizing buf last sent pieces with
  | nil =>
      cases buf with
      | nil => cases hbuf
      | cons b buf => cases h
  | cons n sends ih =>
      cases buf with
      | nil => cases hbuf
      | cons b buf =>
          rw [sendAll] at h
          split_ifs at h with hneg
          · cases h
            rw [accepted_cons_of_neg sends hneg]
            simp [Int32.lt_asymm hneg]
          · obtain ⟨⟨sent', pieces'⟩, hrest, heq⟩ := Option.map_eq_some_iff.mp h
            cases heq
            rw [accepted_cons_of_nonneg sends hneg]
            rcases Nat.eq_zero_or_pos ((b :: buf).drop n.toNatClampNeg).length with hall | hmore
            · -- this call takes the rest of the packet, so it is the last one
              rw [List.length_eq_zero_iff.mp hall, sendAll_nil] at hrest
              cases hrest
              have hlen : (b :: buf).length ≤ n.toNatClampNeg := by
                rw [List.length_drop] at hall
                omega
              have hpos : 0 < n := by
                rw [← Int32.toNatClampNeg_pos_iff]
                exact hbuf.trans_le hlen
              exact ⟨fun _ => hlen.trans (Nat.le_add_right _ _), fun _ => hpos⟩
            · rw [ih hrest hmore, List.length_drop]
              omega

def TakesAll (packet : List UInt8) (sends : List Int32) : Prop :=
  0 < packet.length ∧ packet.length ≤ accepted sends

def TakesPart (packet : List UInt8) (sends : List Int32) : Prop :=
  0 < accepted sends ∧ accepted sends < packet.length

instance (packet : List UInt8) (sends : List Int32) : Decidable (TakesAll packet sends) :=
  inferInstanceAs (Decidable (_ ∧ _))

instance (packet : List UInt8) (sends : List Int32) : Decidable (TakesPart packet sends) :=
  inferInstanceAs (Decidable (_ ∧ _))

section

variable {packet : List UInt8} {sends : List Int32} {sent : Int32} {pieces : List (List UInt8)}

theorem sendAll_takesAll_iff (h : sendAll packet sends 0 = some (sent, pieces)) :
    0 < sent ↔ TakesAll packet sends := by
  rcases Nat.eq_zero_or_pos packet.length with hnone | hpos
  · cases List.length_eq_zero_iff.mp hnone
    rw [sendAll_nil] at h
    cases h
    simp [TakesAll]
  · rw [sendAll_pos_iff h hpos, TakesAll, and_iff_right hpos]

theorem sendAll_takesPart_iff (h : sendAll packet sends 0 = some (sent, pieces))
    (hall : ¬ TakesAll packet sends) : TakesPart packet sends ↔ pieces.flatten ≠ [] := by
  rw [sendAll_flatten h, ← List.length_pos_iff, List.length_take, lt_min_iff]
  unfold TakesAll at hall
  unfold TakesPart
  omega

theorem sendAll_flatten_of_takesAll (h : sendAll packet sends 0 = some (sent, pieces))
    (hall : TakesAll packet sends) : pieces.flatten = packet := by
  rw [sendAll_flatten h, List.take_of_length_le hall.2]

end

namespace NetThread

instance (input : EventInput) : Decidable (AsksOut input) :=
  inferInstanceAs (Decidable (_ ∧ _ ∧ _ ∧ _ ∧ _))

def attempt (s : NetThread) : Input → Option (Socket × List Int32)
  | .event input =>
      if AsksOut input then
        s.client.bind fun client =>
          if client.state = .waitingForServerConfirm then some (client.sock, input.sends)
          else none
      else none
  | _ => none

/-- The connection on which an attempt has been cut short, sending a part of the
response, with no attempt sending the whole of it since. -/
def cutShort (P : Platform) (s : NetThread) (i : Input) (cut : Option Socket) : Option Socket :=
  match attempt s i with
  | none => cut
  | some (sock, sends) =>
      if TakesAll (response P) sends then none
      else if TakesPart (response P) sends then some sock
      else cut

/-- The bytes sent on a connection since its client began to wait for the response.
The client may become connected after exactly one copy of the packet. -/
def answers (packet : List UInt8) (sock : Socket) : Monitor (Option (List UInt8)) Effect where
  next bytes
    | .handled sock' message =>
        if sock' = sock ∧ isHandshake message then some (bytes.getD []) else bytes
    | .sent sock' piece => if sock' = sock then bytes.map (· ++ piece) else bytes
    | .responded sock' => if sock' = sock then none else bytes
    | _ => bytes
  Allowed bytes
    | .responded sock' => sock' = sock → bytes = some packet
    | _ => True

section

variable {packet : List UInt8} {sock sock' : Socket}

theorem answers_of_bypass {effects : List Effect} (h : ∀ e ∈ effects, e.IsBypass)
    (bytes : Option (List UInt8)) :
    (answers packet sock).after bytes effects = bytes ∧
      (answers packet sock).Accepts bytes effects := by
  induction effects with
  | nil => exact ⟨rfl, trivial⟩
  | cons e effects ih =>
      have he : (answers packet sock).next bytes e = bytes ∧
          (answers packet sock).Allowed bytes e := by
        have hbypass := h e (by simp)
        cases e <;> first | exact hbypass.elim | exact ⟨rfl, trivial⟩
      rw [Monitor.after_cons, Monitor.accepts_cons, he.1]
      obtain ⟨hafter, haccepts⟩ := ih fun e' he' => h e' (by simp [he'])
      exact ⟨hafter, he.2, haccepts⟩

theorem answers_handled (messages : List Message) (bytes : Option (List UInt8)) :
    (answers packet sock).after bytes (messages.map (.handled sock)) =
      if messages.any isHandshake then some (bytes.getD []) else bytes := by
  induction messages generalizing bytes with
  | nil => rfl
  | cons message messages ih =>
      rw [List.map_cons, Monitor.after_cons, ih, List.any_cons]
      cases hm : isHandshake message <;> simp [answers, hm]

theorem answers_sent (pieces : List (List UInt8)) (bytes : List UInt8) :
    (answers packet sock).after (some bytes) (pieces.map (.sent sock)) =
      some (bytes ++ pieces.flatten) := by
  induction pieces generalizing bytes with
  | nil => simp
  | cons piece pieces ih =>
      have hnext : (answers packet sock).next (some bytes) (.sent sock piece) =
          some (bytes ++ piece) := if_pos rfl
      rw [List.map_cons, Monitor.after_cons, hnext, ih, List.flatten_cons, List.append_assoc]

theorem answers_other {effects : List Effect} (hne : sock' ≠ sock)
    (h : ∀ e ∈ effects, e.IsBypass ∨ (∃ message, e = .handled sock' message) ∨
      (∃ piece, e = .sent sock' piece) ∨ e = .responded sock')
    (bytes : Option (List UInt8)) : (answers packet sock).after bytes effects = bytes := by
  induction effects with
  | nil => rfl
  | cons e effects ih =>
      have he : (answers packet sock).next bytes e = bytes := by
        rcases h e (by simp) with hbypass | ⟨message, rfl⟩ | ⟨piece, rfl⟩ | rfl
        · cases e <;> first | exact hbypass.elim | rfl
        · simp [answers, hne]
        · simp [answers, hne]
        · simp [answers, hne]
      rw [Monitor.after_cons, he]
      exact ih fun e' he' => h e' (by simp [he'])

theorem accepts_of_no_response {effects : List Effect} (h : .responded sock ∉ effects)
    (bytes : Option (List UInt8)) : (answers packet sock).Accepts bytes effects := by
  induction effects generalizing bytes with
  | nil => trivial
  | cons e effects ih =>
      rw [List.mem_cons, not_or] at h
      refine ⟨?_, ih h.2 _⟩
      cases e with
      | responded sock' => exact fun heq => absurd (congrArg _ heq.symm) h.1
      | _ => trivial

end

/-! ## What the stream has between the attempts -/

/-- The bytes on every connection, by the connection that was cut short. -/
structure Sending (packet : List UInt8) (s : NetThread) (cut : Option Socket) : Prop where
  live : ∀ client, s.client = some client → client.sock.serial < s.accepts
  known : ∀ sock, cut = some sock → sock.serial < s.accepts
  idle : ∀ sock, s.accepts ≤ sock.serial → (answers packet sock).after none s.trace = none
  waits : ∀ client, s.client = some client → client.state = .waitingForServerConfirm →
    ∃ bytes, (answers packet client.sock).after none s.trace = some bytes ∧
      (bytes = [] ↔ cut ≠ some client.sock)
  rests : ∀ client, s.client = some client → client.state ≠ .waitingForServerConfirm →
    (answers packet client.sock).after none s.trace = none ∧ cut ≠ some client.sock

/-- Every client that has become connected got exactly one copy of the response. -/
def RespondsOnce (packet : List UInt8) (s : NetThread) : Prop :=
  ∀ sock, (answers packet sock).Accepts none s.trace

theorem respondsOnce_iff (packet : List UInt8) (s : NetThread) :
    RespondsOnce packet s ↔ ∀ sock pre post, s.trace = pre ++ .responded sock :: post →
      (answers packet sock).after none pre = some packet := by
  constructor
  · intro h sock pre post htrace
    exact (Monitor.accepts_iff _ none s.trace).mp (h sock) pre _ post htrace rfl
  · intro h sock
    rw [Monitor.accepts_iff]
    intro pre e post htrace
    cases e with
    | responded sock' =>
        rintro rfl
        exact h _ pre post htrace
    | _ => trivial

theorem sending_initial (packet : List UInt8) (ctrl : CtrlState) (padData : SceCtrlData) :
    Sending packet (initial ctrl padData) none := by
  refine ⟨?_, ?_, fun _ _ => rfl, ?_, ?_⟩ <;> intro _ h <;> cases h

section

variable {P : Platform} {packet : List UInt8} {s t : NetThread} {cut : Option Socket}

theorem Sending.bypass (h : Sending packet s cut) (hbypass : Bypasses s t) :
    Sending packet t cut := by
  obtain ⟨effects, htrace, heffects⟩ := hbypass.trace
  have hafter : ∀ sock, (answers packet sock).after none t.trace =
      (answers packet sock).after none s.trace := by
    intro sock
    rw [htrace, Monitor.after_append]
    exact (answers_of_bypass heffects _).1
  refine ⟨?_, ?_, ?_, ?_, ?_⟩
  · intro c' hc'
    rcases hbypass.client c' hc' with ⟨c, hc, hsock, -⟩ | ⟨-, hlt, -⟩
    · rw [hsock]
      exact (h.live c hc).trans_le hbypass.accepts
    · exact hlt
  · exact fun sock hsock => (h.known sock hsock).trans_le hbypass.accepts
  · intro sock hsock
    rw [hafter]
    exact h.idle sock (hbypass.accepts.trans hsock)
  · intro c' hc' hstate
    rcases hbypass.client c' hc' with ⟨c, hc, hsock, hsame⟩ | ⟨-, -, hnew⟩
    · rw [hafter, hsock]
      exact h.waits c hc (hsame ▸ hstate)
    · cases hstate.symm.trans hnew
  · intro c' hc' hstate
    rw [hafter]
    rcases hbypass.client c' hc' with ⟨c, hc, hsock, hsame⟩ | ⟨hge, -, -⟩
    · rw [hsock]
      exact h.rests c hc (hsame ▸ hstate)
    · refine ⟨h.idle _ hge, fun hcut => ?_⟩
      exact absurd (h.known _ hcut) (not_lt.mpr hge)

theorem Sending.idle_other (h : Sending packet s cut) {client : Client}
    (hclient : s.client = some client) {effects : List Effect}
    (heffects : ∀ e ∈ effects, e.IsBypass ∨ (∃ message, e = .handled client.sock message) ∨
      (∃ piece, e = .sent client.sock piece) ∨ e = .responded client.sock)
    (sock : Socket) (hsock : s.accepts ≤ sock.serial) :
    (answers packet sock).after none (s.trace ++ effects) = none := by
  have hne : client.sock ≠ sock := by
    rintro rfl
    exact absurd (h.live client hclient) (not_lt.mpr hsock)
  rw [Monitor.after_append, h.idle sock hsock]
  exact answers_other hne heffects none

theorem Sending.receive (h : Sending packet s cut) {client : Client}
    (hclient : s.client = some client) {input : Receive} {r : Ingoing}
    (hr : handleIngoingData P.flatbuffers P.getpeername client input = .ok r) :
    Sending packet (s.received client r) cut := by
  have hsock := handleIngoingData_sock hr
  have hstate := handleIngoingData_state hr
  have hafter : (answers packet client.sock).after none
      (s.trace ++ r.handled.map (.handled client.sock)) =
        if r.handled.any isHandshake then
          some (((answers packet client.sock).after none s.trace).getD [])
        else (answers packet client.sock).after none s.trace := by
    rw [Monitor.after_append, answers_handled]
  refine ⟨?_, h.known, ?_, ?_, ?_⟩
  · rintro c ⟨rfl⟩
    rw [hsock]
    exact h.live client hclient
  · apply h.idle_other hclient
    intro e he
    obtain ⟨message, -, rfl⟩ := List.mem_map.mp he
    exact .inr (.inl ⟨message, rfl⟩)
  · rintro c ⟨rfl⟩ hwaits
    show ∃ bytes, (answers packet r.client.sock).after none (s.trace ++ _) = some bytes ∧ _
    rw [hsock, hafter]
    by_cases hs : client.state = .waitingForServerConfirm
    · obtain ⟨bytes, hbytes, hcut⟩ := h.waits client hclient hs
      exact ⟨bytes, by simp [hbytes], hcut⟩
    · obtain ⟨hnone, hcut⟩ := h.rests client hclient hs
      have hany : r.handled.any isHandshake = true := by
        by_contra hno
        rw [hstate, if_neg hno] at hwaits
        exact hs hwaits
      exact ⟨[], by simp [hany, hnone], by simp [hcut]⟩
  · rintro c ⟨rfl⟩ hrests
    show (answers packet r.client.sock).after none (s.trace ++ _) = none ∧ _
    have hno : ¬ r.handled.any isHandshake := by
      intro hany
      rw [hstate, if_pos hany] at hrests
      exact hrests rfl
    rw [hstate, if_neg hno] at hrests
    rw [hsock, hafter, if_neg hno]
    exact h.rests client hclient hrests

theorem Sending.sent (h : Sending packet s cut) {client : Client}
    (hclient : s.client = some client) (hstate : client.state = .waitingForServerConfirm)
    (pieces : List (List UInt8)) :
    Sending packet (s.emit (pieces.map (.sent client.sock)))
      (if pieces.flatten = [] then cut else some client.sock) := by
  obtain ⟨bytes, hbytes, hcut⟩ := h.waits client hclient hstate
  refine ⟨h.live, ?_, ?_, ?_, ?_⟩
  · intro sock hsock
    split_ifs at hsock
    · exact h.known sock hsock
    · cases hsock
      exact h.live client hclient
  · apply h.idle_other hclient
    intro e he
    obtain ⟨piece, -, rfl⟩ := List.mem_map.mp he
    exact .inr (.inr (.inl ⟨piece, rfl⟩))
  · intro c hc _
    cases hclient.symm.trans hc
    refine ⟨bytes ++ pieces.flatten, ?_, ?_⟩
    · show (answers packet client.sock).after none (s.trace ++ _) = _
      rw [Monitor.after_append, hbytes, answers_sent]
    · split_ifs with hnone
      · rw [hnone, List.append_nil, hcut]
      · simp [hnone]
  · intro c hc hother
    cases hclient.symm.trans hc
    exact absurd hstate hother

theorem Sending.respond (h : Sending packet s cut) {client : Client}
    (hclient : s.client = some client) :
    Sending packet (s.answered client) none := by
  refine ⟨?_, by simp, ?_, ?_, ?_⟩
  · rintro c ⟨rfl⟩
    exact h.live client hclient
  · apply h.idle_other hclient
    intro e he
    simp only [List.mem_cons, List.not_mem_nil, or_false] at he
    rcases he with rfl | rfl
    · exact .inr (.inr (.inr rfl))
    · exact .inl trivial
  · rintro c ⟨rfl⟩ hwaits
    cases hwaits
  · rintro c ⟨rfl⟩ -
    show (answers packet client.sock).after none (s.trace ++ _) = none ∧ _
    rw [Monitor.after_append]
    exact ⟨if_pos rfl, by simp⟩

/-- A step sends the whole response on a connection that has been cut short. -/
def CompletesAfterCut (P : Platform) (s : NetThread) (i : Input) (cut : Option Socket) : Prop :=
  ∃ sock sends, attempt s i = some (sock, sends) ∧ TakesAll (response P) sends ∧ cut = some sock

theorem attempt_of_bypass {i : Input}
    (hasks : ∀ input, i = .event input → AsksOut input → ∀ client, s.client = some client →
      client.state ≠ .waitingForServerConfirm) : attempt s i = none := by
  cases i with
  | event input =>
      unfold attempt
      dsimp only
      split_ifs with ha
      · cases hclient : s.client with
        | none => rfl
        | some client => exact if_neg (hasks input rfl ha client hclient)
      · rfl
  | _ => rfl

theorem attempt_of_asksOut {input : EventInput} {client : Client} (hasks : AsksOut input)
    (hclient : s.client = some client) (hstate : client.state = .waitingForServerConfirm) :
    attempt s (.event input) = some (client.sock, input.sends) := by
  simp only [attempt, if_pos hasks, hclient, Option.bind_some, if_pos hstate]

theorem RespondsOnce.append (h : RespondsOnce packet s) {effects : List Effect}
    (htrace : t.trace = s.trace ++ effects) (hno : ∀ sock, .responded sock ∉ effects) :
    RespondsOnce packet t := by
  intro sock
  rw [htrace, Monitor.accepts_append]
  exact ⟨h sock, accepts_of_no_response (hno sock) _⟩

theorem RespondsOnce.bypass (h : RespondsOnce packet s) (hbypass : Bypasses s t) :
    RespondsOnce packet t := by
  obtain ⟨effects, htrace, heffects⟩ := hbypass.trace
  exact h.append htrace fun sock hmem => heffects _ hmem

/-- The response is complete: one copy of it if nothing had been sent before. -/
theorem respondsOnce_respond_iff (h : RespondsOnce packet s) {client : Client} {bytes : List UInt8}
    (hbytes : (answers packet client.sock).after none s.trace = some (bytes ++ packet)) :
    RespondsOnce packet (s.answered client) ↔ bytes = [] := by
  constructor
  · intro hafter
    have hallowed := ((Monitor.accepts_append _ _ _ _).mp (hafter client.sock)).2.1 rfl
    rw [hbytes] at hallowed
    simpa using hallowed
  · rintro rfl sock
    show (answers packet sock).Accepts none (s.trace ++ _)
    rw [Monitor.accepts_append]
    refine ⟨h sock, ?_, trivial, trivial⟩
    rintro rfl
    exact hbytes

theorem answer_step {client : Client} {input : EventInput}
    (h : Sending (response P) s cut) (honce : RespondsOnce (response P) s)
    (hasks : AsksOut input) (hclient : s.client = some client)
    (hstate : client.state = .waitingForServerConfirm)
    (hstep : s.sendHandshakeResponse P client input.sends = .ok t) :
    Sending (response P) t (cutShort P s (.event input) cut) ∧
      (RespondsOnce (response P) t ↔ ¬ CompletesAfterCut P s (.event input) cut) := by
  obtain ⟨sent, pieces, hsend, hend⟩ := sendHandshakeResponse_ok hstep
  have hbypass : ∀ {u : NetThread}, u = (s.emit (pieces.map (.sent client.sock))).disconnectClient ∨
      u = s.emit (pieces.map (.sent client.sock)) →
        Bypasses (s.emit (pieces.map (.sent client.sock))) u := by
    rintro u (rfl | rfl)
    · exact bypasses_covers.disconnectClient _
    · exact .refl _
  have hattempt := attempt_of_asksOut hasks hclient hstate
  have hall := sendAll_takesAll_iff hsend
  have hcompletes : CompletesAfterCut P s (.event input) cut ↔
      0 < sent ∧ cut = some client.sock := by
    simp [CompletesAfterCut, hattempt, hall]
  have hpieces := h.sent hclient hstate pieces
  have honce' : RespondsOnce (response P) (s.emit (pieces.map (.sent client.sock))) :=
    honce.append rfl (by simp)
  rw [hcompletes]
  rcases hend with ⟨hfailed, hfailure⟩ | ⟨hsent, rfl⟩
  · have hnot : ¬ TakesAll (response P) input.sends := by rwa [← hall]
    have hcut : cutShort P s (.event input) cut =
        if pieces.flatten = [] then cut else some client.sock := by
      simp only [cutShort, hattempt, if_neg hnot, sendAll_takesPart_iff hsend hnot, ne_eq, ite_not]
    rw [hcut]
    refine ⟨hpieces.bypass (hbypass hfailure), ?_⟩
    simp [honce'.bypass (hbypass hfailure), hfailed]
  · have hcut : cutShort P s (.event input) cut = none := by
      simp only [cutShort, hattempt, if_pos (hall.mp hsent)]
    obtain ⟨bytes, hbytes, hnone⟩ := h.waits client hclient hstate
    have hafter : (answers (response P) client.sock).after none
        (s.emit (pieces.map (.sent client.sock))).trace = some (bytes ++ response P) := by
      show (answers (response P) client.sock).after none (s.trace ++ _) = _
      rw [Monitor.after_append, hbytes, answers_sent,
        sendAll_flatten_of_takesAll hsend (hall.mp hsent)]
    rw [hcut]
    refine ⟨hpieces.respond hclient, ?_⟩
    rw [respondsOnce_respond_iff honce' hafter, hnone]
    simp [hsent]

theorem response_step {i : Input} (h : Sending (response P) s cut)
    (honce : RespondsOnce (response P) s) (hstep : step P s i = .ok t) :
    Sending (response P) t (cutShort P s i cut) ∧
      (RespondsOnce (response P) t ↔ ¬ CompletesAfterCut P s i cut) := by
  have hquiet : attempt s i = none →
      cutShort P s i cut = cut ∧ ¬ CompletesAfterCut P s i cut := by
    intro hnone
    simp [cutShort, CompletesAfterCut, hnone]
  cases handshakeStep_of_step hstep with
  | bypass hbypass _ hasks =>
      obtain ⟨hcut, hno⟩ := hquiet (attempt_of_bypass hasks)
      rw [hcut]
      exact ⟨h.bypass hbypass, by simp [hno, honce.bypass hbypass]⟩
  | @receive input client _ hreads hclient hread =>
      have hasks : ¬ AsksOut input := by
        intro ha
        cases ha.2.2.1.symm.trans hreads.2.2.1
      obtain ⟨hcut, hno⟩ := hquiet (if_neg hasks)
      rw [hcut]
      obtain ⟨r, hr, hend⟩ := readable_ok hread
      have hreceived := h.receive (P := P) hclient hr
      have honce' : RespondsOnce (response P) (s.received client r) := honce.append rfl (by simp)
      rcases hend with ⟨-, rfl⟩ | ⟨-, rfl⟩
      · have hbypass := bypasses_covers.disconnectClient (s.received client r)
        exact ⟨hreceived.bypass hbypass, by simp [hno, honce'.bypass hbypass]⟩
      · exact ⟨hreceived, by simp [hno, honce']⟩
  | answer hasks hclient hstate hsend => exact answer_step h honce hasks hclient hstate hsend

end

/-- In a run every client becomes connected after exactly one copy of the response,
sent since it began to wait for it, exactly when no attempt completes the response
on a connection on which an earlier attempt was cut short. -/
theorem responds_once_iff (P : Platform) (ctrl : CtrlState) (padData : SceCtrlData)
    (inputs : List Input) :
    (∀ done s, done <+: inputs → run P (initial ctrl padData) done = .ok s →
        ∀ sock pre post, s.trace = pre ++ .responded sock :: post →
          (answers (response P) sock).after none pre = some (response P)) ↔
      ∀ done i s cut t, done ++ [i] <+: inputs →
        StepRun.run (StepRun.recording (step P) (cutShort P)) (initial ctrl padData, none) done =
          .ok (s, cut) →
        step P s i = .ok t → ¬ CompletesAfterCut P s i cut := by
  simp only [← respondsOnce_iff]
  apply StepRun.run_holds_iff_recording
    (I := fun s cut => Sending (response P) s cut ∧ RespondsOnce (response P) s)
  · exact fun s cut hs => hs.2
  · intro s i cut t hs hstep hgood
    obtain ⟨hsending, honce⟩ := response_step hs.1 hs.2 hstep
    exact ⟨hsending, honce.mpr hgood⟩
  · intro s i cut t hs hstep ht
    exact (response_step hs.1 hs.2 hstep).2.mp ht
  · exact ⟨sending_initial (response P) ctrl padData, fun _ => trivial⟩

/-- A client's handshake is answered in two attempts, the first cut short after ten
bytes. -/
def answerTwice : List Iteration :=
  Iteration.handshaking.take 2 ++
    [.instant 20000 true
      [{ EventInput.connect 0 with
        events := ⟨false, true, false, false⟩, sockType := .client, sends := [10, -2143223517] }],
    .instant 30000 true
      [{ EventInput.connect 0 with
        events := ⟨false, true, false, false⟩, sockType := .client, sends := [52] }]]

/-- The stream then has the first ten bytes of the response before the response. -/
theorem not_responds_once_of_answerTwice :
    ∃ s sock post, run .sample (initial .idle ⟨0, 0, 0, 0, 0, 0⟩)
        (answerTwice.flatMap Iteration.inputs) = .ok s ∧
      s.trace = s.trace.take 7 ++ .responded sock :: post ∧
      (answers (response .sample) sock).after none (s.trace.take 7) =
        some ((response .sample).take 10 ++ response .sample) := by
  let sock : Socket := ⟨0, 3, ⟨0x0201a8c0, 0x5000⟩⟩
  have hend : ((run .sample (initial .idle ⟨0, 0, 0, 0, 0, 0⟩)
      (answerTwice.flatMap Iteration.inputs)).toOption.map fun s =>
        (s.trace[7]?, (answers (response .sample) sock).after none (s.trace.take 7))) =
      some (some (.responded sock), some ((response .sample).take 10 ++ response .sample)) := by
    decide +kernel
  obtain ⟨s, hrun, hpair⟩ := StepRun.exists_ok_of_map hend
  obtain ⟨hlt, hget⟩ := List.getElem?_eq_some_iff.mp (congrArg Prod.fst hpair)
  refine ⟨s, sock, s.trace.drop 8, hrun, ?_, congrArg Prod.snd hpair⟩
  rw [← hget, ← List.drop_eq_getElem_cons hlt, List.take_append_drop]

end NetThread

end VitaOxiPad.Server
