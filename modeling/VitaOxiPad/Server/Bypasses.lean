import VitaOxiPad.Server.Moves
/-!
# Steps around the handshake

Only two kinds of steps take part in a handshake: a readable event, which may
handle one, and the sending of the response.  Every other step bypasses it: the
client goes, comes anew or stays as it is.
-/

namespace VitaOxiPad.Server

/-- The effect neither receives nor sends on a client's socket. -/
def Effect.IsBypass : Effect → Prop
  | handled _ _ | sent _ _ | responded _ => False
  | _ => True

namespace NetThread

structure Bypasses (s t : NetThread) : Prop where
  trace : ∃ effects, t.trace = s.trace ++ effects ∧ ∀ e ∈ effects, e.IsBypass
  accepts : s.accepts ≤ t.accepts
  client : ∀ c', t.client = some c' →
    (∃ c, s.client = some c ∧ c'.sock = c.sock ∧ c'.state = c.state) ∨
      (s.accepts ≤ c'.sock.serial ∧ c'.sock.serial < t.accepts ∧
        c'.state = .waitingForHandshake)

theorem Bypasses.of_same {s t : NetThread} (hclient : t.client = s.client)
    (haccepts : t.accepts = s.accepts) (effects : List Effect)
    (htrace : t.trace = s.trace ++ effects) (h : ∀ e ∈ effects, e.IsBypass) : Bypasses s t where
  trace := ⟨effects, htrace, h⟩
  accepts := haccepts.ge
  client := by
    intro c hc
    rw [hclient] at hc
    exact .inl ⟨c, hc, rfl, rfl⟩

theorem Bypasses.refl (s : NetThread) : Bypasses s s :=
  .of_same rfl rfl [] (by simp) (by simp)

theorem Bypasses.trans {s t u : NetThread} (hst : Bypasses s t) (htu : Bypasses t u) :
    Bypasses s u := by
  obtain ⟨es, hes, hesb⟩ := hst.trace
  obtain ⟨fs, hfs, hfsb⟩ := htu.trace
  refine ⟨⟨es ++ fs, by rw [hfs, hes, List.append_assoc], ?_⟩, hst.accepts.trans htu.accepts, ?_⟩
  · intro e he
    rcases List.mem_append.mp he with he | he
    · exact hesb e he
    · exact hfsb e he
  · intro c'' hc''
    rcases htu.client c'' hc'' with ⟨c', hc', hsock', hstate'⟩ | ⟨hge, hlt, hstate⟩
    · rcases hst.client c' hc' with ⟨c, hc, hsock, hstate⟩ | ⟨hge, hlt, hstate⟩
      · exact .inl ⟨c, hc, hsock'.trans hsock, hstate'.trans hstate⟩
      · rw [← hsock'] at hge hlt
        exact .inr ⟨hge, hlt.trans_le htu.accepts, hstate'.trans hstate⟩
    · exact .inr ⟨hst.accepts.trans hge, hlt, hstate⟩

theorem bypasses_resetClient (s : NetThread) : Bypasses s s.resetClient := by
  unfold resetClient
  split
  · exact .refl s
  · next client hclient =>
      refine ⟨⟨_, rfl, by simp [Effect.IsBypass]⟩, le_rfl, ?_⟩
      rintro c ⟨⟩

theorem bypasses_covers : CoversStatus Bypasses where
  refl := .refl
  trans := .trans
  quiet hclient haccepts htrace _ :=
    .of_same hclient haccepts [] (by rw [htrace, List.append_nil]) (by simp)
  signals s effects h := by
    refine .of_same rfl rfl effects rfl ?_
    intro e he
    have hsignal := h e he
    cases e <;> trivial
  reset := bypasses_resetClient

theorem bypasses_addClient (P : Platform) (s : NetThread) (a : Accept) :
    Bypasses s (s.addClient P a) := by
  unfold addClient
  split_ifs
  · refine ⟨⟨_, rfl, by simp [Effect.IsBypass]⟩, Nat.le_succ _, ?_⟩
    rintro c ⟨rfl⟩
    exact .inr ⟨le_rfl, Nat.lt_succ_self _, rfl⟩
  · exact .refl s

theorem bypasses_refuseClient (s : NetThread) (a : Accept) : Bypasses s (s.refuseClient a) := by
  unfold refuseClient
  split_ifs
  · refine ⟨⟨_, rfl, by simp [Effect.IsBypass]⟩, Nat.le_succ _, ?_⟩
    exact fun c hc => .inl ⟨c, hc, rfl, rfl⟩
  · exact .refl s

theorem bypasses_sendPad (P : Platform) {s : NetThread} {client : Client}
    (hclient : s.client = some client) (input : SendInput) :
    Bypasses s (s.sendPad P client input) := by
  have hsent : Bypasses s { s.emit [.padSent (s.padSend P client input)] with
      client := some (client.updateSentDataTime input.sentDataClock) } := by
    refine ⟨⟨_, rfl, by simp [Effect.IsBypass]⟩, le_rfl, ?_⟩
    rintro c ⟨rfl⟩
    exact .inl ⟨client, hclient, rfl, rfl⟩
  unfold sendPad
  split_ifs
  · exact hsent
  · exact hsent.trans (.of_same rfl rfl [] (List.append_nil _).symm (by simp))
  · exact .refl s
  · exact .of_same rfl rfl [] (List.append_nil _).symm (by simp)

theorem bypasses_finish {P : Platform} {s t : NetThread} {input : SendInput}
    (h : s.finish P input = .ok t) : Bypasses s t := by
  rcases finish_cases h with ⟨-, rfl⟩ | ⟨client, hclient, -, rfl⟩
  · exact .refl t
  · exact bypasses_sendPad P hclient input

/-- A readable event, an attempt to answer, or neither. -/
inductive HandshakeStep (P : Platform) (s : NetThread) : Input → NetThread → Prop
  | bypass {i : Input} {t : NetThread} (h : Bypasses s t)
      (hreads : ∀ input, i = .event input → Reads input → s.client = none)
      (hasks : ∀ input, i = .event input → AsksOut input → ∀ client, s.client = some client →
        client.state ≠ .waitingForServerConfirm) : HandshakeStep P s i t
  | receive {input : EventInput} {client : Client} {t : NetThread} (hreads : Reads input)
      (hclient : s.client = some client) (h : s.readable P client input.receive = .ok t) :
      HandshakeStep P s (.event input) t
  | answer {input : EventInput} {client : Client} {t : NetThread} (hasks : AsksOut input)
      (hclient : s.client = some client) (hstate : client.state = .waitingForServerConfirm)
      (h : s.sendHandshakeResponse P client input.sends = .ok t) :
      HandshakeStep P s (.event input) t

theorem handshakeStep_of_step {P : Platform} {s t : NetThread} {i : Input}
    (h : step P s i = .ok t) : HandshakeStep P s i t := by
  cases i with
  | ctrl read =>
      obtain ⟨hclient, htrace, haccepts, -⟩ := readCtrl_client h
      have hbypass : Bypasses s t :=
        .of_same hclient haccepts [] (by rw [htrace, List.append_nil]) (by simp)
      exact .bypass hbypass (by rintro _ ⟨⟩) (by rintro _ ⟨⟩)
  | netStatus states =>
      cases h
      exact .bypass (bypasses_covers.netStatus s states) (by rintro _ ⟨⟩) (by rintro _ ⟨⟩)
  | event input =>
      have hevent : ∀ {t}, Bypasses s t → ¬ Reads input → ¬ AsksOut input →
          HandshakeStep P s (.event input) t := by
        intro t hbypass hreads hasks
        apply HandshakeStep.bypass hbypass
        · rintro _ ⟨rfl⟩ hr
          exact absurd hr hreads
        · rintro _ ⟨rfl⟩ ha
          exact absurd ha hasks
      cases handling_of_handleEvent h with
      | idle hreads hasks =>
          apply HandshakeStep.bypass (.refl s)
          · rintro _ ⟨rfl⟩
            exact hreads
          · rintro _ ⟨rfl⟩
            exact hasks
      | hangup hreads hasks => exact hevent (bypasses_covers.disconnectClient s) hreads hasks
      | connect hreads hasks =>
          have hbypass := (bypasses_addClient P s input.accept).trans
            (bypasses_covers.announceClient _)
          exact hevent hbypass hreads hasks
      | refuse hreads hasks =>
          have hbypass := (bypasses_refuseClient s input.accept).trans
            (bypasses_covers.announceClient _)
          exact hevent hbypass hreads hasks
      | receive hreads hclient h => exact .receive hreads hclient h
      | answer hasks hclient hstate h => exact .answer hasks hclient hstate h
  | send input => exact .bypass (bypasses_finish h) (by rintro _ ⟨⟩) (by rintro _ ⟨⟩)

end NetThread

end VitaOxiPad.Server
