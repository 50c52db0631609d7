import VitaOxiPad.Server.NetThread
/-!
# Accesses of the empty optional

Two of the places that use `client->` do not look first: the handling of an
`EPOLLOUT` event, and the pad sending after a heartbeat check that has just
disconnected the client.
-/

namespace VitaOxiPad.Server.NetThread

/-- The event asks whether the client's socket can be written to, and nothing else. -/
def AsksOut (input : EventInput) : Prop :=
  input.events.epollhup = false ∧ input.events.epollerr = false ∧
    input.events.epollin = false ∧ input.events.epollout = true ∧ input.sockType = .client

def Guarded (s : NetThread) : Input → Prop
  | .event input => AsksOut input → s.client ≠ none
  | .send input => ∀ client, s.client = some client →
      client.timeSinceLastHeartbeat input.heartbeatClock ≤ maxHeartbeatInterval
  | .ctrl _ | .netStatus _ => True

theorem handleEvent_emptyClient_iff (P : Platform) (s : NetThread) (input : EventInput) :
    (∃ site t, s.handleEvent P input = .error (.emptyClient site t)) ↔
      ¬ s.Guarded (.event input) := by
  obtain ⟨⟨epollin, epollout, epollhup, epollerr⟩, sockType, accept, receive, sends⟩ := input
  unfold handleEvent Guarded AsksOut
  by_cases hhup : (epollhup || epollerr) = true
  · rw [if_pos hhup]
    have hopen : ¬ (epollhup = false ∧ epollerr = false) := by
      rintro ⟨rfl, rfl⟩
      cases hhup
    cases sockType with
    | server => simp
    | client =>
        simp only [reduceCtorEq, exists_false, false_iff, not_not]
        exact fun h => absurd ⟨h.1, h.2.1⟩ hopen
  · rw [if_neg hhup]
    have hclosed : epollhup = false ∧ epollerr = false := by simpa using hhup
    cases epollin with
    | true =>
        cases sockType with
        | server => cases s.client <;> simp
        | client =>
            cases s.client with
            | none => simp
            | some client => simp [readable_ne_emptyClient]
    | false =>
        cases epollout with
        | false => simp
        | true =>
            cases sockType with
            | server => simp
            | client =>
                cases s.client with
                | none => simp [hclosed]
                | some client =>
                    simp only [Bool.false_eq_true, if_false, if_true]
                    split <;> simp [sendHandshakeResponse_ne_emptyClient]

theorem checkHeartbeat_client (s : NetThread) {client : Client} (h : s.client = some client)
    (now : UInt64) :
    (s.checkHeartbeat client now).client =
      if maxHeartbeatInterval < client.timeSinceLastHeartbeat now then none
      else some client := by
  unfold checkHeartbeat disconnectClient resetClient emit
  split_ifs
  · simp only [h]
  · exact h

theorem finish_emptyClient_iff (P : Platform) (s : NetThread) (input : SendInput) :
    (∃ site t, s.finish P input = .error (.emptyClient site t)) ↔
      ¬ s.Guarded (.send input) := by
  unfold finish Guarded
  cases hclient : s.client with
  | none => simp
  | some client =>
      have hcheck := s.checkHeartbeat_client hclient input.heartbeatClock
      dsimp only
      by_cases hlate : maxHeartbeatInterval <
          client.timeSinceLastHeartbeat input.heartbeatClock
      · rw [if_pos hlate] at hcheck
        simp [hcheck, hlate]
      · rw [if_neg hlate] at hcheck
        simp only [hcheck, reduceCtorEq, exists_false, Option.some.injEq, forall_eq', false_iff,
          not_not]
        exact UInt64.not_lt.mp hlate

theorem step_emptyClient_iff (P : Platform) (s : NetThread) (i : Input) :
    (∃ site t, step P s i = .error (.emptyClient site t)) ↔ ¬ s.Guarded i := by
  cases i with
  | ctrl read =>
      simp only [step, readCtrl, Guarded, not_true_eq_false, iff_false]
      split <;> simp
  | netStatus states => simp [step, Guarded]
  | event input => exact s.handleEvent_emptyClient_iff P input
  | send input => exact s.finish_emptyClient_iff P input

/-- A run never uses an empty optional exactly when every step of it that is
reached is guarded. -/
theorem run_ne_emptyClient_iff (P : Platform) (s₀ : NetThread) (inputs : List Input) :
    (∀ site t, run P s₀ inputs ≠ .error (.emptyClient site t)) ↔
      ∀ pre i post s, inputs = pre ++ i :: post → run P s₀ pre = .ok s → s.Guarded i := by
  constructor
  · intro hsafe pre i post s hinputs hrun
    by_contra hbad
    obtain ⟨site, t, hstep⟩ := (step_emptyClient_iff P s i).mpr hbad
    apply hsafe site t
    exact (StepRun.run_eq_error_iff s₀ inputs _).mpr ⟨pre, i, post, s, hinputs, hrun, hstep⟩
  · intro hguarded site t hrun
    obtain ⟨pre, i, post, s, hinputs, hpre, hstep⟩ :=
      (StepRun.run_eq_error_iff s₀ inputs _).mp hrun
    have hbad := (step_emptyClient_iff P s i).mp ⟨site, t, hstep⟩
    exact hbad (hguarded pre i post s hinputs hpre)

/-- A client connects and sends nothing for 26 seconds. -/
theorem run_emptyClient_after_timeout :
    ∃ t, run .sample (initial .idle ⟨0, 0, 0, 0, 0, 0⟩)
      ([Iteration.instant 0 true [.connect 0], .instant 26000000 true []].flatMap
        Iteration.inputs) = .error (.emptyClient .padSending t) :=
  ⟨_, rfl⟩

end VitaOxiPad.Server.NetThread
