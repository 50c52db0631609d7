import VitaOxiPad.Client.HeartbeatSchedule
/-!
# The time between two heartbeats

The wait is until the next heartbeat at most, in whole seconds, counted from a number of
elapsed seconds that is rounded down.  So a client whose turns begin and wake in time sends
a heartbeat no later than a second after the interval, and a slack for each of the two.
-/

namespace VitaOxiPad.Client

open NetProtocol
open VitaReports (MainReport)

def Turn.timeout (heartbeatFreq : UInt32) (lastBeat : Nat) (t : Turn) : Nat :=
  heartbeatInterval heartbeatFreq - (t.pollClock - lastBeat) / 1000000000

def Turn.endClock (heartbeatFreq : UInt32) (lastBeat : Nat) (t : Turn) : Nat :=
  if t.HeartbeatDue heartbeatFreq lastBeat then t.resetClock else t.checkClock

/-- Each turn begins and wakes in time, but for a slack: `ended` is the end of the turn
before, at first the handshake. -/
def Prompt (heartbeatFreq : UInt32) (slack : Nat) : Nat → Nat → List Turn → Prop
  | _, _, [] => True
  | last, ended, t :: turns =>
      t.pollClock ≤ ended + slack ∧
      t.checkClock ≤ t.pollClock + t.timeout heartbeatFreq last * 1000000000 + slack ∧
      Prompt heartbeatFreq slack
        (if t.HeartbeatDue heartbeatFreq last then t.resetClock else last)
        (t.endClock heartbeatFreq last) turns

instance decidablePrompt (heartbeatFreq : UInt32) (slack : Nat) :
    ∀ (last ended : Nat) (turns : List Turn),
      Decidable (Prompt heartbeatFreq slack last ended turns)
  | _, _, [] => .isTrue trivial
  | _, _, _ :: turns =>
      @instDecidableAnd _ _ _ (@instDecidableAnd _ _ _
        (decidablePrompt heartbeatFreq slack _ _ turns))

variable {ε : Type} {heartbeatFreq : UInt32} {slack : Nat}

/-- The turn before ended before a heartbeat was due, or with one. -/
theorem endClock_le {last : Nat} (t : Turn) :
    t.endClock heartbeatFreq last ≤
      (if t.HeartbeatDue heartbeatFreq last then t.resetClock else last) +
        heartbeatInterval heartbeatFreq * 1000000000 := by
  unfold Turn.endClock
  split_ifs with hdue
  · exact Nat.le_add_right _ _
  · exact (not_le.mp hdue).le

theorem checkClock_le {last ended : Nat} {t : Turn} (hlast : last ≤ t.pollClock)
    (hended : ended ≤ last + heartbeatInterval heartbeatFreq * 1000000000)
    (hpoll : t.pollClock ≤ ended + slack)
    (hcheck : t.checkClock ≤ t.pollClock + t.timeout heartbeatFreq last * 1000000000 + slack) :
    t.checkClock ≤ last + (heartbeatInterval heartbeatFreq + 1) * 1000000000 + 2 * slack := by
  unfold Turn.timeout at hcheck
  have hmod := Nat.mod_lt (t.pollClock - last) (by decide : 0 < 1000000000)
  have hdiv := Nat.div_add_mod (t.pollClock - last) 1000000000
  generalize (t.pollClock - last) / 1000000000 = waited at hcheck hdiv
  -- the wait is over when the interval is, and the rounding adds less than a second
  by_cases hwaited : waited ≤ heartbeatInterval heartbeatFreq
  · omega
  · omega

theorem prompt_append {last ended : Nat} (done turns : List Turn)
    (h : Prompt heartbeatFreq slack last ended (done ++ turns))
    (hended : ended ≤ last + heartbeatInterval heartbeatFreq * 1000000000) :
    ∃ ended', ended' ≤ lastBeat heartbeatFreq last done +
        heartbeatInterval heartbeatFreq * 1000000000 ∧
      Prompt heartbeatFreq slack (lastBeat heartbeatFreq last done) ended' turns := by
  induction done generalizing last ended with
  | nil => exact ⟨ended, hended, h⟩
  | cons t done ih =>
      obtain ⟨-, -, hrest⟩ := h
      exact ih hrest (endClock_le t)

/-- A turn that begins after the last heartbeat checks for the next one in time. -/
theorem Prompt.checkClock_le {handshake : Nat} {done later : List Turn} {t : Turn}
    (h : Prompt heartbeatFreq slack handshake handshake (done ++ t :: later))
    (hlast : lastBeat heartbeatFreq handshake done ≤ t.pollClock) :
    t.checkClock ≤ lastBeat heartbeatFreq handshake done +
      (heartbeatInterval heartbeatFreq + 1) * 1000000000 + 2 * slack := by
  obtain ⟨ended, hended, hpoll, hcheck, -⟩ := prompt_append done _ h (Nat.le_add_right _ _)
  exact Client.checkClock_le hlast hended hpoll hcheck

/-- A client whose turns are prompt checks for a heartbeat, in every turn, no later than the
interval, a second and two slacks after its last one. -/
theorem checks_within_interval (fb : Flatbuffers ε) (device : List MainReport → Bool)
    (heartbeatFreq : UInt32) (slack : Nat) (incomingBuffer : List UInt8) (handshake : Nat)
    (turns : List Turn) (hprompt : Prompt heartbeatFreq slack handshake handshake turns)
    (done : List Turn) (t : Turn) (s s' : LoopState) (hpre : done ++ [t] <+: turns)
    (hdone : mainLoop fb device heartbeatFreq (.start incomingBuffer handshake) done = .ok s)
    (hturn : loopTurn fb device heartbeatFreq s t = .ok s') :
    t.checkClock ≤
        s.lastTime + (heartbeatInterval heartbeatFreq + 1) * 1000000000 + 2 * slack ∧
      s'.lastTime = if t.HeartbeatDue heartbeatFreq s.lastTime then t.resetClock
        else s.lastTime := by
  obtain ⟨hlast, hempty⟩ := mainLoop_keepsTime rfl hdone
  change s.lastTime = lastBeat heartbeatFreq handshake done at hlast
  have hclock : t.NotBefore s.lastTime := by
    by_contra hbefore
    rw [loopTurn, heartbeatTurn_of_before hbefore] at hturn
    cases hturn
  obtain ⟨later, rfl⟩ := hpre
  rw [List.append_assoc, List.singleton_append] at hprompt
  refine ⟨?_, (loopTurn_keepsTime ⟨rfl, hempty⟩ hturn).lastTime⟩
  rw [hlast]
  exact hprompt.checkClock_le (hlast ▸ hclock.1)

/-- The wait of a turn ends when it was asked to, 20 seconds after the last heartbeat. -/
def Turn.idle (seconds : Nat) : Turn where
  pollClock := seconds * 1000000000
  pollOk := true
  readyEvents := 0
  checkClock := (seconds + 20) * 1000000000
  ctrlWriteOk := true
  resetClock := (seconds + 20) * 1000000000
  recv := .wouldBlock

theorem checks_within_interval_of_idle :
    ∃ s s', mainLoop padOnly (fun _ => true) 25 (.start [] 0) [.idle 0] = .ok s ∧
      loopTurn padOnly (fun _ => true) 25 s (.idle 20) = .ok s' ∧
      (Turn.idle 20).checkClock ≤
        s.lastTime + (heartbeatInterval 25 + 1) * 1000000000 + 2 * 0 ∧
      s'.lastTime = if (Turn.idle 20).HeartbeatDue 25 s.lastTime then (Turn.idle 20).resetClock
        else s.lastTime := by
  have hok : (mainLoop padOnly (fun _ => true) 25 (.start [] 0) ([.idle 0] ++ [.idle 20])).isOk =
      true := by decide +kernel
  obtain ⟨s', hrun⟩ := StepRun.exists_ok_of_isOk hok
  obtain ⟨s, hdone, hturn⟩ := (StepRun.run_concat_eq_ok_iff _ _ _ _).mp hrun
  exact ⟨s, s', hdone, hturn, checks_within_interval padOnly (fun _ => true) 25 0 [] 0
    [.idle 0, .idle 20] (by decide) [.idle 0] (.idle 20) s s' List.prefix_rfl hdone hturn⟩

end VitaOxiPad.Client
