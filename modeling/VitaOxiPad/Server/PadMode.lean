import VitaOxiPad.Server.Console
import VitaOxiPad.Server.Timestamps
/-!
# Pad mode

The main thread turns pad mode on and off, and locks the shell's buttons for as long.  The
network thread sends pads while it is on, and tells in each the battery level that the status
thread has published.
-/

namespace VitaOxiPad.Server

/-! ## The shell's locks -/

/-- Each lock is taken when it is free and given back when it is held. -/
def shellLocks : Monitor (ShellUtilLock → Bool) ShellUtil where
  next held
    | .lock type => Function.update held type true
    | .unlock type => Function.update held type false
    | .initEvents => held
  Allowed held
    | .lock type => held type = false
    | .unlock type => held type = true
    | .initEvents => True

namespace MainThread

/-- The calls so far have been in order, and hold the locks in pad mode. -/
structure Locks (s : MainThread) : Prop where
  lawful : shellLocks.Accepts (fun _ => false) s.shellCalls
  held : shellLocks.after (fun _ => false) s.shellCalls = fun _ => s.padMode

theorem Locks.same {s t : MainThread} (h : s.Locks) (hcalls : t.shellCalls = s.shellCalls)
    (hmode : t.padMode = s.padMode) : t.Locks where
  lawful := by
    rw [hcalls]
    exact h.lawful
  held := by rw [hcalls, h.held, hmode]

/-- Calls that are in order in the mode they begin in, and lead to the mode they end in. -/
theorem Locks.calls {s t : MainThread} (h : s.Locks) {calls : List ShellUtil}
    (hcalls : t.shellCalls = s.shellCalls ++ calls)
    (hlawful : shellLocks.Accepts (fun _ => s.padMode) calls)
    (hheld : shellLocks.after (fun _ => s.padMode) calls = fun _ => t.padMode) : t.Locks where
  lawful := by
    rw [hcalls, Monitor.accepts_append, h.held]
    exact ⟨h.lawful, hlawful⟩
  held := by rw [hcalls, Monitor.after_append, h.held, hheld]

theorem Locks.takeEvents {s : MainThread} (h : s.Locks) (events : UInt32) :
    (s.takeEvents events).Locks := by
  apply h.same _ (takeEvents_screen s events).1
  unfold MainThread.takeEvents
  dsimp only
  split_ifs <;> rfl

theorem Locks.enterPadMode {s : MainThread} (h : s.Locks) (f : Frame) :
    (s.enterPadMode f).Locks := by
  unfold MainThread.enterPadMode
  split_ifs with hentered
  · rw [Bool.and_eq_true, Bool.not_eq_true'] at hentered
    refine h.calls rfl ?_ ?_
    · rw [hentered.2]
      exact ⟨trivial, rfl, rfl, trivial⟩
    · rw [hentered.2]
      funext type
      cases type <;> rfl
  · exact h

theorem Locks.leavePadMode {s : MainThread} (h : s.Locks) (f : Frame) :
    (s.leavePadMode f).Locks := by
  unfold MainThread.leavePadMode
  split_ifs with hleft
  · rw [Bool.and_eq_true] at hleft
    refine h.calls rfl ?_ ?_
    · rw [hleft.2]
      exact ⟨rfl, rfl, trivial⟩
    · rw [hleft.2]
      funext type
      cases type <;> rfl
  · exact h

theorem Locks.switchScreen {s : MainThread} (h : s.Locks) (f : Frame) :
    (s.switchScreen f).Locks := by
  unfold MainThread.switchScreen
  split_ifs <;> exact h.same rfl rfl

end MainThread

/-! ## The battery level -/

namespace Console

variable {P : Platform} {s t : Console}

theorem locks_mainTurn (h : s.loop.main.Locks) : s.mainTurn.loop.main.Locks := by
  unfold mainTurn
  dsimp only
  split
  · exact h.takeEvents _
  · exact h.enterPadMode _
  · exact h
  · exact h.leavePadMode _
  · exact h
  · exact h.switchScreen _

theorem locks_step {i : ConsoleInput} (h : s.loop.main.Locks) (hstep : step P s i = .ok t) :
    t.loop.main.Locks := by
  cases i with
  | net input =>
      obtain ⟨net, -, rfl⟩ := netTurn_ok hstep
      exact h
  | netRaise =>
      cases hstep
      unfold netRaise
      split <;> exact h
  | status input =>
      cases hstep
      exact h
  | statusRaise =>
      cases hstep
      unfold statusRaise
      split <;> exact h
  | main =>
      cases hstep
      exact locks_mainTurn h

/-- In any interleaving the main thread never takes a lock of the shell that it has, nor
gives back one that it has not, and it has both between its turns exactly in pad mode. -/
theorem shell_locked_in_pad_mode (P : Platform) (ctrl : CtrlState) (padData : SceCtrlData)
    (status : StatusThread) (connectedToNetwork : Bool) (kctrl : Kctrl)
    (inputs : List ConsoleInput) (s : Console)
    (hrun : run P (initial ctrl padData status connectedToNetwork kctrl) inputs = .ok s) :
    shellLocks.Accepts (fun _ => false) s.loop.main.shellCalls ∧
      ∀ type, shellLocks.after (fun _ => false) s.loop.main.shellCalls type =
        s.loop.main.padMode := by
  have hinitial : (initial ctrl padData status connectedToNetwork kctrl).loop.main.Locks :=
    ⟨trivial, rfl⟩
  have hlocks := StepRun.run_invariant (I := fun s : Console => s.loop.main.Locks)
    (fun _ _ _ hs hstep => locks_step hs hstep) hinitial hrun
  exact ⟨hlocks.lawful, congrFun hlocks.held⟩

theorem shell_locked_in_pad_mode_of_interleaved :
    ∃ s, run .sample sample interleaved = .ok s ∧ s.loop.main.padMode = true ∧
      shellLocks.Accepts (fun _ => false) s.loop.main.shellCalls ∧
      ∀ type, shellLocks.after (fun _ => false) s.loop.main.shellCalls type =
        s.loop.main.padMode := by
  have hmode : (run .sample sample interleaved).toOption.map (·.loop.main.padMode) =
      some true := by decide +kernel
  obtain ⟨s, hrun, hon⟩ := StepRun.exists_ok_of_map hmode
  exact ⟨s, hrun, hon, shell_locked_in_pad_mode .sample .idle ⟨0, 0, 0, 0, 0, 0⟩
    (.initial 60 false false) true (moduleStart true false ⟨true, 50⟩) interleaved s hrun⟩

/-! ## Pad mode -/

/-- In pad mode, as entered by this turn and not left since. -/
structure InPadMode (P : Platform) (s₀ : Console) (inputs : List ConsoleInput) (s : Console) :
    Prop where
  on : s.loop.main.padMode = true
  entered : ∃ before i u, before ++ [i] <+: inputs ∧ run P s₀ before = .ok u ∧
    SceCtrl.cross.held u.net.sharedData.padData.buttons = true ∧
    ∀ mid w, before ++ [i] <+: mid → mid <+: inputs → run P s₀ mid = .ok w →
      w.loop.main.padMode = true

theorem step_pads {i : ConsoleInput} (h : step P s i = .ok t) :
    NetThread.pads t.net.trace = NetThread.pads s.net.trace ∨
      s.loop.main.padMode = true ∧ ∃ send,
        NetThread.pads t.net.trace = NetThread.pads s.net.trace ++ [send] ∧
          send.pad = ctrlAsNetprotocol s.net.ctrl s.status.sharedData.batteryLevel := by
  have hnet := step_net h
  cases hof : i.ofNet with
  | none =>
      rw [hof] at hnet
      exact .inl (by rw [hnet])
  | some input =>
      rw [hof] at hnet
      rcases NetThread.step_pads hnet with hsame | ⟨given, client, hgiven, hmode, -, hsent⟩
      · exact .inl hsame
      · cases input with
        | send input =>
            cases hgiven
            exact .inr ⟨hmode, _, hsent, rfl⟩
        | _ => cases hgiven

end Console

end VitaOxiPad.Server
