import VitaOxiPad.Server.Kctrl
import VitaOxiPad.Server.NetThread
/-!
# The server's main loop

The `while` loop of `main` in `server/src/main.cpp`.  A frame takes the raised
events, then enters or leaves pad mode and switches the screen as the buttons
say.
-/

namespace VitaOxiPad.Server

def SceCtrl.held (button : SceCtrl) (buttons : UInt32) : Bool := buttons &&& button.mask != 0

inductive ShellUtilLock where
  | psBtn2
  | poweroffMenu
  deriving DecidableEq, Repr

inductive ShellUtil where
  | initEvents
  | lock (type : ShellUtilLock)
  | unlock (type : ShellUtilLock)
  deriving DecidableEq, Repr

structure MainThread where
  connectedToNetwork : Bool
  pcConnectState : Bool
  padMode : Bool
  displayOn : Bool
  shellCalls : List ShellUtil
  kctrl : Kctrl
  deriving DecidableEq, Repr

/-- The events that a frame polls, and `pad_data.buttons` in each of the places
that read it: the network thread writes it at any time. -/
structure Frame where
  events : UInt32
  cross : UInt32
  select : UInt32
  start : UInt32
  up : UInt32
  upStart : UInt32
  deriving DecidableEq, Repr

def Frame.holding (held : List SceCtrl) : Frame :=
  let buttons := held.foldl (fun buttons button => buttons ||| button.mask) 0
  ⟨0, buttons, buttons, buttons, buttons, buttons⟩

namespace MainThread

def initial (connectedToNetwork : Bool) (kctrl : Kctrl) : MainThread where
  connectedToNetwork := connectedToNetwork
  pcConnectState := false
  padMode := false
  displayOn := true
  shellCalls := []
  kctrl := kctrl

def raised (events : UInt32) (event : MainEvent) : Bool := events &&& event.mask != 0

def takeEvents (s : MainThread) (events : UInt32) : MainThread :=
  let s :=
    if raised events .netConnect then { s with connectedToNetwork := true }
    else if raised events .netDisconnect then { s with connectedToNetwork := false }
    else s
  if raised events .pcConnect then { s with pcConnectState := true }
  else if raised events .pcDisconnect then { s with pcConnectState := false }
  else s

def enterPadMode (s : MainThread) (f : Frame) : MainThread :=
  if SceCtrl.cross.held f.cross && !s.padMode then
    { s with
      padMode := true
      shellCalls := s.shellCalls ++ [.initEvents, .lock .psBtn2, .lock .poweroffMenu] }
  else s

def leavePadMode (s : MainThread) (f : Frame) : MainThread :=
  if (SceCtrl.select.held f.select && SceCtrl.start.held f.start) && s.padMode then
    { s with
      padMode := false
      shellCalls := s.shellCalls ++ [.unlock .psBtn2, .unlock .poweroffMenu]
      displayOn := true
      kctrl := kctrlScreenOn s.kctrl }
  else s

def switchScreen (s : MainThread) (f : Frame) : MainThread :=
  if s.padMode then
    if SceCtrl.up.held f.up && SceCtrl.start.held f.upStart then
      { s with displayOn := !s.displayOn, kctrl := kctrlToggleScreen s.kctrl }
    else s
  else s

def frame (s : MainThread) (f : Frame) : MainThread :=
  (((s.takeEvents f.events).enterPadMode f).leavePadMode f).switchScreen f

def run (s : MainThread) (frames : List Frame) : MainThread := frames.foldl frame s

/-! ## What a frame does to the screen -/

/-- The frame finds the thread in pad mode, or enters it. -/
def InPadMode (s : MainThread) (f : Frame) : Prop :=
  s.padMode = true ∨ SceCtrl.cross.held f.cross = true

def Leaves (s : MainThread) (f : Frame) : Prop :=
  s.InPadMode f ∧ SceCtrl.select.held f.select = true ∧ SceCtrl.start.held f.start = true

/-- START + UP in a pad mode that the frame does not leave. -/
def Toggles (s : MainThread) (f : Frame) : Prop :=
  s.InPadMode f ∧ ¬ s.Leaves f ∧
    SceCtrl.up.held f.up = true ∧ SceCtrl.start.held f.upStart = true

instance (s : MainThread) (f : Frame) : Decidable (s.Leaves f) :=
  inferInstanceAs (Decidable ((_ ∨ _) ∧ _ ∧ _))

theorem takeEvents_screen (s : MainThread) (events : UInt32) :
    (s.takeEvents events).padMode = s.padMode ∧
      (s.takeEvents events).displayOn = s.displayOn ∧
        (s.takeEvents events).kctrl = s.kctrl := by
  unfold takeEvents
  dsimp only
  split_ifs <;> exact ⟨rfl, rfl, rfl⟩

theorem enterPadMode_screen (s : MainThread) (f : Frame) :
    ((s.enterPadMode f).padMode = true ↔ s.InPadMode f) ∧
      (s.enterPadMode f).displayOn = s.displayOn ∧
        (s.enterPadMode f).kctrl = s.kctrl := by
  unfold enterPadMode InPadMode
  split_ifs with h
  · simp only [Bool.and_eq_true] at h
    exact ⟨by simp [h.1], rfl, rfl⟩
  · refine ⟨?_, rfl, rfl⟩
    simp only [Bool.and_eq_true, Bool.not_eq_true', not_and] at h
    cases hmode : s.padMode with
    | true => simp
    | false => simpa [hmode] using h

theorem frame_cases (s : MainThread) (f : Frame) :
    (s.Leaves f ∧ ¬ s.Toggles f ∧ (s.frame f).displayOn = true ∧
      (s.frame f).kctrl = kctrlScreenOn s.kctrl) ∨
    (¬ s.Leaves f ∧ s.Toggles f ∧ (s.frame f).displayOn = !s.displayOn ∧
      (s.frame f).kctrl = kctrlToggleScreen s.kctrl) ∨
    (¬ s.Leaves f ∧ ¬ s.Toggles f ∧ (s.frame f).displayOn = s.displayOn ∧
      (s.frame f).kctrl = s.kctrl) := by
  obtain ⟨hmode, hdisplay, hkctrl⟩ := takeEvents_screen s f.events
  obtain ⟨hentered, hdisplay', hkctrl'⟩ := enterPadMode_screen (s.takeEvents f.events) f
  have hin : ((s.takeEvents f.events).enterPadMode f).padMode = true ↔ s.InPadMode f := by
    rw [hentered, InPadMode, InPadMode, hmode]
  rw [hdisplay] at hdisplay'
  rw [hkctrl] at hkctrl'
  unfold frame leavePadMode
  split_ifs with hleave
  · simp only [Bool.and_eq_true, hin] at hleave
    have hleaves : s.Leaves f := ⟨hleave.2, hleave.1⟩
    refine .inl ⟨hleaves, fun htoggles => htoggles.2.1 hleaves, ?_⟩
    exact ⟨rfl, congrArg kctrlScreenOn hkctrl'⟩
  · simp only [Bool.and_eq_true, hin] at hleave
    have hstays : ¬ s.Leaves f := fun hleaves => hleave ⟨hleaves.2, hleaves.1⟩
    unfold switchScreen
    split_ifs with hpad hpressed
    · simp only [Bool.and_eq_true] at hpressed
      refine .inr (.inl ⟨hstays, ⟨hin.mp hpad, hstays, hpressed⟩, ?_⟩)
      exact ⟨congrArg Bool.not hdisplay', congrArg kctrlToggleScreen hkctrl'⟩
    · simp only [Bool.and_eq_true] at hpressed
      exact .inr (.inr ⟨hstays, fun htoggles => hpressed htoggles.2.2, hdisplay', hkctrl'⟩)
    · exact .inr (.inr ⟨hstays, fun htoggles => hpad (hin.mpr htoggles.1), hdisplay', hkctrl'⟩)

end MainThread

end VitaOxiPad.Server
