import VitaOxiPad.Lib.Latch
import VitaOxiPad.Server.MainThread
/-!
# The main thread's event flag

The network thread and the status thread raise bits of one event flag, which the
main loop polls once in every frame.  What has been raised between two polls is a
window.  Of a connection that comes and goes within one window the main loop sees
only that it has come.
-/

namespace VitaOxiPad.Server

inductive StatusEvent where
  | batteryLevel
  | statusCharger
  | wifiSignal
  deriving DecidableEq, Repr

def StatusEvent.mask : StatusEvent → UInt32
  | batteryLevel => 0x100
  | statusCharger => 0x200
  | wifiSignal => 0x400

/-- What either thread gives to `sceKernelSetEventFlag`. -/
inductive Raised where
  | net (event : MainEvent)
  | status (event : StatusEvent)
  deriving DecidableEq, Repr

namespace Raised

def mask : Raised → UInt32
  | net event => event.mask
  | status event => event.mask

def pc? : Raised → Option Bool
  | net .pcConnect => some true
  | net .pcDisconnect => some false
  | _ => none

def net? : Raised → Option Bool
  | net .netConnect => some true
  | net .netDisconnect => some false
  | _ => none

end Raised

/-- `sceKernelPollEventFlag` with `SCE_EVENT_WAITOR | SCE_EVENT_WAITCLEAR`: the bits
it returns and the flag after it, unless none of the bits is set. -/
def pollEventFlag (flag pattern : UInt32) : Option (UInt32 × UInt32) :=
  if flag &&& pattern = 0 then none else some (flag &&& pattern, flag &&& ~~~pattern)

structure MainLoop where
  evFlag : UInt32
  /-- The variable that a poll that fails leaves as it is. -/
  events : UInt32
  main : MainThread
  deriving DecidableEq, Repr

/-- What is raised between two polls, and the frame that the second one begins.  The
events of the frame are those that it polls. -/
structure Window where
  raised : List Raised
  frame : Frame
  deriving DecidableEq, Repr

namespace MainLoop

def initial (connectedToNetwork : Bool) (kctrl : Kctrl) : MainLoop where
  evFlag := 0
  events := 0
  main := .initial connectedToNetwork kctrl

def raise (s : MainLoop) (raised : List Raised) : MainLoop :=
  { s with evFlag := Latch.raise Raised.mask s.evFlag raised }

def pollFrame (s : MainLoop) (frame : Frame) : MainLoop :=
  let (events, evFlag) := (pollEventFlag s.evFlag 0xFFFFFFFF).getD (s.events, s.evFlag)
  { evFlag := evFlag
    events := events
    main := s.main.frame { frame with events := events } }

def window (s : MainLoop) (w : Window) : MainLoop := (s.raise w.raised).pollFrame w.frame

def run (s : MainLoop) (windows : List Window) : MainLoop := windows.foldl window s

end MainLoop

/-! ## What the main loop makes of a window -/

theorem Raised.mask_and (a b : Raised) : b.mask &&& a.mask ≠ 0 ↔ b = a := by
  rcases a with (_ | _ | _ | _) | (_ | _ | _) <;> rcases b with (_ | _ | _ | _) | (_ | _ | _) <;>
    decide

theorem Raised.mask_ne_zero (a : Raised) : a.mask ≠ 0 := by
  rcases a with (_ | _ | _ | _) | (_ | _ | _) <;> decide

def notes (kind : Raised → Option Bool) (w : Window) : List Bool := w.raised.filterMap kind

theorem frame_connections (s : MainThread) (f : Frame) :
    (s.frame f).pcConnectState = (s.takeEvents f.events).pcConnectState ∧
      (s.frame f).connectedToNetwork = (s.takeEvents f.events).connectedToNetwork := by
  unfold MainThread.frame MainThread.switchScreen MainThread.leavePadMode MainThread.enterPadMode
  split_ifs <;> exact ⟨rfl, rfl⟩

theorem takeEvents_connections (s : MainThread) (events : UInt32) :
    (s.takeEvents events).pcConnectState =
        (if MainThread.raised events .pcConnect then true
          else if MainThread.raised events .pcDisconnect then false else s.pcConnectState) ∧
      (s.takeEvents events).connectedToNetwork =
        (if MainThread.raised events .netConnect then true
          else if MainThread.raised events .netDisconnect then false
          else s.connectedToNetwork) := by
  unfold MainThread.takeEvents
  dsimp only
  split_ifs <;> exact ⟨rfl, rfl⟩

/-! ## A window -/

theorem mem_notes {kind : Raised → Option Bool} {value : Bool} {a : Raised}
    (h : ∀ b, kind b = some value ↔ b = a) (w : Window) :
    value ∈ notes kind w ↔ a ∈ w.raised := by
  simp only [notes, List.mem_filterMap, h, exists_eq_right]

theorem raised_iff_mem (raised : List Raised) (event : MainEvent) :
    MainThread.raised (Latch.raise Raised.mask 0 raised) event = true ↔ .net event ∈ raised := by
  have hbit := Latch.raised_iff Raised.mask_and 0 raised (.net event)
  have hzero : ¬ (0 : UInt32) &&& (Raised.net event).mask ≠ 0 := by simp
  simp only [hzero, false_or] at hbit
  rw [← hbit, MainThread.raised, bne_iff_ne]
  rfl

/-- What the reader makes of the bits is what the main loop does with them. -/
theorem read_notes {kind : Raised → Option Bool} {rise fall : MainEvent}
    (hrise : ∀ b, kind b = some true ↔ b = .net rise)
    (hfall : ∀ b, kind b = some false ↔ b = .net fall) (w : Window) (value : Bool) :
    Latch.read value (notes kind w) =
      if MainThread.raised (Latch.raise Raised.mask 0 w.raised) rise then true
      else if MainThread.raised (Latch.raise Raised.mask 0 w.raised) fall then false
      else value := by
  simp only [Latch.read, mem_notes hrise, mem_notes hfall, raised_iff_mem]

theorem Raised.pc?_eq_true (a : Raised) : a.pc? = some true ↔ a = .net .pcConnect := by
  rcases a with (_ | _ | _ | _) | _ <;> simp [pc?]

theorem Raised.pc?_eq_false (a : Raised) : a.pc? = some false ↔ a = .net .pcDisconnect := by
  rcases a with (_ | _ | _ | _) | _ <;> simp [pc?]

theorem Raised.net?_eq_true (a : Raised) : a.net? = some true ↔ a = .net .netConnect := by
  rcases a with (_ | _ | _ | _) | _ <;> simp [net?]

theorem Raised.net?_eq_false (a : Raised) : a.net? = some false ↔ a = .net .netDisconnect := by
  rcases a with (_ | _ | _ | _) | _ <;> simp [net?]

theorem pollEventFlag_zero : pollEventFlag 0 0xFFFFFFFF = none := by decide

theorem pollEventFlag_ne_zero {flag : UInt32} (h : flag ≠ 0) :
    pollEventFlag flag 0xFFFFFFFF = some (flag, 0) := by
  have hall : flag &&& 0xFFFFFFFF = flag := UInt32.and_neg_one
  have hnone : flag &&& ~~~0xFFFFFFFF = 0 := UInt32.and_zero
  rw [pollEventFlag, hall, hnone, if_neg h]

namespace MainLoop

/-- Between two windows: everything has been polled, and taking the events of the
last frame again changes nothing. -/
structure Settled (s : MainLoop) : Prop where
  polled : s.evFlag = 0
  pc : (s.main.takeEvents s.events).pcConnectState = s.main.pcConnectState
  net : (s.main.takeEvents s.events).connectedToNetwork = s.main.connectedToNetwork

theorem settled_initial (connectedToNetwork : Bool) (kctrl : Kctrl) :
    Settled (initial connectedToNetwork kctrl) := by
  obtain ⟨hpc, hnet⟩ := takeEvents_connections (initial connectedToNetwork kctrl).main 0
  exact ⟨rfl, hpc.trans rfl, hnet.trans rfl⟩

def framed (s : MainLoop) (frame : Frame) (events : UInt32) : MainLoop where
  evFlag := 0
  events := events
  main := s.main.frame { frame with events := events }

theorem settled_framed (s : MainLoop) (frame : Frame) (events : UInt32) :
    Settled (s.framed frame events) := by
  obtain ⟨hpc, hnet⟩ := frame_connections s.main { frame with events := events }
  have htwice := takeEvents_connections (s.framed frame events).main events
  have honce := takeEvents_connections s.main events
  refine ⟨rfl, ?_, ?_⟩
  · refine htwice.1.trans ?_
    rw [framed, hpc, honce.1]
    split_ifs <;> rfl
  · refine htwice.2.trans ?_
    rw [framed, hnet, honce.2]
    split_ifs <;> rfl

/-- A poll that finds no bit takes the events of the frame before once more. -/
theorem window_eq {s : MainLoop} (h : Settled s) (w : Window) :
    s.window w = s.framed w.frame
      (if w.raised = [] then s.events else Latch.raise Raised.mask 0 w.raised) := by
  rw [window, raise, h.polled, pollFrame]
  by_cases hraised : w.raised = []
  · have hzero : Latch.raise Raised.mask 0 w.raised = 0 := by rw [hraised]; rfl
    rw [hzero, pollEventFlag_zero, if_pos hraised]
    rfl
  · have hne : Latch.raise Raised.mask 0 w.raised ≠ 0 :=
      mt (Latch.raise_eq_zero_iff Raised.mask_ne_zero w.raised).mp hraised
    rw [pollEventFlag_ne_zero hne, if_neg hraised]
    rfl

theorem window_connections {s : MainLoop} (h : Settled s) (w : Window) :
    (s.window w).main.pcConnectState =
        Latch.read s.main.pcConnectState (notes Raised.pc? w) ∧
      (s.window w).main.connectedToNetwork =
        Latch.read s.main.connectedToNetwork (notes Raised.net? w) := by
  rw [window_eq h, framed]
  split_ifs with hraised
  · obtain ⟨hpc, hnet⟩ := frame_connections s.main { w.frame with events := s.events }
    rw [hpc, hnet, h.pc, h.net, notes, notes, hraised]
    exact ⟨rfl, rfl⟩
  · obtain ⟨hpc, hnet⟩ := frame_connections s.main
      { w.frame with events := Latch.raise Raised.mask 0 w.raised }
    rw [hpc, hnet, read_notes Raised.pc?_eq_true Raised.pc?_eq_false,
      read_notes Raised.net?_eq_true Raised.net?_eq_false]
    exact takeEvents_connections s.main _

theorem run_connections {s : MainLoop} (h : Settled s) (windows : List Window) :
    (s.run windows).main.pcConnectState =
        (windows.map (notes Raised.pc?)).foldl Latch.read s.main.pcConnectState ∧
      (s.run windows).main.connectedToNetwork =
        (windows.map (notes Raised.net?)).foldl Latch.read s.main.connectedToNetwork := by
  induction windows generalizing s with
  | nil => exact ⟨rfl, rfl⟩
  | cons w windows ih =>
      obtain ⟨hpc, hnet⟩ := window_connections h w
      have hsettled : Settled (s.window w) := by
        rw [window_eq h]
        exact settled_framed s w.frame _
      obtain ⟨hpcs, hnets⟩ := ih hsettled
      rw [hpc] at hpcs
      rw [hnet] at hnets
      exact ⟨hpcs, hnets⟩

/-! ## The whole run -/

/-- After the poll that follows the last notification, the two variables are as the
last PC notification and, if there has been one, the last network notification say. -/
def FollowsLast (s : MainLoop) (windows : List Window) : Prop :=
  let pc := windows.flatMap (notes Raised.pc?)
  let net := windows.flatMap (notes Raised.net?)
  (s.main.pcConnectState = true ↔ pc.getLast? = some true) ∧
    (net ≠ [] → (s.main.connectedToNetwork = true ↔ net.getLast? = some true))

/-- In the last window with a notification of the kind, the thing that is gone at
its end has not come in it. -/
def LastWindowClear (kind : Raised → Option Bool) (windows : List Window) : Prop :=
  ∀ window, Latch.lastWindow (windows.map (notes kind)) = some window → ¬ Latch.Blurred window

theorem latest_eq_true_iff {value : Bool} {window : List Bool}
    (h : value = false ∨ window ≠ []) :
    Latch.latest value window = true ↔ window.getLast? = some true := by
  rw [Latch.latest, List.getLastD_eq_getLast?]
  cases hlast : window.getLast? with
  | none =>
      have hempty : window = [] := List.getLast?_eq_none_iff.mp hlast
      have hvalue : value = false := h.resolve_right (not_not_intro hempty)
      simp [hvalue]
  | some last => simp

theorem read_windows_iff {kind : Raised → Option Bool} {value : Bool} {windows : List Window}
    (h : value = false ∨ windows.flatMap (notes kind) ≠ []) :
    ((windows.map (notes kind)).foldl Latch.read value = true ↔
        (windows.flatMap (notes kind)).getLast? = some true) ↔ LastWindowClear kind windows := by
  rw [← latest_eq_true_iff h, ← Bool.eq_iff_iff, List.flatMap_def]
  exact Latch.foldl_read_eq_latest_iff value (windows.map (notes kind))

theorem lastWindowClear_of_silent {kind : Raised → Option Bool} {windows : List Window}
    (h : windows.flatMap (notes kind) = []) : LastWindowClear kind windows := by
  intro window hwindow
  rw [Latch.lastWindow, List.getLast?_eq_some_iff] at hwindow
  obtain ⟨before, hbefore⟩ := hwindow
  have hmem : window ∈ (windows.map (notes kind)).filter fun window => !window.isEmpty := by
    rw [hbefore]
    exact List.mem_append_right before (List.mem_singleton.mpr rfl)
  obtain ⟨hwindows, hne⟩ := List.mem_filter.mp hmem
  obtain ⟨w, hw, rfl⟩ := List.mem_map.mp hwindows
  rw [List.flatMap_eq_nil_iff.mp h w hw] at hne
  cases hne

/-- The main loop follows the last notifications exactly when no window hides the
last one of either kind. -/
theorem follows_last_iff (connectedToNetwork : Bool) (kctrl : Kctrl) (windows : List Window) :
    ((initial connectedToNetwork kctrl).run windows).FollowsLast windows ↔
      LastWindowClear Raised.pc? windows ∧ LastWindowClear Raised.net? windows := by
  obtain ⟨hpc, hnet⟩ := run_connections (settled_initial connectedToNetwork kctrl) windows
  rw [FollowsLast, hpc, hnet]
  apply and_congr
  · exact read_windows_iff (.inl rfl)
  · by_cases hsilent : windows.flatMap (notes Raised.net?) = []
    · exact iff_of_true (absurd hsilent) (lastWindowClear_of_silent hsilent)
    · rw [forall_prop_of_true hsilent]
      exact read_windows_iff (.inr hsilent)

/-- A client that comes and goes between two polls stays connected for the main loop. -/
theorem not_follows_last_of_short_visit :
    ¬ ((initial true (moduleStart true false ⟨true, 50⟩)).run
      [⟨[.net .pcConnect, .net .pcConnect, .net .pcDisconnect], .holding []⟩]).FollowsLast
        [⟨[.net .pcConnect, .net .pcConnect, .net .pcDisconnect], .holding []⟩] := by
  intro h
  exact absurd (h.1.mp (by decide)) (by decide)

end MainLoop

end VitaOxiPad.Server
