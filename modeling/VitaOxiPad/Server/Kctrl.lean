import Mathlib.Tactic.SplitIfs
/-!
# The kernel module's screen control

`server/module/src/main.c`: the screen system calls, and `g_screen_off`, which
only the toggle reads and writes.
-/

namespace VitaOxiPad.Server

structure Panel where
  on : Bool
  brightness : Int32
  deriving DecidableEq, Repr

/-- `ksceOledDisplayOn`, `ksceLcdDisplayOn`. -/
def Panel.displayOn (panel : Panel) : Panel := { panel with on := true }

/-- `ksceOledDisplayOff`, `ksceLcdDisplayOff`. -/
def Panel.displayOff (panel : Panel) : Panel := { panel with on := false }

/-- `ksceOledSetBrightness`, `ksceLcdSetBrightness`. -/
def Panel.setBrightness (panel : Panel) (brightness : Int32) : Panel :=
  { panel with brightness := brightness }

structure Kctrl where
  isOled : Bool
  isLcd : Bool
  screenOff : Int32
  prevBrightness : Int32
  panel : Panel
  deriving DecidableEq, Repr

/-- `module_start`, with the results of its two module searches. -/
def moduleStart (sceLcd sceOled : Bool) (panel : Panel) : Kctrl where
  isOled := !sceLcd && sceOled
  isLcd := sceLcd
  screenOff := 0
  prevBrightness := if sceLcd || sceOled then panel.brightness else 0
  panel := panel

def kctrlScreenOn (k : Kctrl) : Kctrl :=
  if k.isOled then
    { k with panel := k.panel.displayOn.setBrightness k.prevBrightness }
  else if k.isLcd then
    { k with panel := k.panel.displayOn.setBrightness k.prevBrightness }
  else k

def kctrlScreenOff (k : Kctrl) : Kctrl :=
  if k.isOled then { k with panel := k.panel.displayOff }
  else if k.isLcd then { k with panel := k.panel.displayOff }
  else k

def kctrlToggleScreen (k : Kctrl) : Kctrl :=
  if k.screenOff ≠ 0 then { kctrlScreenOn k with screenOff := 0 }
  else { kctrlScreenOff k with screenOff := 1 }

namespace Kctrl

def HasPanel (k : Kctrl) : Prop := k.isOled = true ∨ k.isLcd = true

theorem screenOn_on {k : Kctrl} (h : k.HasPanel) : (kctrlScreenOn k).panel.on = true := by
  unfold kctrlScreenOn
  split_ifs with holed hlcd
  · rfl
  · rfl
  · exact absurd h (by simp [HasPanel, holed, hlcd])

theorem screenOff_on {k : Kctrl} (h : k.HasPanel) : (kctrlScreenOff k).panel.on = false := by
  unfold kctrlScreenOff
  split_ifs with holed hlcd
  · rfl
  · rfl
  · exact absurd h (by simp [HasPanel, holed, hlcd])

theorem screenOn_screenOff (k : Kctrl) : (kctrlScreenOn k).screenOff = k.screenOff := by
  unfold kctrlScreenOn
  split_ifs <;> rfl

theorem HasPanel.screenOn {k : Kctrl} (h : k.HasPanel) : (kctrlScreenOn k).HasPanel := by
  unfold kctrlScreenOn
  split_ifs <;> exact h

theorem HasPanel.screenOff {k : Kctrl} (h : k.HasPanel) : (kctrlScreenOff k).HasPanel := by
  unfold kctrlScreenOff
  split_ifs <;> exact h

theorem HasPanel.toggleScreen {k : Kctrl} (h : k.HasPanel) :
    (kctrlToggleScreen k).HasPanel := by
  unfold kctrlToggleScreen
  split_ifs
  · exact h.screenOn
  · exact h.screenOff

/-- The toggle goes by `g_screen_off`, not by the panel. -/
theorem toggleScreen_on {k : Kctrl} (h : k.HasPanel) :
    (kctrlToggleScreen k).panel.on = decide (k.screenOff ≠ 0) := by
  unfold kctrlToggleScreen
  split_ifs with hoff
  · rw [decide_eq_true hoff]
    exact screenOn_on h
  · rw [decide_eq_false hoff]
    exact screenOff_on h

theorem toggleScreen_screenOff (k : Kctrl) :
    (kctrlToggleScreen k).screenOff = if k.screenOff ≠ 0 then 0 else 1 := by
  unfold kctrlToggleScreen
  split_ifs <;> rfl

end Kctrl

end VitaOxiPad.Server
