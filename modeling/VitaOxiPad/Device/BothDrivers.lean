import VitaOxiPad.Device.WindowsHat
import VitaOxiPad.Device.WindowsReport
/-!
# The two drivers side by side

A driver of each platform gets the same reports and the same changes of its configuration.
After every report the Linux devices and the report of the Windows target show the same:
the buttons that the drivers have for each other, the hat, the sticks, the sensors, the
touches and the volume keys.
-/

namespace VitaOxiPad.VirtualDevice

open SetChanges
open Client.VitaReports
open Linux (Devices Handle)
open Windows (DS4ReportEx Emulation Vigem VirtualKey touchpadPanel)

variable {ε δ : Type}

/-! ## The same requests -/

inductive SameRequest : Linux.Request ε → Windows.Request δ → Prop
  | setConfig (builder : Linux.ConfigBuilder) :
      SameRequest (.setConfig builder) (.setConfig builder)
  | sendReport (linux : Linux.Call ε) (windows : Windows.Call δ)
      (h : linux.report = windows.report) :
      SameRequest (.sendReport linux) (.sendReport windows)

section

variable {v : Vigem} {locateAtPoint : LocateAtPoint}

theorem sameConfig_step {linux : Linux.Request ε} {windows : Windows.Request δ} {s t : Devices}
    {u w : Emulation} (hsame : SameRequest linux windows)
    (h : u.driver.config = s.driver.config) (ht : s.step locateAtPoint linux = .ok t)
    (hw : u.step v locateAtPoint windows = .ok w) : w.driver.config = t.driver.config := by
  cases hsame with
  | setConfig builder =>
      cases ht
      cases hw
      exact congrArg (Linux.setConfig · builder) h
  | sendReport linux windows _ =>
      rw [Windows.config_sendReport hw, (Devices.driver_remembers ht).1, h]

theorem sameConfig_run {linux : List (Linux.Request ε)} {windows : List (Windows.Request δ)}
    {s t : Devices} {u w : Emulation} (hsame : List.Forall₂ SameRequest linux windows)
    (h : u.driver.config = s.driver.config)
    (ht : StepRun.run (Devices.step locateAtPoint) s linux = .ok t)
    (hw : StepRun.run (Emulation.step v locateAtPoint) u windows = .ok w) :
    w.driver.config = t.driver.config := by
  induction hsame generalizing s u with
  | nil =>
      cases ht
      cases hw
      exact h
  | cons hfirst _ ih =>
      obtain ⟨s', hs', ht⟩ := (StepRun.run_cons_eq_ok_iff _ _ _ _).mp ht
      obtain ⟨u', hu', hw⟩ := (StepRun.run_cons_eq_ok_iff _ _ _ _).mp hw
      exact ih (sameConfig_step hfirst h hs' hu') ht hw

end

/-! ## What is shown -/

def volumeKey : VirtualKey → Key
  | .volumeDown => .volumeDown
  | .volumeUp => .volumeUp

def volumeChange : Change VirtualKey → Change Key
  | .press key => .press (volumeKey key)
  | .release key => .release (volumeKey key)

def slotX (slot : Slot) : Option Int :=
  if slot.trackingId = -1 then none else some slot.positionX

/-- The Linux devices and a report of the Windows target show the same. -/
structure Agree (v : Vigem) (config : Config) (s : Devices) (report : DS4ReportEx) : Prop where
  buttons : ∀ button, button ≠ .psButton →
    (Linux.mapButtonToDs4 button ∈ (s.device .main).keys ↔
      report.buttons ||| Windows.mapButtonToDs4 v button = report.buttons)
  triggerL : report.triggerL =
    if Linux.mapButtonToDs4 .triggerLeft ∈ (s.device .main).keys then 255 else 0
  triggerR : report.triggerR =
    if Linux.mapButtonToDs4 .triggerRight ∈ (s.device .main).keys then 255 else 0
  psHome : report.special.psHome = true → Linux.mapButtonToDs4 .psButton ∈ (s.device .main).keys
  hat : Linux.mapButtonToDs4 .psButton ∉ (s.device .main).keys → ∃ direction,
    ((s.device .main).axes .hat0X, (s.device .main).axes .hat0Y) =
        Linux.dpadDirectionToAxisValues direction ∧
      report.buttons.hat = (Windows.mapDpadDirectionToDs4 direction).nibble
  leftStick : (s.device .main).axes .x = report.thumbLx.toNat ∧
    (s.device .main).axes .y = report.thumbLy.toNat
  rightStick : (s.device .main).axes .rx = report.thumbRx.toNat ∧
    (s.device .main).axes .ry = report.thumbRy.toNat
  accel : (s.device .sensor).axes .x = report.accelX.toInt ∧
    (s.device .sensor).axes .y = report.accelY.toInt ∧
    (s.device .sensor).axes .z = report.accelZ.toInt
  gyro : (s.device .sensor).axes .rx = report.gyroX.toInt ∧
    (s.device .sensor).axes .ry = report.gyroY.toInt ∧
    (s.device .sensor).axes .rz = report.gyroZ.toInt
  touches : ∀ panel, config.touchpadSource = some panel → touchpadPanel config = some panel →
    ∃ touch, report.touchReport = some touch ∧
      touch.first.map (fun point => (point.x.toNat : Int)) =
        slotX ((s.device .touchpad).slots 0) ∧
      touch.second.map (fun point => (point.x.toNat : Int)) =
        slotX ((s.device .touchpad).slots 1)

section

variable {v : Vigem} {locateAtPoint : LocateAtPoint} {config : Config} {report : MainReport}
  {s : Devices}

theorem key_mem_iff (h : Devices.ShowsReport locateAtPoint config report s) (button : Button) :
    Linux.mapButtonToDs4 button ∈ (s.device .main).keys ↔
      button ∈ Linux.pressedButtons locateAtPoint config report := by
  rw [h.buttons, Linux.mapButtonToDs4_injective.mem_finset_image]

/-! ### Buttons -/

/-- Every button but the PS button is a control, with its own constant. -/
theorem exists_control (v : Vigem) {button : Button} (h : button ≠ .psButton) :
    ∃ c : Control, c.windowsButton = button ∧
      Windows.mapButtonToDs4 v button = v.constant c.ds4Button := by
  cases button with
  | thumbRight => exact ⟨.r3, rfl, rfl⟩
  | thumbLeft => exact ⟨.l3, rfl, rfl⟩
  | options => exact ⟨.options, rfl, rfl⟩
  | share => exact ⟨.share, rfl, rfl⟩
  | triggerRight => exact ⟨.r2, rfl, rfl⟩
  | triggerLeft => exact ⟨.l2, rfl, rfl⟩
  | shoulderRight => exact ⟨.r1, rfl, rfl⟩
  | shoulderLeft => exact ⟨.l1, rfl, rfl⟩
  | triangle => exact ⟨.triangle, rfl, rfl⟩
  | circle => exact ⟨.circle, rfl, rfl⟩
  | cross => exact ⟨.cross, rfl, rfl⟩
  | square => exact ⟨.square, rfl, rfl⟩
  | psButton => exact absurd rfl h

theorem constant_mem_iff (v : Vigem) (locateAtPoint : LocateAtPoint) (config : Config)
    (report : MainReport) {button : Button} (h : button ≠ .psButton) :
    Windows.reportButtons v locateAtPoint config report ||| Windows.mapButtonToDs4 v button =
        Windows.reportButtons v locateAtPoint config report ↔
      button ∈ Linux.pressedButtons locateAtPoint config report := by
  obtain ⟨c, rfl, hconstant⟩ := exists_control v h
  rw [hconstant, Windows.Vigem.constant, Windows.or_twoPow_eq_iff _ (v.position_range _).2,
    ← mem_windowsControls v]
  rfl

theorem pwrTrigger_reportButtons (v : Vigem) (h : Devices.ShowsReport locateAtPoint config report s)
    (c : Control) :
    Windows.pwrTrigger (Windows.reportButtons v locateAtPoint config report)
        (v.constant c.ds4Button) =
      if Linux.mapButtonToDs4 c.windowsButton ∈ (s.device .main).keys then 255 else 0 := by
  have hbit : (Windows.reportButtons v locateAtPoint config report).getLsbD
      (v.position c.ds4Button) = true ↔
        Linux.mapButtonToDs4 c.windowsButton ∈ (s.device .main).keys := by
    rw [key_mem_iff h, ← mem_windowsControls v]
    rfl
  rw [Windows.pwrTrigger_eq]
  simp only [hbit]

theorem psButton_pressed (h : report.buttons.ps = true) :
    .psButton ∈ Linux.pressedButtons locateAtPoint config report := by
  rw [Linux.pressedButtons, Finset.mem_union, List.mem_toFinset]
  left
  exact List.mem_filterMap.mpr ⟨(report.buttons.ps, .psButton), by simp, by simp [h]⟩

/-! ### The hat -/

/-- The physical buttons do not set the hat among the actions. -/
theorem lastDpad_actions (locateAtPoint : LocateAtPoint) (config : Config) (report : MainReport) :
    ((Windows.actions locateAtPoint config report).filterMap (·.dpad?)).getLastD
        (computeDpadDirection report.buttons) =
      Linux.hatDirection locateAtPoint config report := by
  have hnone : ∀ buttons : List Button,
      (buttons.map TouchAction.button).filterMap (·.dpad?) = [] := by
    intro buttons
    rw [List.filterMap_map]
    exact List.filterMap_eq_nil_iff.mpr fun _ _ => rfl
  rw [Windows.actions, List.filterMap_append, hnone, List.nil_append, Linux.hatDirection]

theorem button_pressed_of_action {button : Button}
    (h : .button button ∈ Windows.actions locateAtPoint config report) :
    button ∈ Linux.pressedButtons locateAtPoint config report := by
  rw [Linux.pressedButtons, Finset.mem_union, List.mem_toFinset, List.mem_toFinset]
  rcases List.mem_append.mp h with hphysical | htouched
  · obtain ⟨b, hb, hbutton⟩ := List.mem_map.mp hphysical
    cases hbutton
    exact .inl hb
  · exact .inr (List.mem_filterMap.mpr ⟨_, htouched, rfl⟩)

/-- Nothing reaches into the hat if the PS button is not pressed. -/
theorem hat_reportButtons (v : Vigem)
    (h : .psButton ∉ Linux.pressedButtons locateAtPoint config report) :
    (Windows.reportButtons v locateAtPoint config report).hat =
      (Windows.mapDpadDirectionToDs4 (Linux.hatDirection locateAtPoint config report)).nibble := by
  have hnone : .button .psButton ∉
      Windows.afterLastDpad (Windows.actions locateAtPoint config report) := by
    intro hmem
    exact h (button_pressed_of_action ((List.rtakeWhile_suffix _ _).subset hmem))
  have hfold := Windows.hat_foldl_act v
    (Windows.hat_dpad v.new (Windows.mapDpadDirectionToDs4 (computeDpadDirection report.buttons)))
    (Windows.actions locateAtPoint config report)
  rw [if_neg hnone, lastDpad_actions] at hfold
  rw [Windows.reportButtons_eq]
  exact hfold.trans BitVec.or_zero

/-! ### The touches -/

def rectOf : TouchpadSource → Point × Point
  | .front => frontTouchpadRect
  | .rear => rearTouchpadRect

theorem createTouchpadReport_of_panel {panel : TouchpadSource}
    (h : touchpadPanel config = some panel) (report : MainReport) :
    Windows.createTouchpadReport config report =
      some (Windows.touchReport (rectOf panel) (Linux.panelTouches panel report)) := by
  unfold touchpadPanel at h
  unfold Windows.createTouchpadReport
  split_ifs at h with hfront hrear
  · cases h
    rw [hfront]
    rfl
  · cases h
    split
    · rename_i htouchpad
      exact absurd htouchpad hfront
    · rw [hrear]
      rfl

theorem point_eq_slotX {maxSlots : Nat} {touchpad : Linux.Touchpad maxSlots}
    {touchReports : List TouchReport} (h : Linux.Shows touchpad touchReports)
    (rect : Point × Point) {i : Nat} (hi : i < maxSlots) :
    (touchReports.map (Windows.touchPoint rect))[i]?.map (fun point => (point.x.toNat : Int)) =
      slotX (touchpad.device.slots i) := by
  rw [List.getElem?_map, Option.map_map]
  cases htouch : touchReports[i]? with
  | none =>
      have hended := h.ended i (List.getElem?_eq_none_iff.mp htouch) hi
      rw [slotX, if_pos hended]
      rfl
  | some touch =>
      have hused : ¬ (touch.id.toNat : Int) = -1 := by omega
      rw [h.held i touch htouch hi, slotX, Linux.slotOf, if_neg hused]
      rfl

theorem touches_agree (h : Devices.ShowsReport locateAtPoint config report s)
    {panel : TouchpadSource} (hsource : config.touchpadSource = some panel) :
    let touch := Windows.touchReport (rectOf panel) (Linux.panelTouches panel report)
    touch.first.map (fun point => (point.x.toNat : Int)) =
        slotX ((s.device .touchpad).slots 0) ∧
      touch.second.map (fun point => (point.x.toNat : Int)) =
        slotX ((s.device .touchpad).slots 1) := by
  have hshows := h.touchpad panel hsource
  have hdevice : (Linux.touchpadOf panel (s.driver, s.device .touchpad)).device =
      s.device .touchpad := by cases panel <;> rfl
  have hslots : 1 < Linux.slotCount panel := by cases panel <;> decide
  constructor
  · rw [← hdevice]
    exact point_eq_slotX hshows (rectOf panel) (i := 0) (by omega)
  · rw [← hdevice]
    exact point_eq_slotX hshows (rectOf panel) (i := 1) hslots

/-! ### The whole report -/

theorem sticks_mem (report : MainReport) :
    .absolute .x report.lx.toNat ∈ Linux.createStickEvents report ∧
      .absolute .y report.ly.toNat ∈ Linux.createStickEvents report ∧
      .absolute .rx report.rx.toNat ∈ Linux.createStickEvents report ∧
      .absolute .ry report.ry.toNat ∈ Linux.createStickEvents report := by
  simp [Linux.createStickEvents]

theorem agree_buildReport (v : Vigem) (h : Devices.ShowsReport locateAtPoint config report s)
    (special : Windows.DS4SpecialButtons) (hhome : special.psHome = report.buttons.ps) :
    Agree v config s (Windows.buildReport v config report
      ⟨Windows.reportButtons v locateAtPoint config report, special⟩) where
  buttons button hbutton := by
    rw [key_mem_iff h]
    exact (constant_mem_iff v locateAtPoint config report hbutton).symm
  triggerL := pwrTrigger_reportButtons v h .l2
  triggerR := pwrTrigger_reportButtons v h .r2
  psHome hps := by
    rw [key_mem_iff h]
    exact psButton_pressed (hhome.symm.trans hps)
  hat hps := by
    rw [key_mem_iff h] at hps
    exact ⟨_, h.hat, hat_reportButtons v hps⟩
  leftStick := by
    obtain ⟨hx, hy, -, -⟩ := sticks_mem report
    exact ⟨h.sticks _ _ hx, h.sticks _ _ hy⟩
  rightStick := by
    obtain ⟨-, -, hx, hy⟩ := sticks_mem report
    exact ⟨h.sticks _ _ hx, h.sticks _ _ hy⟩
  accel := by
    refine ⟨h.motion _ _ ?_, h.motion _ _ ?_, h.motion _ _ ?_⟩ <;>
      simp [Linux.createMotionEvents, Windows.buildReport]
  gyro := by
    refine ⟨h.motion _ _ ?_, h.motion _ _ ?_, h.motion _ _ ?_⟩ <;>
      simp [Linux.createMotionEvents, Windows.buildReport]
  touches panel hsource hpanel :=
    ⟨_, createTouchpadReport_of_panel hpanel report, touches_agree h hsource⟩

end

/-! ## Runs -/

/-- What the readers of the keyboard handle are shown by a call. -/
def Linux.Devices.keyboardChanges (locateAtPoint : LocateAtPoint) (s : Devices)
    (call : Linux.Call ε) : List (Change Key) :=
  keyChanges ((Linux.onHandle .keyboard
    (Linux.sendReport locateAtPoint s.driver call).written).filter
      (Handle.setup s.driver.config.touchpadSource .keyboard).passes)

/-- Where `SendInput` puts in both events of a key, the keyboards show the same. -/
theorem keyboardChanges_eq {locateAtPoint : LocateAtPoint} {s t : Devices} {call : Linux.Call ε}
    (h : s.step locateAtPoint (.sendReport call) = .ok t) {windowsCall : Windows.Call δ}
    (hreport : call.report = windowsCall.report) (hup : 2 ≤ windowsCall.volumeUp)
    (hdown : 2 ≤ windowsCall.volumeDown) :
    s.keyboardChanges locateAtPoint call = windowsCall.keyboard.map volumeChange := by
  obtain ⟨hresult, -⟩ := Devices.sendReport_eq_ok h
  have hwhole : ∀ (key : VirtualKey) {inserted : Nat}, 2 ≤ inserted →
      (tap key).take inserted = tap key := fun _ _ hinserted => List.take_of_length_le hinserted
  rw [Devices.keyboardChanges, (Linux.sendReport_ok hresult).2, Linux.onHandle_keyboard_writes,
    Handle.setup, Linux.keyChanges_passed, Linux.keyboard_passes, Linux.volumeChanges,
    Windows.Call.keyboard, hwhole _ hup, hwhole _ hdown, List.map_append, hreport]
  congr 1
  · split_ifs <;> rfl
  · split_ifs <;> rfl

/-- Whatever both drivers have been asked before, when both have sent one more report the
Linux devices and the report of the Windows target show the same, and the keyboards on
both sides have been given the same volume keys if `SendInput` has put in all events. -/
theorem drivers_agree (v : Vigem) (locateAtPoint : LocateAtPoint) (config : Config)
    (linux : List (Linux.Request ε)) (windows : List (Windows.Request δ))
    (hsame : List.Forall₂ SameRequest linux windows) (linuxCall : Linux.Call ε)
    (windowsCall : Windows.Call δ) (hreport : linuxCall.report = windowsCall.report)
    (s t : Devices) (u w : Emulation)
    (hs : Devices.run locateAtPoint config linux = .ok s)
    (ht : s.step locateAtPoint (.sendReport linuxCall) = .ok t)
    (hu : Emulation.run v locateAtPoint config windows = .ok u)
    (hw : u.step v locateAtPoint (.sendReport windowsCall) = .ok w) :
    (∃ report, w.target = some report ∧
        Agree v (Devices.configInForce config linux) t report) ∧
      ∃ changes, w.keyboard = u.keyboard ++ changes ∧
        (2 ≤ windowsCall.volumeUp → 2 ≤ windowsCall.volumeDown →
          s.keyboardChanges locateAtPoint linuxCall = changes.map volumeChange) := by
  obtain ⟨hconsistent, hconfig⟩ := Devices.run_consistent hs
  have hboth : u.driver.config = s.driver.config := sameConfig_run hsame rfl hs hu
  obtain ⟨-, hkeyboard, htarget⟩ := Windows.sendReport_eq_ok hw
  have hshows := (hconsistent.sendReport ht).2
  rw [hboth] at htarget
  rw [← hreport] at htarget
  rw [← hconfig]
  refine ⟨⟨_, htarget, ?_⟩, _, hkeyboard, keyboardChanges_eq ht hreport⟩
  have hbuttons : (u.driver.sendReport v locateAtPoint windowsCall.now linuxCall.report).1.buttons =
      Windows.reportButtons v locateAtPoint s.driver.config linuxCall.report := by
    rw [← hboth]
    rfl
  have hagree := agree_buildReport v hshows
    (u.driver.sendReport v locateAtPoint windowsCall.now linuxCall.report).1.special rfl
  rw [← hbuttons] at hagree
  exact hagree

def builtCall (report : MainReport) : Windows.Call Unit := ⟨report, 0, 2, 2, .ok ()⟩

theorem step_builtCall (v : Vigem) (locateAtPoint : LocateAtPoint) (s : Emulation)
    (report : MainReport) :
    ∃ t, s.step v locateAtPoint (.sendReport (builtCall report)) = .ok t := by
  have hkey : ∀ (isDown : Bool) (key : VirtualKey), ∃ changes,
      (Windows.changeVolumeByKey isDown 2 key : Except (Windows.Stop Unit) _) = .ok changes := by
    intro isDown key
    cases isDown with
    | true => exact ⟨tap key, rfl⟩
    | false => exact ⟨[], rfl⟩
  obtain ⟨up, hup⟩ := hkey report.buttons.volUp .volumeUp
  obtain ⟨down, hdown⟩ := hkey report.buttons.volDown .volumeDown
  simp only [Emulation.step, Emulation.sendReport, builtCall, hup, hdown]
  exact ⟨_, rfl⟩

def switchedBuilt : List (Windows.Request Unit) :=
  [.sendReport (builtCall Linux.crossReport), .setConfig Devices.triggersAsShoulders]

theorem drivers_agree_of_switched :
    ∃ s t u w, Devices.run Linux.firstZone .frontTopRl2BottomRl3RearTouchpad Devices.switched =
        .ok s ∧
      s.step Linux.firstZone (.sendReport (Linux.sentCall Linux.rearReport)) = .ok t ∧
      Emulation.run .descending Linux.firstZone .frontTopRl2BottomRl3RearTouchpad switchedBuilt =
        .ok u ∧
      u.step .descending Linux.firstZone (.sendReport (builtCall Linux.rearReport)) = .ok w ∧
      (∃ report, w.target = some report ∧ Agree .descending
        (Devices.configInForce .frontTopRl2BottomRl3RearTouchpad Devices.switched) t report) ∧
      ∃ changes, w.keyboard = u.keyboard ++ changes ∧
        s.keyboardChanges Linux.firstZone (Linux.sentCall Linux.rearReport) =
          changes.map volumeChange := by
  obtain ⟨s, hs⟩ := Devices.run_switched
  obtain ⟨t, ht⟩ := Devices.step_sentCall s Linux.rearReport
  obtain ⟨r, hr⟩ := step_builtCall .descending Linux.firstZone
    (.new .frontTopRl2BottomRl3RearTouchpad) Linux.crossReport
  obtain ⟨u, hu⟩ : ∃ u, r.step (ε := Unit) .descending Linux.firstZone
      (.setConfig Devices.triggersAsShoulders) = .ok u := ⟨_, rfl⟩
  obtain ⟨w, hw⟩ := step_builtCall .descending Linux.firstZone u Linux.rearReport
  have hrun : Emulation.run .descending Linux.firstZone .frontTopRl2BottomRl3RearTouchpad
      switchedBuilt = .ok u := by
    rw [Emulation.run, switchedBuilt, StepRun.run_cons_of_ok hr, StepRun.run_cons_of_ok hu]
    rfl
  have hsame : List.Forall₂ SameRequest Devices.switched switchedBuilt :=
    .cons (.sendReport _ _ rfl) (.cons (.setConfig _) .nil)
  obtain ⟨hagree, changes, hkeyboard, hsent⟩ := drivers_agree .descending Linux.firstZone
    .frontTopRl2BottomRl3RearTouchpad Devices.switched switchedBuilt hsame _ _ rfl s t u w hs ht
      hrun hw
  exact ⟨s, t, u, w, hs, ht, hrun, hw, hagree, changes, hkeyboard, hsent le_rfl le_rfl⟩

end VitaOxiPad.VirtualDevice
