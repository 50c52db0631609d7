import VitaOxiPad.Device.MainDevice
import VitaOxiPad.Device.Windows
/-!
# One controller on two platforms

Which DualShock 4 controls the two drivers press for a report.  They agree on
all but the triggers and shoulders, which the Linux driver's key table exchanges.
-/

namespace VitaOxiPad.VirtualDevice

open Client.VitaReports

/-- The controls of a DualShock 4 but for the hat, the sticks and the PS button. -/
inductive Control where
  | l1
  | r1
  | l2
  | r2
  | l3
  | r3
  | options
  | share
  | triangle
  | circle
  | cross
  | square
  deriving DecidableEq, Repr

namespace Control

def key : Control → Key
  | l1 => .buttonTL
  | r1 => .buttonTR
  | l2 => .buttonTL2
  | r2 => .buttonTR2
  | l3 => .buttonThumbl
  | r3 => .buttonThumbr
  | options => .buttonStart
  | share => .buttonSelect
  | triangle => .buttonNorth
  | circle => .buttonEast
  | cross => .buttonSouth
  | square => .buttonWest

def ds4Button : Control → Windows.DS4Button
  | l1 => .shoulderLeft
  | r1 => .shoulderRight
  | l2 => .triggerLeft
  | r2 => .triggerRight
  | l3 => .thumbLeft
  | r3 => .thumbRight
  | options => .options
  | share => .share
  | triangle => .triangle
  | circle => .circle
  | cross => .cross
  | square => .square

end Control

def linuxControls (device : Evdev) : Set Control := {c | c.key ∈ device.keys}

def windowsControls (v : Windows.Vigem) (buttons : Windows.DS4Buttons) : Set Control :=
  {c | buttons.getLsbD (v.position c.ds4Button) = true}

/-! ## The Windows report -/

namespace Windows

variable (v : Vigem) (locateAtPoint : LocateAtPoint)

/-- The two drivers go through the same touch actions. -/
theorem processTouchReports_eq (touchReports : List TouchReport)
    (touchConfig : Option TouchConfig) (buttons : DS4Buttons) :
    processTouchReports v locateAtPoint touchReports touchConfig buttons =
      (Linux.processTouchReports locateAtPoint touchReports touchConfig).foldl (act v)
        buttons := by
  rcases touchConfig with _ | zones | _
  · rfl
  · simp only [processTouchReports, Linux.processTouchReports]
    induction touchReports generalizing buttons with
    | nil => rfl
    | cons touch touchReports ih =>
        rw [List.foldl_cons, ih, List.filterMap_cons]
        cases locateAtPoint zones (.of touch) with
        | none => rfl
        | some zone => cases hzone : zone.action <;> simp [hzone]
  · rfl

theorem reportButtons_eq (config : Config) (report : MainReport) :
    reportButtons v locateAtPoint config report =
      ((getPressedButtons report.buttons config.triggerConfig).map TouchAction.button ++
        Linux.touchActions locateAtPoint config report).foldl (act v)
          (v.new.dpad (mapDpadDirectionToDs4 (computeDpadDirection report.buttons))) := by
  simp only [reportButtons, processTouchReports_eq, Linux.touchActions, List.foldl_append,
    List.foldl_map, act]

/-- The hat does not reach the bits of the buttons. -/
theorem getLsbD_dpad {i : Nat} (hi : 4 ≤ i ∧ i < 16) (buttons : DS4Buttons)
    (direction : VigemDpadDirection) :
    (buttons.dpad direction).getLsbD i = buttons.getLsbD i := by
  have hmask : ∀ i : Fin 16, 4 ≤ i.val → (0xfff0 : DS4Buttons).getLsbD i = true := by decide
  have hnibble : ∀ i : Fin 16, 4 ≤ i.val → direction.nibble.getLsbD i = false := by
    cases direction <;> decide
  have hmask := hmask ⟨i, hi.2⟩ hi.1
  have hnibble := hnibble ⟨i, hi.2⟩ hi.1
  simp only at hmask hnibble
  rw [DS4Buttons.dpad, BitVec.getLsbD_or, BitVec.getLsbD_and, hmask, hnibble, Bool.and_true,
    Bool.or_false]

theorem getLsbD_foldl_act {i : Nat} (hi : 4 ≤ i ∧ i < 16) (actions : List TouchAction)
    (buttons : DS4Buttons) :
    (actions.foldl (act v) buttons).getLsbD i = true ↔
      buttons.getLsbD i = true ∨
        ∃ button ∈ actions.filterMap (·.button?), (mapButtonToDs4 v button).getLsbD i = true := by
  induction actions generalizing buttons with
  | nil => simp
  | cons action actions ih =>
      rw [List.foldl_cons, ih]
      cases action with
      | button button =>
          have hbuttons : (TouchAction.button button :: actions).filterMap (·.button?) =
              button :: actions.filterMap (·.button?) := rfl
          rw [hbuttons]
          simp only [act, BitVec.getLsbD_or, Bool.or_eq_true, List.exists_mem_cons_iff, or_assoc]
      | dpad direction =>
          have hbuttons : (TouchAction.dpad direction :: actions).filterMap (·.button?) =
              actions.filterMap (·.button?) := rfl
          rw [hbuttons, act, getLsbD_dpad hi]

/-- A button of the report is pressed when its bit comes from the pressed set. -/
theorem getLsbD_reportButtons {i : Nat} (hi : 4 ≤ i ∧ i < 16) (config : Config)
    (report : MainReport) :
    (reportButtons v locateAtPoint config report).getLsbD i = true ↔
      ∃ button ∈ Linux.pressedButtons locateAtPoint config report,
        (mapButtonToDs4 v button).getLsbD i = true := by
  have hphysical : ∀ buttons : List Button,
      (buttons.map TouchAction.button).filterMap (·.button?) = buttons := by
    intro buttons
    rw [List.filterMap_map]
    exact List.filterMap_some
  rw [reportButtons_eq, getLsbD_foldl_act v hi, getLsbD_dpad hi, v.new_released ⟨i, hi.2⟩ hi.1,
    List.filterMap_append, hphysical]
  simp only [Linux.pressedButtons, Finset.mem_union, List.mem_toFinset, List.mem_append,
    Bool.false_eq_true, false_or]

end Windows

namespace Control

def linuxButton : Control → Button
  | l1 => .triggerLeft
  | r1 => .triggerRight
  | l2 => .shoulderLeft
  | r2 => .shoulderRight
  | l3 => .thumbLeft
  | r3 => .thumbRight
  | options => .options
  | share => .share
  | triangle => .triangle
  | circle => .circle
  | cross => .cross
  | square => .square

def windowsButton : Control → Button
  | l1 => .shoulderLeft
  | r1 => .shoulderRight
  | l2 => .triggerLeft
  | r2 => .triggerRight
  | l3 => .thumbLeft
  | r3 => .thumbRight
  | options => .options
  | share => .share
  | triangle => .triangle
  | circle => .circle
  | cross => .cross
  | square => .square

theorem key_eq (c : Control) : c.key = Linux.mapButtonToDs4 c.linuxButton := by
  cases c <;> rfl

theorem getLsbD_position (v : Windows.Vigem) (c : Control) (button : Button) :
    (Windows.mapButtonToDs4 v button).getLsbD (v.position c.ds4Button) = true ↔
      button = c.windowsButton := by
  have hrange := v.position_range c.ds4Button
  have hconstant : ∀ b, (v.constant b).getLsbD (v.position c.ds4Button) = true ↔
      b = c.ds4Button := by
    intro b
    rw [Windows.Vigem.constant, BitVec.getLsbD_twoPow]
    simp [v.position_range b, v.position_injective.eq_iff]
  have hhome : ∀ i : Fin 16, 4 ≤ i.val → Windows.psHome.getLsbD i = false := by decide
  have hhome := hhome ⟨_, hrange.2⟩ hrange.1
  simp only at hhome
  cases button <;> simp only [Windows.mapButtonToDs4, hconstant, hhome] <;> cases c <;> decide

end Control

theorem mem_linuxControls {device : Evdev} {buttons : Finset Button}
    (h : device.keys = buttons.image Linux.mapButtonToDs4) (c : Control) :
    c ∈ linuxControls device ↔ c.linuxButton ∈ buttons := by
  rw [linuxControls, Set.mem_ofPred_eq, h, c.key_eq,
    Linux.mapButtonToDs4_injective.mem_finset_image]

theorem mem_windowsControls (v : Windows.Vigem) (locateAtPoint : LocateAtPoint)
    (config : Config) (report : MainReport) (c : Control) :
    c ∈ windowsControls v (Windows.reportButtons v locateAtPoint config report) ↔
      c.windowsButton ∈ Linux.pressedButtons locateAtPoint config report := by
  rw [windowsControls, Set.mem_ofPred_eq,
    Windows.getLsbD_reportButtons v locateAtPoint (v.position_range _)]
  simp only [c.getLsbD_position v, exists_eq_right]

/-- On either side the trigger is pressed if and only if the shoulder is. -/
def TriggersMatchShoulders (buttons : Finset Button) : Prop :=
  (.triggerLeft ∈ buttons ↔ .shoulderLeft ∈ buttons) ∧
    (.triggerRight ∈ buttons ↔ .shoulderRight ∈ buttons)

theorem linuxButton_iff_windowsButton (buttons : Finset Button) :
    (∀ c : Control, c.linuxButton ∈ buttons ↔ c.windowsButton ∈ buttons) ↔
      TriggersMatchShoulders buttons := by
  constructor
  · intro h
    exact ⟨h .l1, h .r1⟩
  · rintro ⟨hleft, hright⟩ c
    cases c with
    | l1 => exact hleft
    | r1 => exact hright
    | l2 => exact hleft.symm
    | r2 => exact hright.symm
    | _ => exact Iff.rfl

theorem selectConfig_agree {ε δ : Type} {configName : String} {linuxConfig windowsConfig : Config}
    (hlinux : (Linux.selectConfig configName : Except (Linux.Error ε) Config) = .ok linuxConfig)
    (hwindows : (Windows.selectConfig configName : Except (Windows.Error δ) Config) =
      .ok windowsConfig) : windowsConfig = linuxConfig := by
  unfold Linux.selectConfig at hlinux
  unfold Windows.selectConfig at hwindows
  split_ifs at hlinux hwindows <;> simp_all

/-- After the report the Linux driver has left the controls pressed that the Windows
driver reports, exactly when triggers and shoulders are pressed together. -/
theorem same_controls_iff {ε δ : Type} (v : Windows.Vigem) (locateAtPoint : LocateAtPoint)
    (configName : String) (linuxConfig windowsConfig : Config)
    (hlinux : (Linux.selectConfig configName : Except (Linux.Error ε) Config) = .ok linuxConfig)
    (hwindows : (Windows.selectConfig configName : Except (Windows.Error δ) Config) =
      .ok windowsConfig)
    (earlier : List (Linux.Call ε)) (call : Linux.Call ε) (s t : Linux.VitaDevice × Evdev)
    (hs : Linux.replayRun locateAtPoint .main linuxConfig earlier = .ok s)
    (ht : Linux.replayStep locateAtPoint .main s call = .ok t) :
    linuxControls t.2 =
        windowsControls v (Windows.reportButtons v locateAtPoint windowsConfig call.report) ↔
      TriggersMatchShoulders (Linux.pressedButtons locateAtPoint linuxConfig call.report) := by
  obtain ⟨hmirrors, hbuttons, -, -⟩ := Linux.replayStep_ok (Linux.mirrors_run hs) ht
  have hkeys := hmirrors.keys
  rw [hbuttons] at hkeys
  rw [selectConfig_agree hlinux hwindows, Set.ext_iff, ← linuxButton_iff_windowsButton]
  simp only [mem_linuxControls hkeys, mem_windowsControls]

/-! ## The left trigger alone, and with the left shoulder -/

/-- The buttons stand above the hat in the order of `DS4Button`, from the highest bit down. -/
def Windows.Vigem.descending : Windows.Vigem where
  position
    | .thumbRight => 15
    | .thumbLeft => 14
    | .options => 13
    | .share => 12
    | .triggerRight => 11
    | .triggerLeft => 10
    | .shoulderRight => 9
    | .shoulderLeft => 8
    | .triangle => 7
    | .circle => 6
    | .cross => 5
    | .square => 4
  position_range button := by cases button <;> decide
  position_injective a b h := by cases a <;> cases b <;> first | rfl | cases h
  new := 8
  new_released := by decide

def ltReport : MainReport :=
  { Linux.idleReport with buttons := { Linux.idleReport.buttons with lt := true } }

def ltRearReport : MainReport := { ltReport with backTouch := ⟨[⟨100, 400, 1, 90⟩]⟩ }

theorem same_controls_of_ltRear :
    ∃ t, Linux.replayStep Linux.firstZone .main (.new .rearRl2FrontRl3, .initial)
        (Linux.sentCall ltRearReport) = .ok t ∧
      (linuxControls t.2 = windowsControls .descending
          (Windows.reportButtons .descending Linux.firstZone .rearRl2FrontRl3 ltRearReport) ↔
        TriggersMatchShoulders
          (Linux.pressedButtons Linux.firstZone .rearRl2FrontRl3 ltRearReport)) := by
  obtain ⟨t, ht⟩ := Linux.replayStep_sentCall (.new .rearRl2FrontRl3, .initial) ltRearReport
  exact ⟨t, ht, same_controls_iff (δ := Unit) .descending Linux.firstZone "standart" _ _ rfl rfl
    [] (Linux.sentCall ltRearReport) _ t rfl ht⟩

/-- With `standart` and only the left trigger button pressed, Linux presses L1 and
Windows L2. -/
theorem not_same_controls_of_lt :
    ∃ t, Linux.replayStep Linux.firstZone .main (.new .rearRl2FrontRl3, .initial)
        (Linux.sentCall ltReport) = .ok t ∧
      .l1 ∈ linuxControls t.2 ∧
      .l1 ∉ windowsControls .descending
        (Windows.reportButtons .descending Linux.firstZone .rearRl2FrontRl3 ltReport) ∧
      .l2 ∈ windowsControls .descending
        (Windows.reportButtons .descending Linux.firstZone .rearRl2FrontRl3 ltReport) := by
  obtain ⟨t, ht⟩ := Linux.replayStep_sentCall (.new .rearRl2FrontRl3, .initial) ltReport
  obtain ⟨hmirrors, hbuttons, -, -⟩ := Linux.replayStep_ok (Linux.mirrors_initial _) ht
  have hkeys := hmirrors.keys
  rw [hbuttons] at hkeys
  refine ⟨t, ht, ?_, ?_, ?_⟩
  · rw [mem_linuxControls hkeys]
    decide
  · rw [mem_windowsControls]
    decide
  · rw [mem_windowsControls]
    decide

end VitaOxiPad.VirtualDevice
