import Mathlib.Data.List.DropRight
import VitaOxiPad.Device.SameController
/-!
# The hat of the Windows report

The raw value of a `DS4Buttons` holds the hat as a number in its low four bits.
`PS_HOME` is a constant of the special buttons, where it is the lowest bit.  Or'ed
into `DS4Buttons`, it changes the hat unless its number is odd.
-/

namespace VitaOxiPad.VirtualDevice.Windows

open Client.VitaReports

def DS4Buttons.hat (buttons : DS4Buttons) : DS4Buttons := buttons &&& 0xf

theorem hat_dpad (buttons : DS4Buttons) (direction : VigemDpadDirection) :
    (buttons.dpad direction).hat = direction.nibble := by
  have hmask : (0xfff0 : DS4Buttons) &&& 0xf = 0 := by decide
  have hnibble : direction.nibble &&& 0xf = direction.nibble := by cases direction <;> decide
  rw [DS4Buttons.hat, DS4Buttons.dpad, BitVec.and_or_distrib_right, BitVec.and_assoc, hmask,
    hnibble]
  simp

theorem hat_or (buttons constant : DS4Buttons) :
    (buttons ||| constant).hat = buttons.hat ||| constant.hat :=
  BitVec.and_or_distrib_right

/-- The constants of `DS4Buttons` are above the hat. -/
theorem hat_constant (v : Vigem) (button : DS4Button) : (v.constant button).hat = 0 := by
  have hrange := v.position_range button
  have hlow : ∀ i : Fin 16, 4 ≤ i.val → (0xf : DS4Buttons).getLsbD i = false := by decide
  have hposition : (0xf : DS4Buttons).getLsbD (v.position button) = false :=
    hlow ⟨_, hrange.2⟩ hrange.1
  apply BitVec.eq_of_getLsbD_eq
  intro i hi
  rw [DS4Buttons.hat, Vigem.constant, BitVec.getLsbD_and, BitVec.getLsbD_twoPow]
  by_cases heq : v.position button = i
  · rw [heq] at hposition
    rw [hposition, Bool.and_false]
    exact BitVec.getLsbD_zero.symm
  · simp [heq]

theorem hat_mapButtonToDs4 (v : Vigem) (button : Button) :
    (mapButtonToDs4 v button).hat = if button = .psButton then 1 else 0 := by
  have hhome : psHome.hat = 1 := by decide
  cases button <;> first | exact hat_constant v _ | exact hhome

/-! ## The actions of a report -/

def actions (locateAtPoint : LocateAtPoint) (config : Config) (report : MainReport) :
    List TouchAction :=
  (getPressedButtons report.buttons config.triggerConfig).map .button ++
    Linux.touchActions locateAtPoint config report

def afterLastDpad (actions : List TouchAction) : List TouchAction :=
  actions.rtakeWhile (·.dpad?.isNone)

theorem hat_foldl_act (v : Vigem) {buttons : DS4Buttons} {direction : DpadDirection}
    (h : buttons.hat = (mapDpadDirectionToDs4 direction).nibble) (actions : List TouchAction) :
    (actions.foldl (act v) buttons).hat =
      (mapDpadDirectionToDs4 ((actions.filterMap (·.dpad?)).getLastD direction)).nibble |||
        if .button .psButton ∈ afterLastDpad actions then 1 else 0 := by
  induction actions using List.reverseRecOn with
  | nil => simpa [afterLastDpad] using h
  | append_singleton actions action ih =>
      rw [List.foldl_append, List.foldl_cons, List.foldl_nil, List.filterMap_append,
        afterLastDpad]
      cases action with
      | button button =>
          have hnone : [TouchAction.button button].filterMap (·.dpad?) = [] := rfl
          rw [List.rtakeWhile_concat_pos _ _ _ rfl, act, hat_or, ih, hat_mapButtonToDs4, hnone,
            List.append_nil, BitVec.or_assoc]
          congr 1
          simp only [List.mem_append, List.mem_singleton, TouchAction.button.injEq, afterLastDpad]
          by_cases hbefore : .button .psButton ∈ actions.rtakeWhile (·.dpad?.isNone) <;>
            by_cases hnow : button = .psButton <;> simp [hbefore, hnow, eq_comm]
      | dpad direction' =>
          rw [List.rtakeWhile_concat_neg _ _ _ (by simp [TouchAction.dpad?]), act, hat_dpad]
          simp [TouchAction.dpad?]

/-- Between the neighbours of the compass. -/
def Diagonal : DpadDirection → Prop
  | .northEast | .southEast | .southWest | .northWest => True
  | .north | .east | .south | .west | .none => False

theorem nibble_or_one_iff (direction : DpadDirection) :
    (mapDpadDirectionToDs4 direction).nibble ||| 1 = (mapDpadDirectionToDs4 direction).nibble ↔
      Diagonal direction := by
  cases direction <;> simp [Diagonal] <;> decide

/-- The hat of the report is the direction of the last touched Dpad zone, or else of
the physical buttons, exactly when no PS button comes after that or the direction is
a diagonal one. -/
theorem hat_reportButtons_iff (v : Vigem) (locateAtPoint : LocateAtPoint) (config : Config)
    (report : MainReport) :
    (reportButtons v locateAtPoint config report).hat =
        (mapDpadDirectionToDs4 (Linux.hatDirection locateAtPoint config report)).nibble ↔
      .button .psButton ∉ afterLastDpad (actions locateAtPoint config report) ∨
        Diagonal (Linux.hatDirection locateAtPoint config report) := by
  have hphysical : ((actions locateAtPoint config report).filterMap (·.dpad?)).getLastD
      (computeDpadDirection report.buttons) = Linux.hatDirection locateAtPoint config report := by
    have hnone : ∀ buttons : List Button,
        (buttons.map TouchAction.button).filterMap (·.dpad?) = [] := by
      intro buttons
      rw [List.filterMap_map]
      exact List.filterMap_eq_nil_iff.mpr fun _ _ => rfl
    rw [actions, List.filterMap_append, hnone, List.nil_append, Linux.hatDirection]
  rw [reportButtons_eq]
  change (List.foldl (act v) _ (actions locateAtPoint config report)).hat = _ ↔ _
  rw [hat_foldl_act v (hat_dpad _ _), hphysical]
  by_cases hhome : .button .psButton ∈ afterLastDpad (actions locateAtPoint config report)
  · simp only [hhome, if_true, not_true_eq_false, false_or]
    exact nibble_or_one_iff _
  · simp [hhome]

def psUpReport : MainReport :=
  { Linux.idleReport with buttons := { Linux.idleReport.buttons with ps := true, up := true } }

/-- With the PS button, up is reported as up and right. -/
theorem not_hat_reportButtons_of_ps :
    (reportButtons .descending Linux.firstZone .rearRl2FrontRl3 psUpReport).hat ≠
        (mapDpadDirectionToDs4
          (Linux.hatDirection Linux.firstZone .rearRl2FrontRl3 psUpReport)).nibble ∧
      (reportButtons .descending Linux.firstZone .rearRl2FrontRl3 psUpReport).hat =
        VigemDpadDirection.northEast.nibble := by
  decide

end VitaOxiPad.VirtualDevice.Windows
