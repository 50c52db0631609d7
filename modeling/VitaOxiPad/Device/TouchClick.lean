import Mathlib.Data.List.DropRight
import VitaOxiPad.Device.SameController
/-!
# Clicks of the touchpad

The Windows driver makes a short contact a click of the touchpad: it remembers
whether the last report touched it and since when, and looks at the time when the
finger is gone.  The report it builds is modelled up to its buttons.
-/

namespace VitaOxiPad.VirtualDevice.Windows

open Client.VitaReports

abbrev Instant := Nat

/-- `Instant::duration_since`, zero for an instant that is still to come. -/
def Instant.durationSince (now earlier : Instant) : Nat := now - earlier

def clickDuration : Nat := 150 * 1000000

structure DS4SpecialButtons where
  psHome : Bool
  touchpad : Bool
  deriving DecidableEq, Repr

def DS4SpecialButtons.new : DS4SpecialButtons := ⟨false, false⟩

structure DS4Report where
  buttons : DS4Buttons
  special : DS4SpecialButtons
  deriving DecidableEq, Repr

structure VitaDevice where
  config : Config
  touchState : Bool
  touchStartTime : Option Instant
  deriving DecidableEq, Repr

def VitaDevice.withConfig (config : Config) : VitaDevice := ⟨config, false, none⟩

def isTouching (config : Config) (report : MainReport) : Bool :=
  match config.frontTouchConfig, config.rearTouchConfig with
  | some .touchpad, _ => !report.frontTouch.reports.isEmpty
  | _, some .touchpad => !report.backTouch.reports.isEmpty
  | _, _ => false

/-- The click emulation: the special buttons and the new `touch_start_time`. -/
def VitaDevice.touchClick (device : VitaDevice) (isTouching : Bool) (now : Instant) :
    DS4SpecialButtons × Option Instant :=
  let specialButtons := DS4SpecialButtons.new
  if isTouching && !device.touchState then (specialButtons, some now)
  else if !isTouching && device.touchState then
    match device.touchStartTime with
    | some startTime =>
        if now.durationSince startTime < clickDuration then
          ({ specialButtons with touchpad := true }, none)
        else (specialButtons, none)
    | none => (specialButtons, none)
  else (specialButtons, device.touchStartTime)

section

variable (v : Vigem) (locateAtPoint : LocateAtPoint)

def VitaDevice.sendReport (device : VitaDevice) (now : Instant) (report : MainReport) :
    DS4Report × VitaDevice :=
  let buttons := reportButtons v locateAtPoint device.config report
  let touching := isTouching device.config report
  let (specialButtons, touchStartTime) := device.touchClick touching now
  (⟨buttons, { specialButtons with psHome := report.buttons.ps }⟩,
    { device with touchState := touching, touchStartTime := touchStartTime })

structure TimedReport where
  now : Instant
  report : MainReport
  deriving DecidableEq, Repr

def VitaDevice.sendReports (device : VitaDevice) (reports : List TimedReport) : VitaDevice :=
  reports.foldl (fun device r => (device.sendReport v locateAtPoint r.now r.report).2) device

def clicks (config : Config) (earlier : List TimedReport) (r : TimedReport) : Bool :=
  (((VitaDevice.withConfig config).sendReports v locateAtPoint earlier).sendReport v
    locateAtPoint r.now r.report).1.special.touchpad

end

/-! ## What the driver remembers -/

/-- The panel whose touches count: the front one if it is a touchpad, else the rear one. -/
def touchpadPanel (config : Config) : Option TouchpadSource :=
  if config.frontTouchConfig = some .touchpad then some .front
  else if config.rearTouchConfig = some .touchpad then some .rear
  else none

def panelTouched (panel : TouchpadSource) (report : MainReport) : Bool :=
  match panel with
  | .front => !report.frontTouch.reports.isEmpty
  | .rear => !report.backTouch.reports.isEmpty

theorem isTouching_eq (config : Config) (report : MainReport) :
    isTouching config report = (touchpadPanel config).any (panelTouched · report) := by
  unfold isTouching touchpadPanel
  split
  · rename_i hfront
    rw [if_pos hfront]
    rfl
  · rename_i hrear hfront
    rw [if_neg hfront, if_pos hrear]
    rfl
  · rename_i hfront hrear
    rw [if_neg hfront, if_neg hrear]
    rfl

theorem isTouching_of_panel {config : Config} {panel : TouchpadSource}
    (h : touchpadPanel config = some panel) : isTouching config = panelTouched panel := by
  funext report
  rw [isTouching_eq, h]
  rfl

theorem isTouching_of_noPanel {config : Config} (h : touchpadPanel config = none)
    (report : MainReport) : isTouching config report = false := by
  rw [isTouching_eq, h]
  rfl

/-- The touching reports at the end, back to the last one without a touch. -/
def contact (touched : MainReport → Bool) (earlier : List TimedReport) : List TimedReport :=
  earlier.rtakeWhile fun r => touched r.report

theorem contact_concat (touched : MainReport → Bool) (earlier : List TimedReport)
    (r : TimedReport) :
    contact touched (earlier ++ [r]) =
      if touched r.report then contact touched earlier ++ [r] else [] := by
  unfold contact
  split_ifs with htouched
  · exact List.rtakeWhile_concat_pos _ _ _ htouched
  · exact List.rtakeWhile_concat_neg _ _ _ htouched

theorem contact_append_cons {touched : MainReport → Bool} (pre : List TimedReport)
    {r : TimedReport} (h : touched r.report = false) (mid : List TimedReport) :
    contact touched (pre ++ r :: mid) = contact touched mid := by
  induction mid using List.reverseRecOn with
  | nil =>
      rw [contact_concat, h]
      rfl
  | append_singleton mid last ih =>
      rw [← List.cons_append, ← List.append_assoc, contact_concat, contact_concat, ih]

theorem contact_of_never {touched : MainReport → Bool} (h : ∀ report, touched report = false)
    (earlier : List TimedReport) : contact touched earlier = [] := by
  rw [contact, List.rtakeWhile_eq_nil_iff]
  intro hne
  rw [h]
  exact Bool.false_ne_true

theorem contact_suffix (touched : MainReport → Bool) (reports : List TimedReport) :
    contact touched reports <:+ reports :=
  List.rtakeWhile_suffix _ _

/-! ## The four edges of the click emulation -/

section

variable {device : VitaDevice} (now : Instant)

theorem touchClick_start (h : device.touchState = false) :
    device.touchClick true now = (.new, some now) := by
  simp only [VitaDevice.touchClick, h, Bool.not_false, Bool.and_self, if_true]

theorem touchClick_hold (h : device.touchState = true) :
    device.touchClick true now = (.new, device.touchStartTime) := by
  simp [VitaDevice.touchClick, h]

theorem touchClick_idle (h : device.touchState = false) :
    device.touchClick false now = (.new, device.touchStartTime) := by
  simp [VitaDevice.touchClick, h]

theorem touchClick_release {startTime : Instant} (h : device.touchState = true)
    (htime : device.touchStartTime = some startTime) :
    device.touchClick false now =
      ({ DS4SpecialButtons.new with
        touchpad := decide (now.durationSince startTime < clickDuration) }, none) := by
  simp only [VitaDevice.touchClick, h, htime]
  by_cases hshort : now.durationSince startTime < clickDuration
  · simp [hshort]
  · simp [hshort]
    rfl

end

/-- The device remembers the contact that is going on: that there is one, and when it began. -/
structure Remembers (config : Config) (earlier : List TimedReport) (device : VitaDevice) :
    Prop where
  sameConfig : device.config = config
  state : device.touchState = !(contact (isTouching config) earlier).isEmpty
  startTime : device.touchStartTime =
    (contact (isTouching config) earlier).head?.map TimedReport.now

section

variable {v : Vigem} {locateAtPoint : LocateAtPoint} {config : Config}
  {earlier : List TimedReport} {device : VitaDevice}

theorem remembers_withConfig (config : Config) :
    Remembers config [] (VitaDevice.withConfig config) := ⟨rfl, rfl, rfl⟩

theorem Remembers.sendReport (h : Remembers config earlier device) (r : TimedReport) :
    Remembers config (earlier ++ [r])
      (device.sendReport v locateAtPoint r.now r.report).2 := by
  obtain ⟨rfl, hstate, htime⟩ := h
  refine ⟨rfl, ?_, ?_⟩
  · rw [contact_concat]
    cases htouched : isTouching device.config r.report <;>
      simp [VitaDevice.sendReport, htouched]
  · have hnext : (device.sendReport v locateAtPoint r.now r.report).2.touchStartTime =
        (device.touchClick (isTouching device.config r.report) r.now).2 := rfl
    rw [hnext, contact_concat]
    cases hcontact : contact (isTouching device.config) earlier with
    | nil =>
        rw [hcontact] at hstate htime
        cases isTouching device.config r.report with
        | true => rw [touchClick_start _ hstate]; rfl
        | false => rw [touchClick_idle _ hstate, htime]; rfl
    | cons first rest =>
        rw [hcontact] at hstate htime
        cases isTouching device.config r.report with
        | true => rw [touchClick_hold _ hstate, htime]; rfl
        | false => rw [touchClick_release _ hstate htime]; rfl

theorem remembers_sendReports (v : Vigem) (locateAtPoint : LocateAtPoint) (config : Config)
    (earlier : List TimedReport) :
    Remembers config earlier
      ((VitaDevice.withConfig config).sendReports v locateAtPoint earlier) := by
  induction earlier using List.reverseRecOn with
  | nil => exact remembers_withConfig config
  | append_singleton earlier r ih =>
      rw [VitaDevice.sendReports, List.foldl_append]
      exact ih.sendReport r

/-! ## When there is a click -/

theorem clicks_iff (v : Vigem) (locateAtPoint : LocateAtPoint) (config : Config)
    (earlier : List TimedReport) (r : TimedReport) :
    clicks v locateAtPoint config earlier r = true ↔
      isTouching config r.report = false ∧
        ∃ first, (contact (isTouching config) earlier).head? = some first ∧
          r.now.durationSince first.now < clickDuration := by
  obtain ⟨hconfig, hstate, htime⟩ := remembers_sendReports v locateAtPoint config earlier
  have hclick : clicks v locateAtPoint config earlier r =
      (((VitaDevice.withConfig config).sendReports v locateAtPoint earlier).touchClick
        (isTouching config r.report) r.now).1.touchpad := by
    rw [clicks, VitaDevice.sendReport, hconfig]
  rw [hclick]
  cases hcontact : contact (isTouching config) earlier with
  | nil =>
      rw [hcontact] at hstate
      cases isTouching config r.report with
      | true => simp [touchClick_start _ hstate, DS4SpecialButtons.new]
      | false => simp [touchClick_idle _ hstate, DS4SpecialButtons.new]
  | cons first rest =>
      rw [hcontact] at hstate htime
      cases isTouching config r.report with
      | true => simp [touchClick_hold _ hstate, DS4SpecialButtons.new]
      | false => simp [touchClick_release _ hstate htime]

end

/-- A report is a click exactly when it ends a contact with the touchpad panel that began
less than 150 ms ago.  The contact of a click comes after every click before. -/
theorem touch_click_iff (v : Vigem) (locateAtPoint : LocateAtPoint) (config : Config)
    (earlier : List TimedReport) (r : TimedReport) :
    (clicks v locateAtPoint config earlier r = true ↔
      ∃ panel, touchpadPanel config = some panel ∧ panelTouched panel r.report = false ∧
        ∃ first, (contact (panelTouched panel) earlier).head? = some first ∧
          r.now.durationSince first.now < clickDuration) ∧
    ∀ panel pre click mid, touchpadPanel config = some panel → earlier = pre ++ click :: mid →
      clicks v locateAtPoint config pre click = true →
      contact (panelTouched panel) earlier <:+ mid := by
  constructor
  · rw [clicks_iff]
    constructor
    · rintro ⟨hgone, first, hfirst, hshort⟩
      cases hpanel : touchpadPanel config with
      | none =>
          rw [contact_of_never (isTouching_of_noPanel hpanel)] at hfirst
          cases hfirst
      | some panel =>
          rw [isTouching_of_panel hpanel] at hgone hfirst
          exact ⟨panel, rfl, hgone, first, hfirst, hshort⟩
    · rintro ⟨panel, hpanel, hgone, first, hfirst, hshort⟩
      rw [isTouching_of_panel hpanel]
      exact ⟨hgone, first, hfirst, hshort⟩
  · rintro panel pre click mid hpanel rfl hclick
    have hgone := ((clicks_iff v locateAtPoint config pre click).mp hclick).1
    rw [isTouching_of_panel hpanel] at hgone
    rw [contact_append_cons pre hgone]
    exact contact_suffix _ mid

def taps : List TimedReport :=
  [⟨0, Linux.rearReport⟩, ⟨10000000, Linux.idleReport⟩, ⟨20000000, Linux.rearReport⟩]

theorem touch_click_of_taps :
    clicks .descending Linux.firstZone .frontTopRl2BottomRl3RearTouchpad taps
        ⟨30000000, Linux.idleReport⟩ = true ∧
      contact (panelTouched .rear) taps <:+ [⟨20000000, Linux.rearReport⟩] := by
  have hiff := touch_click_iff .descending Linux.firstZone .frontTopRl2BottomRl3RearTouchpad taps
    ⟨30000000, Linux.idleReport⟩
  constructor
  · exact hiff.1.mpr
      ⟨.rear, rfl, by decide, ⟨20000000, Linux.rearReport⟩, by decide, by decide⟩
  · exact hiff.2 .rear [⟨0, Linux.rearReport⟩] ⟨10000000, Linux.idleReport⟩ _ rfl rfl (by decide)

def twoTouchpads : Config := ⟨some .touchpad, some .touchpad, .trigger, some .front⟩

def panelConfig (config : Config) : TouchpadSource → Option TouchConfig
  | .front => config.frontTouchConfig
  | .rear => config.rearTouchConfig

/-- A tap of 10 ms on the rear panel is no click if the front panel is a touchpad too. -/
theorem not_touch_click_of_twoTouchpads :
    let earlier := [TimedReport.mk 0 Linux.rearReport]
    let r := TimedReport.mk 10000000 Linux.idleReport
    ¬ (clicks .descending Linux.firstZone twoTouchpads earlier r = true ↔
      ∃ panel, panelConfig twoTouchpads panel = some .touchpad ∧
        panelTouched panel r.report = false ∧
        ∃ first, (contact (panelTouched panel) earlier).head? = some first ∧
          r.now.durationSince first.now < clickDuration) := by
  intro earlier r h
  have hsilent : clicks .descending Linux.firstZone twoTouchpads earlier r = false := by decide
  have hclick := h.mpr ⟨.rear, rfl, by decide, ⟨0, Linux.rearReport⟩, by decide, by decide⟩
  rw [hsilent] at hclick
  cases hclick

end VitaOxiPad.VirtualDevice.Windows
