import VitaOxiPad.Device.MainDevice
/-!
# The table of configurations

The README's table says for each named configuration which buttons the triggers of
the console are and what the two panels do.  The zones of the configurations are
rectangles with their borders, so on a dividing line more than one of them holds a
touch, and the tree picks one.
-/

namespace VitaOxiPad.VirtualDevice

open Client.VitaReports

def Rectangle.Contains (rect : Rectangle) (p : Point) : Prop :=
  rect.lower.x ≤ p.x ∧ p.x ≤ rect.upper.x ∧ rect.lower.y ≤ p.y ∧ p.y ≤ rect.upper.y

instance (rect : Rectangle) (p : Point) : Decidable (rect.Contains p) :=
  inferInstanceAs (Decidable (_ ∧ _ ∧ _ ∧ _))

/-- The tree finds a zone at the point if there is one. -/
structure Locates (locateAtPoint : LocateAtPoint) : Prop where
  holds : ∀ {zones p zone}, locateAtPoint zones p = some zone → zone ∈ zones ∧ zone.rect.Contains p
  finds : ∀ {zones p zone}, zone ∈ zones → zone.rect.Contains p → locateAtPoint zones p ≠ none

/-! ## The table -/

/-- What a panel does.  Its middle is at 960 from the left. -/
inductive Panel where
  | halves (left right : Button)
  | quarters (upperLeft upperRight lowerLeft lowerRight : Button)
  | touchpad
  deriving DecidableEq, Repr

/-- A touch lies in the zone of a button, on a panel of 1920 by `height`. -/
def Panel.ZoneAt (height : Nat) (panel : Panel) (touch : TouchReport) (button : Button) : Prop :=
  let x := touch.x.toNat
  let y := touch.y.toNat
  x ≤ 1920 ∧ y ≤ height ∧
    match panel with
    | halves left right => x ≤ 960 ∧ button = left ∨ 960 ≤ x ∧ button = right
    | quarters upperLeft upperRight lowerLeft lowerRight =>
        y ≤ height / 2 ∧ (x ≤ 960 ∧ button = upperLeft ∨ 960 ≤ x ∧ button = upperRight) ∨
          height / 2 ≤ y ∧ (x ≤ 960 ∧ button = lowerLeft ∨ 960 ≤ x ∧ button = lowerRight)
    | touchpad => False

structure ConfigRow where
  triggers : TriggerConfig
  front : Panel
  rear : Panel
  deriving DecidableEq, Repr

def configTable : String → Option ConfigRow
  | "standart" => some
      { triggers := .trigger
        front := .halves .thumbLeft .thumbRight
        rear := .halves .shoulderLeft .shoulderRight }
  | "alt_triggers" => some
      { triggers := .shoulder
        front := .halves .thumbLeft .thumbRight
        rear := .halves .triggerLeft .triggerRight }
  | "rear_touchpad" => some
      { triggers := .trigger
        front := .quarters .shoulderLeft .shoulderRight .thumbLeft .thumbRight
        rear := .touchpad }
  | "front_touchpad" => some
      { triggers := .trigger
        front := .touchpad
        rear := .quarters .shoulderLeft .shoulderRight .thumbLeft .thumbRight }
  | _ => none

/-- The physical button that presses a button, if any, is held. -/
def Held (triggers : TriggerConfig) (buttons : ButtonsData) : Button → Prop
  | .circle => buttons.circle = true
  | .square => buttons.square = true
  | .cross => buttons.cross = true
  | .triangle => buttons.triangle = true
  | .options => buttons.start = true
  | .share => buttons.select = true
  | .psButton => buttons.ps = true
  | .shoulderLeft => triggers = .shoulder ∧ buttons.lt = true
  | .shoulderRight => triggers = .shoulder ∧ buttons.rt = true
  | .triggerLeft => triggers = .trigger ∧ buttons.lt = true
  | .triggerRight => triggers = .trigger ∧ buttons.rt = true
  | .thumbLeft | .thumbRight => False

/-- What a touch presses is one of the candidates, if there are any. -/
def OneOf (candidates : Button → Prop) : Option Button → Prop
  | some button => candidates button
  | none => ∀ button, ¬ candidates button

/-! ## The zones -/

def Panel.touchConfig (rect : Point × Point) : Panel → TouchConfig
  | halves left right => .zones (VirtualDevice.halves rect left right)
  | quarters upperLeft upperRight lowerLeft lowerRight =>
      .zones (VirtualDevice.quarters rect upperLeft upperRight lowerLeft lowerRight)
  | touchpad => .touchpad

def panelRect (height : Nat) : Point × Point := (⟨0, 0⟩, ⟨1920, height⟩)

theorem halves_contain (height : Nat) (left right : Button) (touch : TouchReport)
    (button : Button) :
    (Panel.halves left right).ZoneAt height touch button ↔
      ∃ zone ∈ halves (panelRect height) left right,
        zone.rect.Contains (.of touch) ∧ zone.action = some (.button button) := by
  simp only [Panel.ZoneAt, halves, panelRect, TouchZone.new, Rectangle.fromCorners,
    Rectangle.Contains, Point.of, List.exists_mem_cons_iff, List.not_mem_nil, false_and,
    exists_false, or_false, Option.some.injEq, TouchAction.button.injEq, eq_comm (a := button)]
  constructor
  · rintro ⟨hx, hy, ⟨hleft, hbutton⟩ | ⟨hright, hbutton⟩⟩
    · exact .inl ⟨by omega, hbutton⟩
    · exact .inr ⟨by omega, hbutton⟩
  · rintro (⟨hcontains, hbutton⟩ | ⟨hcontains, hbutton⟩)
    · exact ⟨by omega, by omega, .inl ⟨by omega, hbutton⟩⟩
    · exact ⟨by omega, by omega, .inr ⟨by omega, hbutton⟩⟩

theorem quarters_contain (height : Nat) (upperLeft upperRight lowerLeft lowerRight : Button)
    (touch : TouchReport) (button : Button) :
    (Panel.quarters upperLeft upperRight lowerLeft lowerRight).ZoneAt height touch button ↔
      ∃ zone ∈ quarters (panelRect height) upperLeft upperRight lowerLeft lowerRight,
        zone.rect.Contains (.of touch) ∧ zone.action = some (.button button) := by
  simp only [Panel.ZoneAt, quarters, panelRect, TouchZone.new, Rectangle.fromCorners,
    Rectangle.Contains, Point.of, List.exists_mem_cons_iff, List.not_mem_nil, false_and,
    exists_false, or_false, Option.some.injEq, TouchAction.button.injEq, eq_comm (a := button)]
  constructor
  · rintro ⟨hx, hy, ⟨hupper, ⟨hleft, hbutton⟩ | ⟨hright, hbutton⟩⟩ |
      ⟨hlower, ⟨hleft, hbutton⟩ | ⟨hright, hbutton⟩⟩⟩
    · exact .inl ⟨by omega, hbutton⟩
    · exact .inr (.inl ⟨by omega, hbutton⟩)
    · exact .inr (.inr (.inl ⟨by omega, hbutton⟩))
    · exact .inr (.inr (.inr ⟨by omega, hbutton⟩))
  · rintro (⟨hcontains, hbutton⟩ | ⟨hcontains, hbutton⟩ | ⟨hcontains, hbutton⟩ |
      ⟨hcontains, hbutton⟩)
    · exact ⟨by omega, by omega, .inl ⟨by omega, .inl ⟨by omega, hbutton⟩⟩⟩
    · exact ⟨by omega, by omega, .inl ⟨by omega, .inr ⟨by omega, hbutton⟩⟩⟩
    · exact ⟨by omega, by omega, .inr ⟨by omega, .inl ⟨by omega, hbutton⟩⟩⟩
    · exact ⟨by omega, by omega, .inr ⟨by omega, .inr ⟨by omega, hbutton⟩⟩⟩

def touchedButton (locateAtPoint : LocateAtPoint) (config : TouchConfig) (touch : TouchReport) :
    Option Button :=
  match config with
  | .zones zones =>
      ((locateAtPoint zones (.of touch)).bind (·.action)).bind (·.button?)
  | .touchpad => none

theorem oneOf_locate {locateAtPoint : LocateAtPoint} (h : Locates locateAtPoint)
    {zones : List TouchZone} {candidates : Button → Prop} {touch : TouchReport}
    (hbuttons : ∀ zone ∈ zones, ∃ button, zone.action = some (.button button))
    (hcandidates : ∀ button, candidates button ↔
      ∃ zone ∈ zones, zone.rect.Contains (.of touch) ∧ zone.action = some (.button button)) :
    OneOf candidates (touchedButton locateAtPoint (.zones zones) touch) := by
  cases hlocate : locateAtPoint zones (.of touch) with
  | none =>
      simp only [touchedButton, hlocate, Option.bind_none, OneOf, hcandidates]
      rintro button ⟨zone, hzone, hcontains, -⟩
      exact h.finds hzone hcontains hlocate
  | some zone =>
      obtain ⟨hzone, hcontains⟩ := h.holds hlocate
      obtain ⟨button, haction⟩ := hbuttons zone hzone
      simp only [touchedButton, hlocate, Option.bind_some, haction, TouchAction.button?, OneOf,
        hcandidates]
      exact ⟨zone, hzone, hcontains, haction⟩

theorem oneOf_touchedButton {locateAtPoint : LocateAtPoint} (h : Locates locateAtPoint)
    (panel : Panel) (height : Nat) (touch : TouchReport) :
    OneOf (panel.ZoneAt height touch)
      (touchedButton locateAtPoint (panel.touchConfig (panelRect height)) touch) := by
  cases panel with
  | halves left right =>
      refine oneOf_locate h ?_ (halves_contain height left right touch)
      simp [halves, TouchZone.new]
  | quarters upperLeft upperRight lowerLeft lowerRight =>
      refine oneOf_locate h ?_
        (quarters_contain height upperLeft upperRight lowerLeft lowerRight touch)
      simp [quarters, TouchZone.new]
  | touchpad => exact fun button hzone => hzone.2.2

theorem mem_processTouchReports_iff (locateAtPoint : LocateAtPoint) (config : TouchConfig)
    (touchReports : List TouchReport) (button : Button) :
    button ∈ (Linux.processTouchReports locateAtPoint touchReports (some config)).filterMap
        (·.button?) ↔
      ∃ touch ∈ touchReports, touchedButton locateAtPoint config touch = some button := by
  cases config with
  | zones zones =>
      simp only [Linux.processTouchReports, List.filterMap_filterMap, List.mem_filterMap]
      rfl
  | touchpad => simp [Linux.processTouchReports, touchedButton]

theorem mem_getPressedButtons_iff (buttons : ButtonsData) (triggers : TriggerConfig)
    (button : Button) :
    button ∈ getPressedButtons buttons triggers ↔ Held triggers buttons button := by
  cases triggers <;> cases button <;> simp [getPressedButtons, Held]

/-! ## The configurations -/

structure Config.Matches (config : Config) (row : ConfigRow) : Prop where
  triggers : config.triggerConfig = row.triggers
  front : config.frontTouchConfig = some (row.front.touchConfig (panelRect 1087))
  rear : config.rearTouchConfig = some (row.rear.touchConfig (panelRect 887))

theorem selectConfig_of_row {configName : String} {row : ConfigRow}
    (h : configTable configName = some row) (ε : Type) :
    ∃ config, (Linux.selectConfig configName : Except (Linux.Error ε) Config) = .ok config ∧
      config.Matches row := by
  unfold configTable at h
  split at h <;> cases h
  · exact ⟨_, rfl, rfl, rfl, rfl⟩
  · exact ⟨_, rfl, rfl, rfl, rfl⟩
  · exact ⟨_, rfl, rfl, rfl, rfl⟩
  · exact ⟨_, rfl, rfl, rfl, rfl⟩

theorem pressed_buttons_iff {config : Config} {row : ConfigRow} (h : config.Matches row)
    (locateAtPoint : LocateAtPoint) (report : MainReport) (button : Button) :
    button ∈ (Linux.pressed locateAtPoint config report).buttons ↔
      Held row.triggers report.buttons button ∨
        (∃ touch ∈ report.frontTouch.reports,
          touchedButton locateAtPoint (row.front.touchConfig (panelRect 1087)) touch =
            some button) ∨
        ∃ touch ∈ report.backTouch.reports,
          touchedButton locateAtPoint (row.rear.touchConfig (panelRect 887)) touch =
            some button := by
  rw [Linux.pressed_eq]
  simp only [Linux.pressedButtons, Linux.touchActions, Finset.mem_union, List.mem_toFinset,
    List.filterMap_append, List.mem_append, h.front, h.rear, h.triggers,
    mem_getPressedButtons_iff, mem_processTouchReports_iff]

/-- Each of the named configurations is accepted, and with it the pressed set of a report is
the physical buttons, the triggers as its row of the table says, and for each touch the button
of the zone of its row that it lies in, on a dividing line of one of the zones there. -/
theorem config_table_holds {ε : Type} (locateAtPoint : LocateAtPoint)
    (hlocates : Locates locateAtPoint) (configName : String) (row : ConfigRow)
    (hrow : configTable configName = some row) :
    ∃ config, (Linux.selectConfig configName : Except (Linux.Error ε) Config) = .ok config ∧
      ∃ frontButton rearButton : TouchReport → Option Button,
        (∀ touch, OneOf (row.front.ZoneAt 1087 touch) (frontButton touch)) ∧
        (∀ touch, OneOf (row.rear.ZoneAt 887 touch) (rearButton touch)) ∧
        ∀ (report : MainReport) (button : Button),
          button ∈ (Linux.pressed locateAtPoint config report).buttons ↔
            Held row.triggers report.buttons button ∨
              (∃ touch ∈ report.frontTouch.reports, frontButton touch = some button) ∨
              ∃ touch ∈ report.backTouch.reports, rearButton touch = some button := by
  obtain ⟨config, hconfig, hmatches⟩ := selectConfig_of_row hrow ε
  refine ⟨config, hconfig, _, _, ?_, ?_, pressed_buttons_iff hmatches locateAtPoint⟩
  · exact oneOf_touchedButton hlocates row.front 1087
  · exact oneOf_touchedButton hlocates row.rear 887

theorem locates_firstZone : Locates Linux.firstZone where
  holds := by
    intro zones p zone h
    have hcontains := List.find?_some h
    exact ⟨List.mem_of_find?_eq_some h, of_decide_eq_true hcontains⟩
  finds := by
    intro zones p zone hzone hcontains hnone
    have hno := List.find?_eq_none.mp hnone zone hzone
    exact hno (decide_eq_true hcontains)

theorem config_table_holds_of_rear_touch :
    ∃ config, (Linux.selectConfig "front_touchpad" : Except (Linux.Error Unit) Config) =
        .ok config ∧
      ∃ frontButton rearButton : TouchReport → Option Button,
        (∀ touch, OneOf (Panel.touchpad.ZoneAt 1087 touch) (frontButton touch)) ∧
        (∀ touch, OneOf ((Panel.quarters .shoulderLeft .shoulderRight .thumbLeft
          .thumbRight).ZoneAt 887 touch) (rearButton touch)) ∧
        ∀ button, button ∈ (Linux.pressed Linux.firstZone config Linux.rearReport).buttons ↔
          Held .trigger Linux.rearReport.buttons button ∨
            (∃ touch ∈ Linux.rearReport.frontTouch.reports, frontButton touch = some button) ∨
            ∃ touch ∈ Linux.rearReport.backTouch.reports, rearButton touch = some button := by
  obtain ⟨config, hconfig, frontButton, rearButton, hfront, hrear, hpressed⟩ :=
    config_table_holds (ε := Unit) Linux.firstZone locates_firstZone "front_touchpad" _ rfl
  exact ⟨config, hconfig, frontButton, rearButton, hfront, hrear, hpressed Linux.rearReport⟩

end VitaOxiPad.VirtualDevice
