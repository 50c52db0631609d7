import VitaOxiPad.Device.Config
/-!
# The Windows driver

`vita_virtual_device/src/windows.rs`, as far as the buttons of the report go that
it builds.  The vigem_client crate is not part of the repository; `Vigem` is what
the driver uses of it: a `DS4Buttons` has one bit for every button above the four
bits of the hat.
-/

namespace VitaOxiPad.VirtualDevice.Windows

open Client.VitaReports

/-- `ε` is `vigem_client::Error`. -/
inductive Error (ε : Type) where
  | connectionFailed (e : ε)
  | pluginTargetFailed (e : ε)
  | sendReportFailed (e : ε)
  | invalidConfig (name : String)
  deriving DecidableEq, Repr

inductive DS4Button where
  | thumbRight
  | thumbLeft
  | options
  | share
  | triggerRight
  | triggerLeft
  | shoulderRight
  | shoulderLeft
  | triangle
  | circle
  | cross
  | square
  deriving DecidableEq, Repr

inductive VigemDpadDirection where
  | north
  | northEast
  | east
  | southEast
  | south
  | southWest
  | west
  | northWest
  | none
  deriving DecidableEq, Repr

abbrev DS4Buttons := BitVec 16

structure Vigem where
  position : DS4Button → Nat
  position_range : ∀ button, 4 ≤ position button ∧ position button < 16
  position_injective : Function.Injective position
  new : DS4Buttons
  new_released : ∀ i : Fin 16, 4 ≤ i.val → new.getLsbD i = false

def VigemDpadDirection.nibble : VigemDpadDirection → DS4Buttons
  | .north => 0
  | .northEast => 1
  | .east => 2
  | .southEast => 3
  | .south => 4
  | .southWest => 5
  | .west => 6
  | .northWest => 7
  | .none => 8

def DS4Buttons.dpad (buttons : DS4Buttons) (direction : VigemDpadDirection) : DS4Buttons :=
  buttons &&& 0xfff0 ||| direction.nibble

def Vigem.constant (v : Vigem) (button : DS4Button) : DS4Buttons :=
  BitVec.twoPow 16 (v.position button)

def psHome : DS4Buttons := 1

def mapButtonToDs4 (v : Vigem) : Button → DS4Buttons
  | .thumbRight => v.constant .thumbRight
  | .thumbLeft => v.constant .thumbLeft
  | .options => v.constant .options
  | .share => v.constant .share
  | .triggerRight => v.constant .triggerRight
  | .triggerLeft => v.constant .triggerLeft
  | .shoulderRight => v.constant .shoulderRight
  | .shoulderLeft => v.constant .shoulderLeft
  | .triangle => v.constant .triangle
  | .circle => v.constant .circle
  | .cross => v.constant .cross
  | .square => v.constant .square
  | .psButton => psHome

def mapDpadDirectionToDs4 : DpadDirection → VigemDpadDirection
  | .north => .north
  | .northEast => .northEast
  | .east => .east
  | .southEast => .southEast
  | .south => .south
  | .southWest => .southWest
  | .west => .west
  | .northWest => .northWest
  | .none => .none

def act (v : Vigem) (buttons : DS4Buttons) : TouchAction → DS4Buttons
  | .button button => buttons ||| mapButtonToDs4 v button
  | .dpad direction => buttons.dpad (mapDpadDirectionToDs4 direction)

def processTouchReports (v : Vigem) (locateAtPoint : LocateAtPoint)
    (touchReports : List TouchReport) (touchConfig : Option TouchConfig)
    (buttons : DS4Buttons) : DS4Buttons :=
  match touchConfig with
  | some (.zones zones) =>
      touchReports.foldl (fun buttons touch =>
        match locateAtPoint zones (.of touch) with
        | none => buttons
        | some zone =>
            match zone.action with
            | none => buttons
            | some action => act v buttons action) buttons
  | _ => buttons

def selectConfig {ε : Type} (configName : String) : Except (Error ε) Config :=
  if configName = "standart" then .ok .rearRl2FrontRl3
  else if configName = "alt_triggers" then .ok .rearRl1FrontRl3VitatriggersRl2
  else if configName = "rear_touchpad" then .ok .frontTopRl2BottomRl3RearTouchpad
  else if configName = "front_touchpad" then .ok .rearTopRl2BottomRl3FrontTouchpad
  else .error (.invalidConfig configName)

def reportButtons (v : Vigem) (locateAtPoint : LocateAtPoint) (config : Config)
    (report : MainReport) : DS4Buttons :=
  let ds4Dpad := mapDpadDirectionToDs4 (computeDpadDirection report.buttons)
  let pressedButtons := getPressedButtons report.buttons config.triggerConfig
  let buttons := v.new.dpad ds4Dpad
  let buttons := pressedButtons.foldl
    (fun buttons button => buttons ||| mapButtonToDs4 v button) buttons
  let buttons := processTouchReports v locateAtPoint report.frontTouch.reports
    config.frontTouchConfig buttons
  processTouchReports v locateAtPoint report.backTouch.reports config.rearTouchConfig buttons

end VitaOxiPad.VirtualDevice.Windows
