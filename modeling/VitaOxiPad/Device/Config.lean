import VitaOxiPad.Client.VitaReports
/-!
# Configurations of the virtual device

`vita_virtual_device/src`, the parts that both platform drivers use: buttons,
touch zones, the named configurations, and what is pressed in a report.  An
R-tree is the list of the zones it is loaded with.
-/

namespace VitaOxiPad.VirtualDevice

open Client.VitaReports

inductive Button where
  | thumbRight
  | thumbLeft
  | options
  | share
  | triggerRight
  | triggerLeft
  | shoulderRight
  | shoulderLeft
  | triangle
  | circle
  | cross
  | square
  | psButton
  deriving DecidableEq, Repr

inductive DpadDirection where
  | north
  | northEast
  | east
  | southEast
  | south
  | southWest
  | west
  | northWest
  | none
  deriving DecidableEq, Repr

structure Point where
  x : Int
  y : Int
  deriving DecidableEq, Repr

inductive TouchAction where
  | dpad (direction : DpadDirection)
  | button (button : Button)
  deriving DecidableEq, Repr

/-- `Rectangle<Point>`, its corners in order. -/
structure Rectangle where
  lower : Point
  upper : Point
  deriving DecidableEq, Repr

def Rectangle.fromCorners (p q : Point) : Rectangle :=
  ⟨⟨min p.x q.x, min p.y q.y⟩, ⟨max p.x q.x, max p.y q.y⟩⟩

structure TouchZone where
  rect : Rectangle
  action : Option TouchAction
  deriving DecidableEq, Repr

def TouchZone.new (rect : Point × Point) (action : Option TouchAction) : TouchZone :=
  ⟨.fromCorners rect.1 rect.2, action⟩

/-- `RTree::locate_at_point`: of several zones at a point the tree picks one. -/
abbrev LocateAtPoint := List TouchZone → Point → Option TouchZone

inductive TouchConfig where
  | zones (zones : List TouchZone)
  | touchpad
  deriving DecidableEq, Repr

inductive TriggerConfig where
  | shoulder
  | trigger
  deriving DecidableEq, Repr

inductive TouchpadSource where
  | front
  | rear
  deriving DecidableEq, Repr

structure Config where
  frontTouchConfig : Option TouchConfig
  rearTouchConfig : Option TouchConfig
  triggerConfig : TriggerConfig
  touchpadSource : Option TouchpadSource
  deriving DecidableEq, Repr

def frontTouchpadRect : Point × Point := (⟨0, 0⟩, ⟨1920, 1087⟩)

def rearTouchpadRect : Point × Point := (⟨0, 0⟩, ⟨1920, 887⟩)

def halves (rect : Point × Point) (left right : Button) : List TouchZone :=
  [.new (rect.1, ⟨rect.2.x / 2, rect.2.y⟩) (some (.button left)),
    .new (⟨rect.2.x / 2, rect.1.x⟩, rect.2) (some (.button right))]

def quarters (rect : Point × Point) (upperLeft upperRight lowerLeft lowerRight : Button) :
    List TouchZone :=
  [.new (rect.1, ⟨rect.2.x / 2, rect.2.y / 2⟩) (some (.button upperLeft)),
    .new (⟨rect.2.x / 2, rect.1.y⟩, ⟨rect.2.x, rect.2.y / 2⟩) (some (.button upperRight)),
    .new (⟨rect.1.x, rect.2.y / 2⟩, ⟨rect.2.x / 2, rect.2.y⟩) (some (.button lowerLeft)),
    .new (⟨rect.2.x / 2, rect.2.y / 2⟩, rect.2) (some (.button lowerRight))]

namespace Config

def rearRl2FrontRl3 : Config where
  rearTouchConfig := some (.zones (halves rearTouchpadRect .shoulderLeft .shoulderRight))
  frontTouchConfig := some (.zones (halves frontTouchpadRect .thumbLeft .thumbRight))
  triggerConfig := .trigger
  touchpadSource := none

def rearRl1FrontRl3VitatriggersRl2 : Config where
  rearTouchConfig := some (.zones (halves rearTouchpadRect .triggerLeft .triggerRight))
  frontTouchConfig := some (.zones (halves frontTouchpadRect .thumbLeft .thumbRight))
  triggerConfig := .shoulder
  touchpadSource := none

def frontTopRl2BottomRl3RearTouchpad : Config where
  frontTouchConfig := some (.zones
    (quarters frontTouchpadRect .shoulderLeft .shoulderRight .thumbLeft .thumbRight))
  rearTouchConfig := some .touchpad
  triggerConfig := .trigger
  touchpadSource := some .rear

def rearTopRl2BottomRl3FrontTouchpad : Config where
  frontTouchConfig := some .touchpad
  rearTouchConfig := some (.zones
    (quarters rearTouchpadRect .shoulderLeft .shoulderRight .thumbLeft .thumbRight))
  triggerConfig := .trigger
  touchpadSource := some .front

end Config

def computeDpadDirection (buttons : ButtonsData) : DpadDirection :=
  match buttons.up, buttons.down, buttons.left, buttons.right with
  | true, false, false, false => .north
  | true, false, true, false => .northWest
  | true, false, false, true => .northEast
  | false, true, false, false => .south
  | false, true, true, false => .southWest
  | false, true, false, true => .southEast
  | false, false, true, false => .west
  | false, false, false, true => .east
  | _, _, _, _ => .none

def getPressedButtons (reportButtons : ButtonsData) (triggerConfig : TriggerConfig) :
    List Button :=
  let buttons := [
    (reportButtons.circle, Button.circle),
    (reportButtons.square, Button.square),
    (reportButtons.cross, Button.cross),
    (reportButtons.triangle, Button.triangle),
    (reportButtons.start, Button.options),
    (reportButtons.select, Button.share),
    (reportButtons.ps, Button.psButton)] ++
    match triggerConfig with
    | .shoulder =>
        [(reportButtons.lt, Button.shoulderLeft), (reportButtons.rt, Button.shoulderRight)]
    | .trigger =>
        [(reportButtons.lt, Button.triggerLeft), (reportButtons.rt, Button.triggerRight)]
  buttons.filterMap fun entry => if entry.1 then some entry.2 else none

def Point.of (touch : TouchReport) : Point := ⟨touch.x.toNat, touch.y.toNat⟩

end VitaOxiPad.VirtualDevice
