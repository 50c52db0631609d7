import Mathlib.Algebra.Order.Ring.Nat
import VitaOxiPad.Device.Config
import VitaOxiPad.Device.Uinput
/-!
# The Linux driver

`vita_virtual_device/src/linux.rs`.  A report becomes events on four uinput
handles.  The driver writes what changed, so it remembers the buttons, the hat
and the touches of the report before; it does so before it writes, and a write
that fails ends the call.

A hash set is iterated in any order: a `HashOrder` is the order of one set.
-/

namespace VitaOxiPad.VirtualDevice.Linux

open SetChanges
open Client.VitaReports

abbrev TrackingId := UInt8

/-- `ε` is `std::io::Error`. -/
inductive Error (ε : Type) where
  | deviceCreationFailed (e : ε)
  | writeEventFailed (e : ε)
  | invalidConfig (name : String)
  deriving DecidableEq, Repr

def frontTouchpadMaxSlots : Nat := 6

def rearTouchpadMaxSlots : Nat := 4

def mapButtonToDs4 : Button → Key
  | .thumbRight => .buttonThumbr
  | .thumbLeft => .buttonThumbl
  | .options => .buttonStart
  | .share => .buttonSelect
  | .triggerRight => .buttonTR
  | .triggerLeft => .buttonTL
  | .shoulderRight => .buttonTR2
  | .shoulderLeft => .buttonTL2
  | .triangle => .buttonNorth
  | .circle => .buttonEast
  | .cross => .buttonSouth
  | .square => .buttonWest
  | .psButton => .buttonMode

def dpadDirectionToAxisValues : DpadDirection → Int × Int
  | .north => (0, -1)
  | .northEast => (1, -1)
  | .east => (1, 0)
  | .southEast => (1, 1)
  | .south => (0, 1)
  | .southWest => (-1, 1)
  | .west => (-1, 0)
  | .northWest => (-1, -1)
  | .none => (0, 0)

def processTouchReports (locateAtPoint : LocateAtPoint) (touchReports : List TouchReport) :
    Option TouchConfig → List TouchAction
  | some (.zones zones) =>
      touchReports.filterMap fun touch => (locateAtPoint zones (.of touch)).bind (·.action)
  | _ => []

def selectConfig {ε : Type} (configName : String) : Except (Error ε) Config :=
  if configName = "standart" then .ok .rearRl2FrontRl3
  else if configName = "alt_triggers" then .ok .rearRl1FrontRl3VitatriggersRl2
  else if configName = "rear_touchpad" then .ok .frontTopRl2BottomRl3RearTouchpad
  else if configName = "front_touchpad" then .ok .rearTopRl2BottomRl3FrontTouchpad
  else .error (.invalidConfig configName)

structure VitaDevice where
  config : Config
  previousFrontTouches : Vector (Option TrackingId) frontTouchpadMaxSlots
  previousRearTouches : Vector (Option TrackingId) rearTouchpadMaxSlots
  touchState : Bool
  previousButtons : Finset Button
  previousHatX : Int
  previousHatY : Int

def VitaDevice.new (config : Config) : VitaDevice where
  config := config
  previousFrontTouches := .replicate _ none
  previousRearTouches := .replicate _ none
  touchState := false
  previousButtons := ∅
  previousHatX := 0
  previousHatY := 0

/-! ## Events of a report -/

/-- The pressed buttons and the hat while the touch actions are gone through. -/
structure Pressed where
  buttons : Finset Button
  hatX : Int
  hatY : Int
  deriving DecidableEq

def Pressed.act (p : Pressed) : TouchAction → Pressed
  | .button button => { p with buttons := insert button p.buttons }
  | .dpad direction =>
      let (x, y) := dpadDirectionToAxisValues direction
      { p with hatX := x, hatY := y }

def touchActions (locateAtPoint : LocateAtPoint) (config : Config) (report : MainReport) :
    List TouchAction :=
  processTouchReports locateAtPoint report.frontTouch.reports config.frontTouchConfig ++
    processTouchReports locateAtPoint report.backTouch.reports config.rearTouchConfig

def pressed (locateAtPoint : LocateAtPoint) (config : Config) (report : MainReport) :
    Pressed :=
  let (hatX, hatY) := dpadDirectionToAxisValues (computeDpadDirection report.buttons)
  let buttons := (getPressedButtons report.buttons config.triggerConfig).toFinset
  (touchActions locateAtPoint config report).foldl Pressed.act ⟨buttons, hatX, hatY⟩

structure HashOrder where
  list : Finset Button → List Button
  enumerates : ∀ s, Enumerates (list s) s

def buttonEvents (state : KeyState) (buttons : List Button) : List InputEvent :=
  buttons.map fun button => .key (mapButtonToDs4 button) state

def dpadEvent (axis : AbsoluteAxis) (previous value : Int) : List InputEvent :=
  if value ≠ previous then [.absolute axis value] else []

def volumeEvent (isDown : Bool) (key : Key) : List InputEvent :=
  if isDown then [.key key .pressed, .key key .released] else []

def createStickEvents (report : MainReport) : List InputEvent :=
  [.absolute .x report.lx.toNat, .absolute .y report.ly.toNat,
    .absolute .rx report.rx.toNat, .absolute .ry report.ry.toNat]

/-- `f32_to_i16`, where `clamp` lets a NaN pass and `as` takes it to 0. -/
def f32ToI16 (value minValue maxValue : Float32) : Int16 :=
  let clampedValue :=
    if value < minValue then minValue else if maxValue < value then maxValue else value
  let normalizedValue := (clampedValue - minValue) / (maxValue - minValue)
  let scaledValue := normalizedValue * 65536 - 32768
  scaledValue.round.toInt16

def createMotionEvents (report : MainReport) : List InputEvent :=
  let accelerometer := report.motion.accelerometer
  let gyro := report.motion.gyro
  let accelX := f32ToI16 (-.ofBits accelerometer.x) (-4) 4
  let accelY := f32ToI16 (.ofBits accelerometer.y) (-4) 4
  let accelZ := f32ToI16 (-.ofBits accelerometer.z) (-4) 4
  let gyroX := f32ToI16 (.ofBits gyro.x) (-35) 35
  let gyroY := f32ToI16 (-.ofBits gyro.y) (-35) 35
  let gyroZ := f32ToI16 (.ofBits gyro.z) (-35) 35
  [.absolute .x accelX.toInt, .absolute .y accelZ.toInt, .absolute .z accelY.toInt,
    .absolute .rx gyroX.toInt, .absolute .ry gyroZ.toInt, .absolute .rz gyroY.toInt]

/-! ## Touch events -/

def asI32 (n : Nat) : Int := Int.bmod n (2 ^ 32)

/-- What `create_touch_events` builds and updates. -/
structure Touches (maxSlots : Nat) where
  events : List InputEvent
  previousTouches : Vector (Option TrackingId) maxSlots

def resetEvents (slot : Int) : List InputEvent :=
  [.absolute .multitouchSlot slot, .absolute .multitouchTrackingId (-1)]

def resetSlot {maxSlots : Nat} (touchReports : List TouchReport) (t : Touches maxSlots)
    (slot : Fin maxSlots) : Touches maxSlots :=
  let oldId := t.previousTouches[slot]
  let newId := touchReports[slot.val]?.map (·.id)
  if oldId.isSome && newId.isNone then
    { events := t.events ++ resetEvents (asI32 slot)
      previousTouches := t.previousTouches.set slot none }
  else t

def touchEvents (slot : Int) (touch : TouchReport) : List InputEvent :=
  [.absolute .multitouchSlot slot,
    .absolute .multitouchTrackingId touch.id.toNat,
    .absolute .multitouchPositionX touch.x.toNat,
    .absolute .multitouchPositionY touch.y.toNat,
    .absolute .multitouchPressure touch.force.toNat]

def updateSlots {maxSlots : Nat} (t : Touches maxSlots) (anyTouchActive : Bool) (slot : Nat) :
    List TouchReport → Touches maxSlots × Bool
  | [] => (t, anyTouchActive)
  | touch :: touchReports =>
      if h : slot < maxSlots then
        updateSlots
          { events := t.events ++ touchEvents (asI32 slot) touch
            previousTouches := t.previousTouches.set slot (some touch.id) }
          (anyTouchActive || decide (0 < touch.force)) (slot + 1) touchReports
      else (t, anyTouchActive)

def touchStateEvents (anyTouchActive touchState : Bool) : List InputEvent × Bool :=
  if anyTouchActive && !touchState then
    ([.key .buttonTouch .pressed, .key .buttonToolFinger .pressed], true)
  else if !anyTouchActive && touchState then
    ([.key .buttonTouch .released, .key .buttonToolFinger .released], false)
  else ([], touchState)

def createTouchEvents {maxSlots : Nat} (touchReports : List TouchReport)
    (previousTouches : Vector (Option TrackingId) maxSlots) (touchState : Bool) :
    Touches maxSlots × Bool :=
  let t := (List.finRange maxSlots).foldl (resetSlot touchReports) ⟨[], previousTouches⟩
  let (t, anyTouchActive) := updateSlots t false 0 touchReports
  let (stateEvents, touchState) := touchStateEvents anyTouchActive touchState
  ({ t with events := t.events ++ stateEvents }, touchState)

/-! ## `send_report` -/

inductive Handle where
  | main
  | keyboard
  | touchpad
  | sensor
  deriving DecidableEq, Repr

abbrev Write := Handle × List InputEvent

/-- A report, and what one call of `send_report` meets: the orders of the two set
differences, and the first write that fails. -/
structure Call (ε : Type) where
  report : MainReport
  pressOrder : HashOrder
  releaseOrder : HashOrder
  failure : Option (Nat × ε)

/-- The result of a call, the device after it, and what the handles have been given. -/
structure Sent (ε : Type) where
  result : Except (Error ε) Unit
  device : VitaDevice
  written : List Write

def mainEvents {ε : Type} (locateAtPoint : LocateAtPoint) (d : VitaDevice) (call : Call ε) :
    List InputEvent × VitaDevice :=
  let report := call.report
  let now := pressed locateAtPoint d.config report
  let buttonsToPress := call.pressOrder.list (now.buttons \ d.previousButtons)
  let buttonsToRelease := call.releaseOrder.list (d.previousButtons \ now.buttons)
  (buttonEvents .pressed buttonsToPress ++ buttonEvents .released buttonsToRelease ++
      (dpadEvent .hat0X d.previousHatX now.hatX ++ dpadEvent .hat0Y d.previousHatY now.hatY) ++
      createStickEvents report ++
      (volumeEvent report.buttons.volUp .volumeUp ++
        volumeEvent report.buttons.volDown .volumeDown),
    { d with
      previousButtons := now.buttons
      previousHatX := now.hatX
      previousHatY := now.hatY })

def touchpadWrites (d : VitaDevice) (report : MainReport) :
    List Write × VitaDevice :=
  match d.config.touchpadSource with
  | some .front =>
      let (t, touchState) :=
        createTouchEvents report.frontTouch.reports d.previousFrontTouches d.touchState
      ([(.touchpad, t.events), (.touchpad, [.synchronize])],
        { d with previousFrontTouches := t.previousTouches, touchState := touchState })
  | some .rear =>
      let (t, touchState) :=
        createTouchEvents report.backTouch.reports d.previousRearTouches d.touchState
      ([(.touchpad, t.events), (.touchpad, [.synchronize])],
        { d with previousRearTouches := t.previousTouches, touchState := touchState })
  | none => ([], d)

/-- The keyboard gets the main device's events too. -/
def mainWrites (events : List InputEvent) : List Write :=
  [(.main, events), (.main, [.synchronize]), (.keyboard, events), (.keyboard, [.synchronize])]

def sensorWrites (report : MainReport) : List Write :=
  [(.sensor, createMotionEvents report), (.sensor, [.synchronize])]

def sendReport {ε : Type} (locateAtPoint : LocateAtPoint) (d : VitaDevice) (call : Call ε) :
    Sent ε :=
  let (events, d₁) := mainEvents locateAtPoint d call
  let (touchWrites, d₂) := touchpadWrites d₁ call.report
  let writes := mainWrites events ++ touchWrites ++ sensorWrites call.report
  match call.failure with
  | none => ⟨.ok (), d₂, writes⟩
  | some (n, e) =>
      if n < writes.length then
        -- The touches are only looked at when the writes before have succeeded.
        let device := if n < (mainWrites events).length then d₁ else d₂
        ⟨.error (.writeEventFailed e), device, writes.take n⟩
      else ⟨.ok (), d₂, writes⟩

end VitaOxiPad.VirtualDevice.Linux
