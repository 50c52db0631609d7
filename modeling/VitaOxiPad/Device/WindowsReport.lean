import VitaOxiPad.Device.LinuxDevices
import VitaOxiPad.Device.TouchClick
/-!
# The whole report of the Windows driver

`vita_virtual_device/src/windows.rs`: all that `send_report` gives to the emulated
DualShock 4 and to the keyboard, and `set_config`.  A call that fails ends the client.
-/

namespace VitaOxiPad.VirtualDevice.Windows

open SetChanges
open Client.VitaReports
open Linux (ConfigBuilder f32ToI16)

inductive VirtualKey where
  | volumeDown
  | volumeUp
  deriving DecidableEq, Repr

structure DS4TouchPoint where
  x : UInt16
  y : UInt16
  deriving DecidableEq, Repr

structure DS4TouchReport where
  timestamp : UInt8
  first : Option DS4TouchPoint
  second : Option DS4TouchPoint
  deriving DecidableEq, Repr

/-- What the driver sets of a `DS4ReportEx`. -/
structure DS4ReportEx where
  thumbLx : UInt8
  thumbLy : UInt8
  thumbRx : UInt8
  thumbRy : UInt8
  buttons : DS4Buttons
  touchReport : Option DS4TouchReport
  gyroX : Int16
  gyroY : Int16
  gyroZ : Int16
  accelX : Int16
  accelY : Int16
  accelZ : Int16
  triggerL : UInt8
  triggerR : UInt8
  /-- `BatteryStatus::Charging`. -/
  charging : UInt8
  special : DS4SpecialButtons
  deriving DecidableEq, Repr

/-! ## Parts of the report -/

/-- A touch of a panel whose greatest y is that of the rectangle. -/
def touchPoint (rect : Point × Point) (touch : TouchReport) : DS4TouchPoint where
  x := touch.x
  y := (touch.y.toFloat32 * (942 / Float32.ofInt rect.2.y)).toUInt16

def touchReport (rect : Point × Point) (touchReports : List TouchReport) : DS4TouchReport :=
  let points := touchReports.map (touchPoint rect)
  ⟨0, points[0]?, points[1]?⟩

def createTouchpadReport (config : Config) (report : MainReport) : Option DS4TouchReport :=
  match config.frontTouchConfig with
  | some .touchpad => some (touchReport frontTouchpadRect report.frontTouch.reports)
  | _ =>
      match config.rearTouchConfig with
      | some .touchpad => some (touchReport rearTouchpadRect report.backTouch.reports)
      | _ => none

def pwrTrigger (buttons constant : DS4Buttons) : UInt8 :=
  if buttons ||| constant = buttons then 255 else 0

def buildReport (v : Vigem) (config : Config) (report : MainReport) (built : DS4Report) :
    DS4ReportEx :=
  let accelerometer := report.motion.accelerometer
  let gyro := report.motion.gyro
  let accelX := f32ToI16 (-.ofBits accelerometer.x) (-4) 4
  let accelY := f32ToI16 (.ofBits accelerometer.y) (-4) 4
  let accelZ := f32ToI16 (-.ofBits accelerometer.z) (-4) 4
  let gyroX := f32ToI16 (.ofBits gyro.x) (-35) 35
  let gyroY := f32ToI16 (-.ofBits gyro.y) (-35) 35
  let gyroZ := f32ToI16 (.ofBits gyro.z) (-35) 35
  { thumbLx := report.lx
    thumbLy := report.ly
    thumbRx := report.rx
    thumbRy := report.ry
    buttons := built.buttons
    touchReport := createTouchpadReport config report
    gyroX := gyroX
    gyroY := gyroZ
    gyroZ := gyroY
    accelX := accelX
    accelY := accelZ
    accelZ := accelY
    triggerL := pwrTrigger built.buttons (v.constant .triggerLeft)
    triggerR := pwrTrigger built.buttons (v.constant .triggerRight)
    charging := min (report.chargePercent / 10) 10
    special := built.special }

/-! ## `send_report` and `set_config` -/

/-- A report, and what one call of `send_report` meets: the clock, how many events
`SendInput` puts in for each volume key, and what becomes of the update. -/
structure Call (ε : Type) where
  report : MainReport
  now : Instant
  volumeUp : Nat
  volumeDown : Nat
  update : Except ε Unit

inductive Stop (ε : Type) where
  | panic
  | error (e : Error ε)

/-- `change_volume_by_key(..).expect(..)`, if the button is pressed.  It is enough for
`simulate_key_press` that `SendInput` has put in one of the two events. -/
def changeVolumeByKey {ε : Type} (isDown : Bool) (inserted : Nat) (key : VirtualKey) :
    Except (Stop ε) (List (Change VirtualKey)) :=
  if isDown then
    if inserted = 0 then .error .panic else .ok ((tap key).take inserted)
  else .ok []

def setConfig (config : Config) (builder : ConfigBuilder) : Config :=
  Linux.setConfig config builder

inductive Request (ε : Type) where
  | setConfig (builder : ConfigBuilder)
  | sendReport (call : Call ε)

/-- The driver, what it has put into the keyboard, and the last report of its target. -/
structure Emulation where
  driver : VitaDevice
  keyboard : List (Change VirtualKey)
  target : Option DS4ReportEx

namespace Emulation

variable {ε : Type}

def new (config : Config) : Emulation := ⟨.withConfig config, [], none⟩

def sendReport (v : Vigem) (locateAtPoint : LocateAtPoint) (s : Emulation) (call : Call ε) :
    Except (Stop ε) Emulation :=
  match changeVolumeByKey call.report.buttons.volUp call.volumeUp .volumeUp with
  | .error stop => .error stop
  | .ok up =>
      match changeVolumeByKey call.report.buttons.volDown call.volumeDown .volumeDown with
      | .error stop => .error stop
      | .ok down =>
          let (built, driver) := s.driver.sendReport v locateAtPoint call.now call.report
          let report := buildReport v s.driver.config call.report built
          match call.update with
          | .error e => .error (.error (.sendReportFailed e))
          | .ok _ => .ok ⟨driver, s.keyboard ++ up ++ down, some report⟩

def step (v : Vigem) (locateAtPoint : LocateAtPoint) (s : Emulation) :
    Request ε → Except (Stop ε) Emulation
  | .setConfig builder =>
      .ok { s with driver := { s.driver with config := setConfig s.driver.config builder } }
  | .sendReport call => s.sendReport v locateAtPoint call

def run (v : Vigem) (locateAtPoint : LocateAtPoint) (config : Config)
    (requests : List (Request ε)) : Except (Stop ε) Emulation :=
  StepRun.run (step v locateAtPoint) (.new config) requests

end Emulation

/-! ## What a call does -/

section

variable {ε : Type} {v : Vigem} {locateAtPoint : LocateAtPoint} {s t : Emulation}
  {call : Call ε}

theorem changeVolumeByKey_ok {isDown : Bool} {inserted : Nat} {key : VirtualKey}
    {changes : List (Change VirtualKey)}
    (h : (changeVolumeByKey isDown inserted key : Except (Stop ε) _) = .ok changes) :
    changes = if isDown then (tap key).take inserted else [] := by
  unfold changeVolumeByKey at h
  split_ifs at h with hdown hinserted
  · cases h
    rw [if_pos hdown]
  · cases h
    rw [if_neg hdown]

def Call.keyboard (call : Call ε) : List (Change VirtualKey) :=
  (if call.report.buttons.volUp then (tap .volumeUp).take call.volumeUp else []) ++
    if call.report.buttons.volDown then (tap .volumeDown).take call.volumeDown else []

theorem sendReport_eq_ok (h : s.step v locateAtPoint (.sendReport call) = .ok t) :
    t.driver = (s.driver.sendReport v locateAtPoint call.now call.report).2 ∧
      t.keyboard = s.keyboard ++ call.keyboard ∧
      t.target = some (buildReport v s.driver.config call.report
        (s.driver.sendReport v locateAtPoint call.now call.report).1) := by
  simp only [Emulation.step, Emulation.sendReport] at h
  split at h
  · cases h
  · rename_i up hup
    split at h
    · cases h
    · rename_i down hdown
      split at h
      · cases h
      · cases h
        refine ⟨rfl, ?_, rfl⟩
        rw [changeVolumeByKey_ok hup, changeVolumeByKey_ok hdown, List.append_assoc]
        rfl

theorem config_sendReport (h : s.step v locateAtPoint (.sendReport call) = .ok t) :
    t.driver.config = s.driver.config := by
  rw [(sendReport_eq_ok h).1]
  rfl

end

/-! ## Buttons and constants -/

theorem or_twoPow_eq_iff (buttons : DS4Buttons) {i : Nat} (hi : i < 16) :
    buttons ||| BitVec.twoPow 16 i = buttons ↔ buttons.getLsbD i = true := by
  constructor
  · intro h
    rw [← h, BitVec.getLsbD_or, BitVec.getLsbD_twoPow]
    simp [hi]
  · intro h
    apply BitVec.eq_of_getLsbD_eq
    intro j hj
    rw [BitVec.getLsbD_or, BitVec.getLsbD_twoPow]
    by_cases hij : i = j
    · subst hij
      simp [h, hi]
    · simp [hij]

theorem pwrTrigger_eq (v : Vigem) (buttons : DS4Buttons) (button : DS4Button) :
    pwrTrigger buttons (v.constant button) =
      if buttons.getLsbD (v.position button) = true then 255 else 0 := by
  unfold pwrTrigger Vigem.constant
  simp only [or_twoPow_eq_iff buttons (v.position_range button).2]

end VitaOxiPad.VirtualDevice.Windows
