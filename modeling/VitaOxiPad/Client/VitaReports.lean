import VitaOxiPad.NetProtocol
/-!
# Controller reports

`vita_reports/src/lib.rs`: the report the client works with and its conversion
from a received `Pad` table, which fails when a required part is absent.
-/

namespace VitaOxiPad.Client.VitaReports

open NetProtocol (Single)

structure ButtonsData where
  select : Bool
  start : Bool
  up : Bool
  right : Bool
  down : Bool
  left : Bool
  lt : Bool
  rt : Bool
  triangle : Bool
  circle : Bool
  cross : Bool
  square : Bool
  volUp : Bool
  volDown : Bool
  ps : Bool
  deriving DecidableEq, Repr

def ButtonsData.from (buttons : NetProtocol.ButtonsData) : ButtonsData where
  select := buttons.select
  start := buttons.start
  up := buttons.up
  right := buttons.right
  down := buttons.down
  left := buttons.left
  lt := buttons.lt
  rt := buttons.rt
  triangle := buttons.triangle
  circle := buttons.circle
  cross := buttons.cross
  square := buttons.square
  volUp := buttons.volUp
  volDown := buttons.volDown
  ps := buttons.ps

structure Vector3 where
  x : Single
  y : Single
  z : Single
  deriving DecidableEq, Repr

def Vector3.from (vector : NetProtocol.Vector3) : Vector3 where
  x := vector.x
  y := vector.y
  z := vector.z

structure MotionData where
  gyro : Vector3
  accelerometer : Vector3
  deriving DecidableEq, Repr

def MotionData.from (motion : NetProtocol.MotionData) : MotionData where
  gyro := .from motion.gyro
  accelerometer := .from motion.accelerometer

structure TouchReport where
  x : UInt16
  y : UInt16
  id : UInt8
  force : UInt8
  deriving DecidableEq, Repr

def TouchReport.from (touch : NetProtocol.TouchReport) : TouchReport where
  x := touch.x
  y := touch.y
  id := touch.id
  force := touch.pressure

structure TouchData where
  reports : List TouchReport
  deriving DecidableEq, Repr

def TouchData.from (touch : NetProtocol.TouchData) : TouchData where
  reports := (touch.reports.getD []).map .from

structure MainReport where
  buttons : ButtonsData
  lx : UInt8
  ly : UInt8
  rx : UInt8
  ry : UInt8
  frontTouch : TouchData
  backTouch : TouchData
  motion : MotionData
  timestamp : UInt64
  chargePercent : UInt8
  deriving DecidableEq, Repr

def MainReport.tryFrom (packet : NetProtocol.Pad) : Except String MainReport := do
  let buttons ← packet.buttons.elim (throw "Buttons data is missing") pure
  let frontTouch ← packet.frontTouch.elim (throw "Front touch data is missing") pure
  let backTouch ← packet.backTouch.elim (throw "Back touch data is missing") pure
  let motion ← packet.motion.elim (throw "Motion data is missing") pure
  return {
    buttons := .from buttons
    frontTouch := .from frontTouch
    backTouch := .from backTouch
    motion := .from motion
    timestamp := packet.timestamp
    lx := packet.lx
    ly := packet.ly
    rx := packet.rx
    ry := packet.ry
    chargePercent := packet.chargePercent }

/-- The report has the table's values, and no required part was absent. -/
structure Carries (packet : NetProtocol.Pad) (data : MainReport) : Prop where
  buttons : packet.buttons.map .from = some data.buttons
  frontTouch : packet.frontTouch.map .from = some data.frontTouch
  backTouch : packet.backTouch.map .from = some data.backTouch
  motion : packet.motion.map .from = some data.motion
  timestamp : packet.timestamp = data.timestamp
  lx : packet.lx = data.lx
  ly : packet.ly = data.ly
  rx : packet.rx = data.rx
  ry : packet.ry = data.ry
  chargePercent : packet.chargePercent = data.chargePercent

theorem tryFrom_eq_ok_iff (packet : NetProtocol.Pad) (data : MainReport) :
    MainReport.tryFrom packet = .ok data ↔ Carries packet data := by
  obtain ⟨buttons, lx, ly, rx, ry, front, back, motion, timestamp, charge⟩ := packet
  constructor
  · intro h
    cases buttons with
    | none => cases h
    | some buttons =>
    cases front with
    | none => cases h
    | some front =>
    cases back with
    | none => cases h
    | some back =>
    cases motion with
    | none => cases h
    | some motion =>
    cases h
    constructor <;> rfl
  · obtain ⟨_, _, _, _, _, _, _, _, _, _⟩ := data
    rintro ⟨hbuttons, hfront, hback, hmotion, rfl, rfl, rfl, rfl, rfl, rfl⟩
    obtain ⟨buttons, rfl, rfl⟩ := Option.map_eq_some_iff.mp hbuttons
    obtain ⟨front, rfl, rfl⟩ := Option.map_eq_some_iff.mp hfront
    obtain ⟨back, rfl, rfl⟩ := Option.map_eq_some_iff.mp hback
    obtain ⟨motion, rfl, rfl⟩ := Option.map_eq_some_iff.mp hmotion
    rfl

end VitaOxiPad.Client.VitaReports
