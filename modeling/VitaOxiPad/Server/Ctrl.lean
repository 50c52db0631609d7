import VitaOxiPad.NetProtocol
/-!
# Reading the controller

`server/src/ctrl.cpp`: `get_ctrl` reads the buttons until they are newer than
the last reading, then the touch panels and the motion sensors, and
`ctrl_as_netprotocol` makes a `Pad` table of what was read.
-/

namespace VitaOxiPad.Server

open NetProtocol (Single)

structure SceCtrlData where
  timeStamp : UInt64
  buttons : UInt32
  lx : UInt8
  ly : UInt8
  rx : UInt8
  ry : UInt8
  deriving DecidableEq, Repr

structure SceTouchReport where
  id : UInt8
  force : UInt8
  x : Int16
  y : Int16
  deriving DecidableEq, Repr

/-- The first `reportNum` entries of `report`. -/
structure SceTouchData where
  report : List SceTouchReport
  deriving DecidableEq, Repr

structure SceMotionState where
  acceleration : NetProtocol.Vector3
  angularVelocity : NetProtocol.Vector3
  deriving DecidableEq, Repr

inductive SceCtrl where
  | select | start | up | right | down | left | ltrigger | rtrigger
  | triangle | circle | cross | square | psbutton | volup | voldown
  deriving DecidableEq, Repr

def SceCtrl.mask : SceCtrl → UInt32
  | select => 0x1
  | start => 0x8
  | up => 0x10
  | right => 0x20
  | down => 0x40
  | left => 0x80
  | ltrigger => 0x100
  | rtrigger => 0x200
  | triangle => 0x1000
  | circle => 0x2000
  | cross => 0x4000
  | square => 0x8000
  | psbutton => 0x10000
  | volup => 0x100000
  | voldown => 0x200000

def SceCtrlData.pressed (data : SceCtrlData) (button : SceCtrl) : Bool :=
  0 < data.buttons &&& button.mask

def convertPadData (data : SceCtrlData) : NetProtocol.ButtonsData where
  select := data.pressed .select
  start := data.pressed .start
  up := data.pressed .up
  right := data.pressed .right
  down := data.pressed .down
  left := data.pressed .left
  lt := data.pressed .ltrigger
  rt := data.pressed .rtrigger
  triangle := data.pressed .triangle
  circle := data.pressed .circle
  cross := data.pressed .cross
  square := data.pressed .square
  volUp := data.pressed .volup
  volDown := data.pressed .voldown
  ps := data.pressed .psbutton

def convertTouchData (data : SceTouchData) : NetProtocol.TouchData where
  reports := some <| data.report.map fun report =>
    { pressure := report.force
      id := report.id
      x := report.x.toUInt16
      y := report.y.toUInt16 }

/-- The structures `get_ctrl` fills in, and its `last_ts`. -/
structure CtrlState where
  pad : SceCtrlData
  motion : SceMotionState
  touchFront : SceTouchData
  touchBack : SceTouchData
  lastTs : UInt64
  deriving DecidableEq, Repr

/-- What one call of `get_ctrl` is given: the first reading and its result, the
readings of further tries, the touch panels and the motion sensors. -/
structure CtrlRead where
  result : Int32
  pad : SceCtrlData
  retries : List SceCtrlData
  touchFront : SceTouchData
  touchBack : SceTouchData
  motion : SceMotionState
  deriving DecidableEq, Repr

/-- `get_ctrl`; `none` if it is still trying when the readings end. -/
def getCtrl (s : CtrlState) (read : CtrlRead) : Option CtrlState :=
  if read.result < 0 then some { s with pad := read.pad }
  else
    (read.pad :: read.retries).find? (fun pad => s.lastTs < pad.timeStamp) |>.map fun pad =>
      { pad := pad
        motion := read.motion
        touchFront := read.touchFront
        touchBack := read.touchBack
        lastTs := pad.timeStamp }

def ctrlAsNetprotocol (s : CtrlState) (batteryLevel : Int32) : NetProtocol.Pad where
  buttons := some (convertPadData s.pad)
  lx := s.pad.lx
  ly := s.pad.ly
  rx := s.pad.rx
  ry := s.pad.ry
  frontTouch := some (convertTouchData s.touchFront)
  backTouch := some (convertTouchData s.touchBack)
  motion := some ⟨s.motion.angularVelocity, s.motion.acceleration⟩
  timestamp := s.pad.timeStamp
  chargePercent := batteryLevel.toUInt32.toUInt8

end VitaOxiPad.Server
