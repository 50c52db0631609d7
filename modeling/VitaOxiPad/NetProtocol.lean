import Mathlib.Init
/-!
# The wire schema

The tables, structs and enumerations of `common/netprotocol.fbs`, as the
accessors that flatc generates for it present them: a scalar field always has a
value, a struct or table field of a table may be absent.
-/

namespace VitaOxiPad.NetProtocol

/-- `enum Endpoint : ubyte`.  The accessors hand on any byte. -/
inductive Endpoint where
  | client
  | server
  | unknown (tag : UInt8)
  deriving DecidableEq, Repr

structure Handshake where
  endpoint : Endpoint
  port : UInt16
  heartbeatFreq : UInt32
  deriving DecidableEq, Repr

structure Config where
  pollingInterval : UInt64
  deriving DecidableEq, Repr

structure ButtonsData where
  select : Bool
  start : Bool
  up : Bool
  right : Bool
  down : Bool
  left : Bool
  lt : Bool
  rt : Bool
  triangle : Bool
  circle : Bool
  cross : Bool
  square : Bool
  volUp : Bool
  volDown : Bool
  ps : Bool
  deriving DecidableEq, Repr

/-- A 32-bit float as its bit pattern: the protocol only carries it. -/
abbrev Single := UInt32

structure Vector3 where
  x : Single
  y : Single
  z : Single
  deriving DecidableEq, Repr

structure MotionData where
  gyro : Vector3
  accelerometer : Vector3
  deriving DecidableEq, Repr

structure TouchReport where
  pressure : UInt8
  id : UInt8
  x : UInt16
  y : UInt16
  deriving DecidableEq, Repr

structure TouchData where
  reports : Option (List TouchReport)
  deriving DecidableEq, Repr

structure Pad where
  buttons : Option ButtonsData
  lx : UInt8
  ly : UInt8
  rx : UInt8
  ry : UInt8
  frontTouch : Option TouchData
  backTouch : Option TouchData
  motion : Option MotionData
  timestamp : UInt64
  chargePercent : UInt8
  deriving DecidableEq, Repr

/-- The tag of `union PacketContent`.  The accessors hand on any byte. -/
inductive PacketContent where
  | none
  | config
  | handshake
  | pad
  | unknown (tag : UInt8)
  deriving DecidableEq, Repr

def PacketContent.ofTag : UInt8 → PacketContent
  | 0 => .none
  | 1 => .config
  | 2 => .handshake
  | 3 => .pad
  | tag => .unknown tag

/-- `heartbeat_magic` of the server and `HEARTBEAT_MAGIC` of the client. -/
def heartbeatMagic : List UInt8 := [0xff, 0xff, 0xff, 0xff, 0x42, 0x54]

@[simp] theorem length_heartbeatMagic : heartbeatMagic.length = 6 := rfl

/-! ## Finished packets

Builder output for a few arguments, byte for byte.
-/

/-- A client handshake with port 1234 and heartbeat frequency 1000. -/
def handshakePacket : List UInt8 :=
  [48, 0, 0, 0, 12, 0, 0, 0, 8, 0, 14, 0, 7, 0, 8, 0, 8, 0, 0, 0, 0, 0, 0, 2, 16, 0, 0, 0,
    0, 0, 10, 0, 12, 0, 0, 0, 6, 0, 8, 0, 10, 0, 0, 0, 0, 0, 210, 4, 232, 3, 0, 0]

/-- A configuration with a polling interval of 10000. -/
def configPacket : List UInt8 :=
  [44, 0, 0, 0, 12, 0, 0, 0, 8, 0, 14, 0, 7, 0, 8, 0, 8, 0, 0, 0, 0, 0, 0, 1, 12, 0, 0, 0,
    0, 0, 6, 0, 12, 0, 4, 0, 6, 0, 0, 0, 16, 39, 0, 0, 0, 0, 0, 0]

/-- A pad in use: buttons, both sticks, touches on both panels and motion.  Its timestamp is
2816 and the byte given. -/
def padPacket (low : UInt8) : List UInt8 :=
  [164, 0, 0, 0, 16, 0, 0, 0, 0, 0, 0, 0, 8, 0, 12, 0, 7, 0, 8, 0, 8, 0, 0, 0, 0, 0, 0, 3, 28,
    0, 0, 0, 24, 0, 64, 0, 9, 0, 4, 0, 5, 0, 6, 0, 7, 0, 24, 0, 28, 0, 32, 0, 56, 0, 8, 0, 24,
    0, 0, 0, 16, 96, 144, 240, 87, 0, 1, 0, 0, 0, 1, 0, 1, 0, 1, 0, 1, 1, 0, 0, 64, 0, 0, 0, 36,
    0, 0, 0, 0, 0, 0, 63, 0, 0, 128, 191, 0, 0, 0, 64, 0, 0, 128, 62, 0, 0, 128, 63, 0, 0, 0,
    193] ++
  low :: [11, 0, 0, 0, 0, 0, 0, 238, 255, 255, 255, 4, 0, 0, 0, 1, 0, 0, 0, 60, 5, 200, 0, 132,
    3, 6, 0, 8, 0, 4, 0, 6, 0, 0, 0, 4, 0, 0, 0, 2, 0, 0, 0, 40, 3, 244, 1, 44, 1, 50, 4, 120,
    5, 32, 3]

def handshakeTable : Handshake := ⟨.client, 1234, 1000⟩

def configTable : Config := ⟨10000⟩

def padTable (low : UInt8) : Pad where
  buttons := some
    { select := false, start := true, up := false, right := false, down := false, left := true
      lt := false, rt := true, triangle := false, circle := true, cross := false
      square := true, volUp := true, volDown := false, ps := false }
  lx := 16
  ly := 96
  rx := 144
  ry := 240
  frontTouch := some ⟨some [⟨40, 3, 500, 300⟩, ⟨50, 4, 1400, 800⟩]⟩
  backTouch := some ⟨some [⟨60, 5, 200, 900⟩]⟩
  motion := some ⟨⟨0x3f000000, 0xbf800000, 0x40000000⟩, ⟨0x3e800000, 0x3f800000, 0xc1000000⟩⟩
  timestamp := 2816 + low.toUInt64
  chargePercent := 87

end VitaOxiPad.NetProtocol
