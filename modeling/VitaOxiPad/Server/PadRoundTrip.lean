import VitaOxiPad.Client.PadDelivery
import VitaOxiPad.Server.NetThread
/-!
# A pad's way to the client

`ctrl_as_netprotocol` hands some thirty values to constructors by position, and
`MainReport::try_from` takes them from accessors by name.  What the client has in
the end is what the console has measured.
-/

namespace VitaOxiPad

open Client (next declaredSize)
open Client.VitaReports (MainReport)
open Server

def Client.VitaReports.ButtonsData.pressed (buttons : ButtonsData) : SceCtrl → Bool
  | .select => buttons.select
  | .start => buttons.start
  | .up => buttons.up
  | .right => buttons.right
  | .down => buttons.down
  | .left => buttons.left
  | .ltrigger => buttons.lt
  | .rtrigger => buttons.rt
  | .triangle => buttons.triangle
  | .circle => buttons.circle
  | .cross => buttons.cross
  | .square => buttons.square
  | .psbutton => buttons.ps
  | .volup => buttons.volUp
  | .voldown => buttons.volDown

structure SameTouch (touch : Client.VitaReports.TouchReport) (report : SceTouchReport) :
    Prop where
  id : touch.id = report.id
  force : touch.force = report.force
  x : touch.x = report.x.toUInt16
  y : touch.y = report.y.toUInt16

structure SameVector (vector : Client.VitaReports.Vector3) (measured : NetProtocol.Vector3) :
    Prop where
  x : vector.x = measured.x
  y : vector.y = measured.y
  z : vector.z = measured.z

structure Measured (s : CtrlState) (batteryLevel : Int32) (report : MainReport) : Prop where
  buttons : ∀ button, report.buttons.pressed button = true ↔ s.pad.buttons &&& button.mask ≠ 0
  lx : report.lx = s.pad.lx
  ly : report.ly = s.pad.ly
  rx : report.rx = s.pad.rx
  ry : report.ry = s.pad.ry
  timestamp : report.timestamp = s.pad.timeStamp
  chargePercent : (report.chargePercent.toNat : Int) = batteryLevel.toInt
  gyro : SameVector report.motion.gyro s.motion.angularVelocity
  accelerometer : SameVector report.motion.accelerometer s.motion.acceleration
  frontTouch : List.Forall₂ SameTouch report.frontTouch.reports s.touchFront.report
  backTouch : List.Forall₂ SameTouch report.backTouch.reports s.touchBack.report

/-- A finished packet that decodes to the table it was built from. -/
structure Decodes {ε : Type} (client : Client.Flatbuffers ε) (packet : List UInt8)
    (pad : NetProtocol.Pad) : Prop where
  size_prefixed : packet.length = declaredSize packet + 4
  nonempty : 0 < declaredSize packet
  short : packet.length < 2 ^ 31
  content : ∃ decoded, client.sizePrefixedRootAsPacket packet = .ok decoded ∧
    decoded.contentType = .pad ∧ decoded.contentAsPad = some pad

/-! ## Field by field -/

theorem pressed_iff (data : SceCtrlData) (button : SceCtrl) :
    data.pressed button = true ↔ data.buttons &&& button.mask ≠ 0 := by
  rw [SceCtrlData.pressed, decide_eq_true_iff, UInt32.pos_iff_ne_zero]

theorem pressed_convertPadData (data : SceCtrlData) (button : SceCtrl) :
    (Client.VitaReports.ButtonsData.from (convertPadData data)).pressed button =
      data.pressed button := by
  cases button <;> rfl

theorem sameTouch_convertTouchData (data : SceTouchData) :
    List.Forall₂ SameTouch
      (Client.VitaReports.TouchData.from (convertTouchData data)).reports data.report := by
  obtain ⟨report⟩ := data
  induction report with
  | nil => exact .nil
  | cons touch report ih => exact .cons ⟨rfl, rfl, rfl, rfl⟩ ih

/-- A percentage is not cut by the byte that carries it. -/
theorem chargePercent_eq {batteryLevel : Int32} (hlo : 0 ≤ batteryLevel)
    (hhi : batteryLevel ≤ 255) :
    (batteryLevel.toUInt32.toUInt8.toNat : Int) = batteryLevel.toInt := by
  have hnonneg : 0 ≤ batteryLevel.toBitVec.toInt := Int32.le_iff_toInt_le.mp hlo
  have hbyte : batteryLevel.toInt ≤ 255 := Int32.le_iff_toInt_le.mp hhi
  have hmsb : batteryLevel.toBitVec.msb = false := by
    rw [BitVec.toInt_eq_toNat_cond] at hnonneg
    rw [BitVec.msb_eq_false_iff_two_mul_lt]
    split at hnonneg <;> omega
  have hword : (batteryLevel.toUInt32.toNat : Int) = batteryLevel.toInt :=
    (BitVec.toInt_eq_toNat_of_msb hmsb).symm
  rw [UInt32.toNat_toUInt8]
  omega

theorem tryFrom_ctrlAsNetprotocol (s : CtrlState) {batteryLevel : Int32} (hlo : 0 ≤ batteryLevel)
    (hhi : batteryLevel ≤ 255) :
    ∃ report, MainReport.tryFrom (ctrlAsNetprotocol s batteryLevel) = .ok report ∧
      Measured s batteryLevel report := by
  refine ⟨_, rfl, ?_⟩
  constructor
  case buttons =>
    intro button
    rw [← pressed_iff, ← pressed_convertPadData]
  case chargePercent => exact chargePercent_eq hlo hhi
  case gyro => exact ⟨rfl, rfl, rfl⟩
  case accelerometer => exact ⟨rfl, rfl, rfl⟩
  case frontTouch => exact sameTouch_convertTouchData s.touchFront
  case backTouch => exact sameTouch_convertTouchData s.touchBack
  all_goals rfl

/-! ## The packet -/

def Decodes.sentPacket {ε : Type} {client : Client.Flatbuffers ε} {packet : List UInt8}
    {pad : NetProtocol.Pad} (h : Decodes client packet pad) {report : MainReport}
    (hreport : MainReport.tryFrom pad = .ok report) : Client.SentPacket client where
  bytes := packet
  event := .padDataReceived report
  size_prefixed := h.size_prefixed
  nonempty := h.nonempty
  short := h.short
  decodes := by
    obtain ⟨decoded, hdecoded, htype, hcontent⟩ := h.content
    exact ⟨decoded, hdecoded, .pad htype hcontent
      ((Client.VitaReports.tryFrom_eq_ok_iff pad report).mp hreport)⟩

/-- Whatever follows the packet in the client's buffer, the report that the client
takes from it is what the console has measured. -/
theorem pad_survives_wire {ε : Type} (server : Server.Flatbuffers)
    (client : Client.Flatbuffers ε) (s : CtrlState) (batteryLevel : Int32)
    (hlo : 0 ≤ batteryLevel) (hhi : batteryLevel ≤ 255)
    (hdecodes : Decodes client (server.finishPad (ctrlAsNetprotocol s batteryLevel))
      (ctrlAsNetprotocol s batteryLevel)) (rest : List UInt8) :
    ∃ report, next client (server.finishPad (ctrlAsNetprotocol s batteryLevel) ++ rest) =
        .ok (some (.ok (.padDataReceived report)), rest) ∧
      Measured s batteryLevel report := by
  obtain ⟨report, hreport, hmeasured⟩ := tryFrom_ctrlAsNetprotocol s hlo hhi
  have hnext := (Client.Frame.packet (hdecodes.sentPacket hreport)).wholeFrame.next rest
  exact ⟨report, hnext, hmeasured⟩

/-- A console in use, with what `padPacket` is built of. -/
def Server.CtrlState.inUse (low : UInt8) : CtrlState where
  pad :=
    { timeStamp := 2816 + low.toUInt64
      buttons := 0x10a288
      lx := 16
      ly := 96
      rx := 144
      ry := 240 }
  motion :=
    { acceleration := ⟨0x3e800000, 0x3f800000, 0xc1000000⟩
      angularVelocity := ⟨0x3f000000, 0xbf800000, 0x40000000⟩ }
  touchFront := ⟨[⟨3, 40, 500, 300⟩, ⟨4, 50, 1400, 800⟩]⟩
  touchBack := ⟨[⟨5, 60, 200, 900⟩]⟩
  lastTs := 2816 + low.toUInt64

theorem ctrlAsNetprotocol_inUse (low : UInt8) :
    ctrlAsNetprotocol (.inUse low) 87 = NetProtocol.padTable low := by
  have hword : convertPadData (CtrlState.inUse low).pad =
      convertPadData (CtrlState.inUse 0).pad := rfl
  have hbuttons : some (convertPadData (CtrlState.inUse 0).pad) =
      (NetProtocol.padTable 0).buttons := by decide +kernel
  rw [ctrlAsNetprotocol, hword, hbuttons]
  rfl

/-- Six buttons, four sticks, touches on both panels, both motions and a battery level. -/
theorem pad_survives_wire_of_inUse :
    ∃ report, next Client.padOnly (NetProtocol.padPacket 184 ++ NetProtocol.heartbeatMagic) =
        .ok (some (.ok (.padDataReceived report)), NetProtocol.heartbeatMagic) ∧
      Measured (.inUse 184) 87 report :=
  pad_survives_wire Server.samplePackets Client.padOnly (.inUse 184) 87 (by decide) (by decide)
    { size_prefixed := by decide +kernel
      nonempty := by decide +kernel
      short := by decide +kernel
      content := ⟨⟨.pad, none, some (NetProtocol.padTable 184)⟩, by decide +kernel, rfl,
        congrArg some (ctrlAsNetprotocol_inUse 184).symm⟩ } _

end VitaOxiPad
