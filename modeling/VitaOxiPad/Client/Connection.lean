import VitaOxiPad.Client.VitaReports
import VitaOxiPad.Lib.Framing
import VitaOxiPad.Lib.FuelLoop
/-!
# The client's protocol connection

`protocol/src/connection.rs` and `events.rs`.  A `Connection` is an incoming and
an outgoing byte buffer.  `next` is one call of `ConnectionEvents::next`: it
takes at most one frame off the front of the incoming buffer, and it can panic,
because it slices, drains and unwraps.

The code that flatc generates and the flatbuffers crate are not part of the
repository.  `Flatbuffers` is what the client uses of them.
-/

namespace VitaOxiPad.Client

open ByteOrder NetProtocol
open VitaReports (MainReport)

structure Handshake where
  endpoint : Endpoint
  port : UInt16
  heartbeatFreq : UInt32
  deriving DecidableEq, Repr

def Handshake.from (handshake : NetProtocol.Handshake) : Handshake where
  endpoint := handshake.endpoint
  port := handshake.port
  heartbeatFreq := handshake.heartbeatFreq

inductive Event where
  | handshakeResponseReceived (handshake : Handshake)
  | heartbeatReceived
  | padDataReceived (data : MainReport)
  deriving DecidableEq, Repr

/-- What the accessors of a verified packet return. -/
structure Packet where
  contentType : PacketContent
  contentAsHandshake : Option NetProtocol.Handshake
  contentAsPad : Option NetProtocol.Pad
  deriving DecidableEq, Repr

inductive Content where
  | handshake (args : NetProtocol.Handshake)
  | config (args : NetProtocol.Config)
  deriving DecidableEq, Repr

structure PacketArgs where
  contentType : PacketContent
  content : Content
  deriving DecidableEq, Repr

/-- The generated code: `ε` is the verifier's `InvalidFlatbuffer`. -/
structure Flatbuffers (ε : Type) where
  sizePrefixedRootAsPacket : List UInt8 → Except ε Packet
  finishSizePrefixed : PacketArgs → List UInt8

/-- Generated code that is known on the listed packets and arguments only: it
rejects every other packet and builds nothing from other arguments. -/
def Flatbuffers.ofTables {ε : Type} (e : ε) (decoded : List (List UInt8 × Packet))
    (built : List (PacketArgs × List UInt8)) : Flatbuffers ε where
  sizePrefixedRootAsPacket buffer := (decoded.lookup buffer).elim (.error e) .ok
  finishSizePrefixed args := (built.lookup args).getD []

inductive ConnectionEventsError (ε : Type) where
  | invalidPacket (e : ε)
  deriving DecidableEq, Repr

abbrev Item (ε : Type) := Except (ConnectionEventsError ε) Event

inductive Panic where
  | sliceIndex
  | drainRange
  | unwrapNone
  deriving DecidableEq, Repr

def offsetSize : Nat := 4

def heartbeatSize : Nat := heartbeatMagic.length

def getTo (n : Nat) (data : List UInt8) : Option (List UInt8) :=
  if n ≤ data.length then some (data.take n) else none

def sliceFrom (n : Nat) (data : List UInt8) : Except Panic (List UInt8) :=
  if n ≤ data.length then .ok (data.drop n) else .error .sliceIndex

/-- `data.drain(..n)`: the bytes removed and those that stay. -/
def drainTo (n : Nat) (data : List UInt8) : Except Panic (List UInt8 × List UInt8) :=
  if n ≤ data.length then .ok (data.take n, data.drop n) else .error .drainRange

def unwrap {α : Type} : Option α → Except Panic α
  | some a => .ok a
  | none => .error .unwrapNone

section

variable {ε : Type}

def itemOf : Except ε Packet → Option (Item ε)
  | .error e => some (.error (.invalidPacket e))
  | .ok packet =>
      match packet.contentType with
      | .handshake =>
          packet.contentAsHandshake.map fun handshake =>
            .ok (.handshakeResponseReceived (.from handshake))
      | .pad =>
          packet.contentAsPad.bind fun pad =>
            (MainReport.tryFrom pad).toOption.map fun data => .ok (.padDataReceived data)
      | _ => none

/-- `ConnectionEvents::next`: the item, and the buffer after the call. -/
def next (fb : Flatbuffers ε) (data : List UInt8) :
    Except Panic (Option (Item ε) × List UInt8) :=
  if data.length < min offsetSize heartbeatSize then
    .ok (none, data)
  else if getTo heartbeatSize data = some heartbeatMagic then do
    let (_, rest) ← drainTo heartbeatSize data
    return (some (.ok .heartbeatReceived), rest)
  else do
    let size := ofLe (← unwrap (getTo offsetSize data))
    if size = 0 then
      return (none, data)
    else
      let tail ← sliceFrom (offsetSize - 1) data
      if tail.length < size then
        return (none, data)
      else
        let (buffer, rest) ← drainTo (offsetSize + size) data
        return (itemOf (fb.sizePrefixedRootAsPacket buffer), rest)

def eventsStep (fb : Flatbuffers ε) (s : List (Item ε) × List UInt8) :
    Except Panic ((List (Item ε) × List UInt8) ⊕ (List (Item ε) × List UInt8)) :=
  match next fb s.2 with
  | .error p => .error p
  | .ok (none, rest) => .ok (.inr (s.1, rest))
  | .ok (some item, rest) => .ok (.inl (s.1 ++ [item], rest))

def events (fb : Flatbuffers ε) (data : List UInt8) :
    Except (FuelLoop.Halt Panic) (List (Item ε) × List UInt8) :=
  FuelLoop.run (eventsStep fb) (fun s => s.2.length) ([], data)

structure Connection where
  incomingBuffer : List UInt8
  outgoingBuffer : List UInt8
  deriving DecidableEq, Repr

namespace Connection

def new : Connection := ⟨[], []⟩

def sendHandshake (fb : Flatbuffers ε) (handshakeArgs : NetProtocol.Handshake)
    (conn : Connection) : Connection :=
  { conn with
    outgoingBuffer := conn.outgoingBuffer ++
      fb.finishSizePrefixed ⟨.handshake, .handshake handshakeArgs⟩ }

def sendConfig (fb : Flatbuffers ε) (configArgs : NetProtocol.Config)
    (conn : Connection) : Connection :=
  { conn with
    outgoingBuffer := conn.outgoingBuffer ++
      fb.finishSizePrefixed ⟨.config, .config configArgs⟩ }

def sendHeartbeat (conn : Connection) : Connection :=
  { conn with outgoingBuffer := conn.outgoingBuffer ++ heartbeatMagic }

def receiveData (data : List UInt8) (conn : Connection) : Connection :=
  { conn with incomingBuffer := conn.incomingBuffer ++ data }

def retrieveOutData (conn : Connection) : List UInt8 × Connection :=
  (conn.outgoingBuffer, { conn with outgoingBuffer := [] })

end Connection

/-! ## What one call of `next` does -/

def declaredSize (data : List UInt8) : Nat := ofLe (data.take offsetSize)

def Waiting (data : List UInt8) : Prop :=
  ¬ heartbeatMagic <+: data ∧
    (data.length < 4 ∨ declaredSize data = 0 ∨ data.length < declaredSize data + 3)

/-- All but the last byte of a packet is in the buffer, and nothing else. -/
def OneByteShort (data : List UInt8) : Prop :=
  ¬ heartbeatMagic <+: data ∧ 0 < declaredSize data ∧ data.length = declaredSize data + 3

def HoldsPacket (data : List UInt8) : Prop :=
  ¬ heartbeatMagic <+: data ∧ 0 < declaredSize data ∧ declaredSize data + 4 ≤ data.length

instance (data : List UInt8) : Decidable (OneByteShort data) :=
  inferInstanceAs (Decidable (_ ∧ _ ∧ _))

theorem declaredSize_append {data : List UInt8} (h : 4 ≤ data.length) (more : List UInt8) :
    declaredSize (data ++ more) = declaredSize data := by
  rw [declaredSize, declaredSize, List.take_append_of_le_length (by simpa [offsetSize])]

theorem declaredSize_of_heartbeat {data : List UInt8} (h : heartbeatMagic <+: data) :
    declaredSize data = 4294967295 := by
  obtain ⟨rest, rfl⟩ := h
  simp [declaredSize, offsetSize, heartbeatMagic, ofLe]

theorem waiting_nil : Waiting [] := ⟨by decide, Or.inl (by decide)⟩

theorem front_cases (data : List UInt8) :
    heartbeatMagic <+: data ∨ Waiting data ∨ OneByteShort data ∨ HoldsPacket data := by
  by_cases hb : heartbeatMagic <+: data
  · exact Or.inl hb
  · right
    simp only [Waiting, OneByteShort, HoldsPacket, hb, not_false_eq_true, true_and]
    omega

private theorem getTo_heartbeat_iff (data : List UInt8) :
    getTo heartbeatSize data = some heartbeatMagic ↔ heartbeatMagic <+: data := by
  rw [List.prefix_iff_eq_take, getTo, heartbeatSize]
  constructor
  · intro h
    split at h
    · simpa [eq_comm] using h
    · simp at h
  · intro h
    have hlen : heartbeatMagic.length ≤ data.length := by
      rw [h, List.length_take]
      exact Nat.min_le_right _ _
    rw [if_pos hlen, ← h]

theorem next_heartbeat (fb : Flatbuffers ε) (rest : List UInt8) :
    next fb (heartbeatMagic ++ rest) = .ok (some (.ok .heartbeatReceived), rest) := by
  have hget : getTo heartbeatSize (heartbeatMagic ++ rest) = some heartbeatMagic :=
    (getTo_heartbeat_iff _).mpr (List.prefix_append _ _)
  have hlen : ¬ (heartbeatMagic ++ rest).length < min offsetSize heartbeatSize := by
    simp [offsetSize, heartbeatSize]
    omega
  rw [next, if_neg hlen, if_pos hget, drainTo, if_pos (by simp [heartbeatSize])]
  rfl

private theorem next_prefixed (fb : Flatbuffers ε) {data : List UInt8}
    (hb : ¬ heartbeatMagic <+: data) (hlen : 4 ≤ data.length) :
    next fb data =
      if declaredSize data = 0 then .ok (none, data)
      else if data.length < declaredSize data + 3 then .ok (none, data)
      else do
        let (buffer, rest) ← drainTo (offsetSize + declaredSize data) data
        return (itemOf (fb.sizePrefixedRootAsPacket buffer), rest) := by
  have hshort : ¬ data.length < min offsetSize heartbeatSize := by
    simp [offsetSize, heartbeatSize]
    omega
  have hget : getTo offsetSize data = some (data.take offsetSize) := if_pos hlen
  have hslice : sliceFrom (offsetSize - 1) data = .ok (data.drop 3) :=
    if_pos (by simp [offsetSize]; omega)
  have hlt : (data.drop 3).length < declaredSize data ↔
      data.length < declaredSize data + 3 := by
    rw [List.length_drop]
    omega
  rw [next, if_neg hshort, if_neg (mt (getTo_heartbeat_iff data).mp hb), hget]
  simp only [unwrap, hslice, bind, Except.bind, pure, Except.pure]
  show (if declaredSize data = 0 then _ else
    if (data.drop 3).length < declaredSize data then _ else _) = _
  simp only [hlt]
  rfl

theorem next_waiting (fb : Flatbuffers ε) {data : List UInt8} (h : Waiting data) :
    next fb data = .ok (none, data) := by
  obtain ⟨hb, hwait⟩ := h
  by_cases hlen : data.length < 4
  · have hshort : data.length < min offsetSize heartbeatSize := by
      simp [offsetSize, heartbeatSize]
      omega
    rw [next, if_pos hshort]
  · rw [next_prefixed fb hb (by omega)]
    split_ifs with hzero hmore
    · rfl
    · rfl
    · omega

theorem next_oneByteShort (fb : Flatbuffers ε) {data : List UInt8}
    (h : OneByteShort data) : next fb data = .error .drainRange := by
  obtain ⟨hb, hpos, hlen⟩ := h
  rw [next_prefixed fb hb (by omega), if_neg (by omega), if_neg (by omega), drainTo,
    if_neg (by simp [offsetSize]; omega)]
  rfl

theorem next_packet (fb : Flatbuffers ε) {data : List UInt8} (h : HoldsPacket data) :
    next fb data = .ok
      (itemOf (fb.sizePrefixedRootAsPacket (data.take (declaredSize data + 4))),
        data.drop (declaredSize data + 4)) := by
  obtain ⟨hb, hpos, hlen⟩ := h
  rw [next_prefixed fb hb (by omega), if_neg (by omega), if_neg (by omega), drainTo,
    if_pos (by simp [offsetSize]; omega), Nat.add_comm offsetSize]
  rfl

theorem next_some_length (fb : Flatbuffers ε) {data rest : List UInt8} {item : Item ε}
    (h : next fb data = .ok (some item, rest)) : rest.length < data.length := by
  rcases front_cases data with hb | hw | hs | hp
  · obtain ⟨tail, rfl⟩ := hb
    rw [next_heartbeat] at h
    cases h
    simp
  · rw [next_waiting fb hw] at h
    cases h
  · rw [next_oneByteShort fb hs] at h
    cases h
  · rw [next_packet fb hp] at h
    obtain ⟨-, hpos, hlen⟩ := hp
    simp only [Except.ok.injEq, Prod.mk.injEq] at h
    rw [← h.2, List.length_drop]
    omega

end

end VitaOxiPad.Client
