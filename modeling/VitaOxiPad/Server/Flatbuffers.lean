import VitaOxiPad.Lib.Framing
import VitaOxiPad.NetProtocol
/-!
# What the server uses of flatbuffers

The generated accessors, the verifier and the builder are not part of the
repository.  `Flatbuffers` is what `client.hpp` and `net.cpp` use of them.
`content_type()` runs before the verifier, so it reads memory rather than a
packet: the bytes of `buffer_`, and beyond its ends whatever is there.
-/

namespace VitaOxiPad.Server

open ByteOrder NetProtocol

/-- The bytes of `buffer_`, by offset from its start, and those around it. -/
def memory (buffer : List UInt8) (outside : Int → UInt8) (offset : Int) : UInt8 :=
  if 0 ≤ offset ∧ offset < buffer.length then buffer.getD offset.toNat 0 else outside offset

structure TagRead where
  tag : PacketContent
  spans : List (Int × Nat)
  deriving DecidableEq, Repr

def TagRead.Inside (r : TagRead) (size : Nat) : Prop :=
  ∀ span ∈ r.spans, 0 ≤ span.1 ∧ span.1 + span.2 ≤ size

instance (r : TagRead) (size : Nat) : Decidable (r.Inside size) :=
  inferInstanceAs (Decidable (∀ span ∈ r.spans, _))

inductive Message where
  | handshake (handshake : NetProtocol.Handshake)
  | config (config : NetProtocol.Config)
  | heartbeat
  deriving DecidableEq, Repr

structure Flatbuffers where
  /-- `GetSizePrefixedPacket(p)->content_type()` on the memory around `p`. -/
  contentType : (Int → UInt8) → TagRead
  /-- `VerifySizePrefixedPacketBuffer`: the computed size if it accepts. -/
  verify : List UInt8 → Option Nat
  /-- It accepts no empty packet and none that overruns the buffer. -/
  verify_size : ∀ {buffer : List UInt8} {size : Nat}, verify buffer = some size →
    0 < size ∧ size ≤ buffer.length
  /-- It accepts no buffer without a size prefix and a root offset. -/
  verify_root : ∀ {buffer : List UInt8} {size : Nat}, verify buffer = some size →
    8 ≤ buffer.length
  /-- `content()` as a handshake, unless it is a null pointer. -/
  contentAsHandshake : List UInt8 → Option NetProtocol.Handshake
  contentAsConfig : List UInt8 → Option NetProtocol.Config
  /-- A finished, size-prefixed packet around `CreateHandshake`. -/
  finishHandshake : NetProtocol.Handshake → List UInt8
  finishPad : NetProtocol.Pad → List UInt8

theorem Flatbuffers.verify_short (fb : Flatbuffers) {buffer : List UInt8}
    (h : buffer.length < 8) : fb.verify buffer = none := by
  by_contra hsome
  obtain ⟨size, hsize⟩ := Option.ne_none_iff_exists'.mp hsome
  have hroot := fb.verify_root hsize
  omega

/-! ## The layout of a packet -/

def rootTable (mem : Int → UInt8) : Int := 4 + readLe mem 4 4

/-- Where the root table's vtable begins: a signed distance before the table. -/
def rootVtable (mem : Int → UInt8) : Int :=
  rootTable mem - Int.bmod (readLe mem (rootTable mem) 4) (2 ^ 32)

/-- `content_type()` by the flatbuffers layout: the root offset, the vtable
offset, the vtable's size, its first slot, the field. -/
def layoutContentType (mem : Int → UInt8) : TagRead :=
  let table := rootTable mem
  let vtable := rootVtable mem
  let spans := [(4, 4), (table, 4), (vtable, 2)]
  if readLe mem vtable 2 ≤ 4 then ⟨.none, spans⟩
  else
    let field := readLe mem (vtable + 4) 2
    if field = 0 then ⟨.none, spans ++ [(vtable + 4, 2)]⟩
    else ⟨.ofTag (mem (table + field)), spans ++ [(vtable + 4, 2), (table + field, 1)]⟩

theorem memory_append {buffer : List UInt8} (rest : List UInt8) {outside outside' : Int → UInt8}
    {i : Int} (hlo : 0 ≤ i) (hhi : i < buffer.length) :
    memory (buffer ++ rest) outside i = memory buffer outside' i := by
  have hlen : i.toNat < buffer.length := by omega
  unfold memory
  rw [if_pos ⟨hlo, by rw [List.length_append]; omega⟩, if_pos ⟨hlo, hhi⟩]
  rw [List.getD_eq_getElem?_getD, List.getD_eq_getElem?_getD, List.getElem?_append_left hlen]

theorem layoutContentType_congr {mem mem' : Int → UInt8}
    (h : ∀ span ∈ (layoutContentType mem).spans, ∀ i, span.1 ≤ i → i < span.1 + span.2 →
      mem i = mem' i) : layoutContentType mem' = layoutContentType mem := by
  have hthree : ∀ span ∈ [((4 : Int), 4), (rootTable mem, 4), (rootVtable mem, 2)],
      readLe mem' span.1 span.2 = readLe mem span.1 span.2 := by
    intro span hspan
    apply readLe_congr
    refine fun i hlo hhi => (h span ?_ i hlo hhi).symm
    unfold layoutContentType
    dsimp only
    split_ifs
    · exact hspan
    · exact List.mem_append_left _ hspan
    · exact List.mem_append_left _ hspan
  have hroot : rootTable mem' = rootTable mem := by
    unfold rootTable
    rw [hthree (4, 4) (by simp)]
  have hvtable : rootVtable mem' = rootVtable mem := by
    unfold rootVtable
    rw [hroot, hthree (rootTable mem, 4) (by simp)]
  have hsize := hthree (rootVtable mem, 2) (by simp)
  unfold layoutContentType at h ⊢
  simp only [hroot, hvtable, hsize] at h ⊢
  by_cases hslot : readLe mem (rootVtable mem) 2 ≤ 4
  · rw [if_pos hslot, if_pos hslot]
  · rw [if_neg hslot] at h
    rw [if_neg hslot, if_neg hslot]
    have hfield : readLe mem' (rootVtable mem + 4) 2 = readLe mem (rootVtable mem + 4) 2 := by
      apply readLe_congr
      refine fun i hlo hhi => (h (rootVtable mem + 4, 2) ?_ i hlo hhi).symm
      split_ifs <;> simp
    rw [hfield]
    by_cases hzero : readLe mem (rootVtable mem + 4) 2 = 0
    · rw [if_pos hzero, if_pos hzero]
    · rw [if_neg hzero] at h
      rw [if_neg hzero, if_neg hzero]
      have htag := h (rootTable mem + readLe mem (rootVtable mem + 4) 2, 1) (by simp) _
        le_rfl (by simp)
      rw [htag]

theorem layoutContentType_append {buffer : List UInt8} {outside : Int → UInt8}
    (h : (layoutContentType (memory buffer outside)).Inside buffer.length)
    (rest : List UInt8) (outside' : Int → UInt8) :
    layoutContentType (memory (buffer ++ rest) outside') =
      layoutContentType (memory buffer outside) := by
  apply layoutContentType_congr
  intro span hspan i hlo hhi
  have hinside := h span hspan
  exact (memory_append rest (by omega) (by omega)).symm

def knownPacket (packets : List (List UInt8 × Message)) (buffer : List UInt8) :
    Option (List UInt8 × Message) :=
  packets.find? fun p => decide (8 ≤ p.1.length) && p.1.isPrefixOf buffer

theorem knownPacket_spec {packets : List (List UInt8 × Message)} {buffer : List UInt8}
    {p : List UInt8 × Message} (h : knownPacket packets buffer = some p) :
    8 ≤ p.1.length ∧ p.1 <+: buffer := by
  have hp := List.find?_some h
  simp only [Bool.and_eq_true, decide_eq_true_eq, List.isPrefixOf_iff_prefix] at hp
  exact hp

def Flatbuffers.ofPackets (packets : List (List UInt8 × Message)) : Flatbuffers where
  contentType := layoutContentType
  verify buffer := (knownPacket packets buffer).map (·.1.length)
  verify_size := by
    intro buffer size h
    obtain ⟨p, hp, rfl⟩ := Option.map_eq_some_iff.mp h
    have hspec := knownPacket_spec hp
    exact ⟨by omega, hspec.2.length_le⟩
  verify_root := by
    intro buffer size h
    obtain ⟨p, hp, rfl⟩ := Option.map_eq_some_iff.mp h
    have hspec := knownPacket_spec hp
    exact le_trans hspec.1 hspec.2.length_le
  contentAsHandshake buffer :=
    match knownPacket packets buffer with
    | some (_, .handshake handshake) => some handshake
    | _ => none
  contentAsConfig buffer :=
    match knownPacket packets buffer with
    | some (_, .config config) => some config
    | _ => none
  finishHandshake _ := handshakePacket
  finishPad pad := padPacket pad.timestamp.toUInt8

def samplePackets : Flatbuffers :=
  .ofPackets [(handshakePacket, .handshake handshakeTable), (configPacket, .config configTable)]

end VitaOxiPad.Server
