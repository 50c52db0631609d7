import VitaOxiPad.Server.HeaderReads
/-!
# Packets without content

The C++ verifier lets a packet pass that has a content type and no content.  The
handlers do not ask: `content()` of such a packet is a null pointer, and both
`handle_handshake` and `handle_config` read through it.
-/

namespace VitaOxiPad.Server

open ByteOrder NetProtocol

def contentField (mem : Int → UInt8) : Nat :=
  if readLe mem (rootVtable mem) 2 ≤ 6 then 0 else readLe mem (rootVtable mem + 6) 2

def HasContent (buffer : List UInt8) : Prop := contentField (memory buffer fun _ => 0) ≠ 0

instance (buffer : List UInt8) : Decidable (HasContent buffer) :=
  inferInstanceAs (Decidable (_ ≠ _))

def packetTag (fb : Flatbuffers) (buffer : List UInt8) : PacketContent :=
  (fb.contentType (memory buffer fun _ => 0)).tag

/-- In an accepted packet the content of its type is null exactly when it is absent. -/
structure ContentByLayout (fb : Flatbuffers) : Prop where
  handshake : ∀ {buffer size}, fb.verify buffer = some size → packetTag fb buffer = .handshake →
    (fb.contentAsHandshake buffer = none ↔ ¬ HasContent buffer)
  config : ∀ {buffer size}, fb.verify buffer = some size → packetTag fb buffer = .config →
    (fb.contentAsConfig buffer = none ↔ ¬ HasContent buffer)

theorem handleData_of_accepted {fb : Flatbuffers} (h : FollowsLayout fb)
    (getpeername : Socket → SockaddrIn) {client : Client} {size : Nat}
    (hverify : fb.verify client.buffer = some size) (outside : Int → UInt8) :
    client.handleData fb getpeername outside = .error .nullContent ↔
      ∃ handler, handlers fb (packetTag fb client.buffer) = some handler ∧
        handler client.buffer = none := by
  have htag : (fb.contentType (memory client.buffer outside)).tag = packetTag fb client.buffer := by
    rw [tag_of_accepted h hverify, packetTag]
  cases hhandler : handlers fb (packetTag fb client.buffer) with
  | none =>
      have hunsupported : ¬ Supported fb client.buffer outside := by
        rw [Supported, htag, hhandler]
        exact Bool.false_ne_true
      simp [handleData_unsupported getpeername (storage_of_verify hverify) hunsupported]
  | some handler =>
      rw [← htag] at hhandler
      cases hcontent : handler client.buffer with
      | none => simp [handleData_nullContent getpeername hhandler hverify hcontent, hcontent]
      | some message =>
          simp [handleData_accepted getpeername hhandler hverify hcontent, hcontent]

/-- Handling an accepted packet reads through no null pointer exactly when the packet
has content or is neither a handshake nor a configuration. -/
theorem reads_present_content_iff (fb : Flatbuffers) (getpeername : Socket → SockaddrIn)
    (h : FollowsLayout fb) (hcontent : ContentByLayout fb) (client : Client) (size : Nat)
    (hverify : fb.verify client.buffer = some size) (outside : Int → UInt8) :
    client.handleData fb getpeername outside ≠ .error .nullContent ↔
      (packetTag fb client.buffer = .handshake ∨ packetTag fb client.buffer = .config →
        HasContent client.buffer) := by
  rw [ne_eq, handleData_of_accepted h getpeername hverify]
  cases htag : packetTag fb client.buffer with
  | handshake =>
      have hnull := hcontent.handshake hverify htag
      simp [handlers, hnull]
  | config =>
      have hnull := hcontent.config hverify htag
      simp [handlers, hnull]
  | none => simp [handlers]
  | pad => simp [handlers]
  | unknown tag => simp [handlers]

/-! ## A handshake with content, and one without -/

/-- Generated code that accepts one packet only. -/
def Flatbuffers.accepting (packet : List UInt8) (content : Option NetProtocol.Handshake) :
    Flatbuffers where
  contentType := layoutContentType
  verify buffer := if buffer = packet ∧ 8 ≤ packet.length then some packet.length else none
  verify_size := by
    intro buffer size h
    split_ifs at h with haccepted
    cases h
    exact ⟨by omega, haccepted.1 ▸ le_rfl⟩
  verify_root := by
    intro buffer size h
    split_ifs at h with haccepted
    exact haccepted.1 ▸ haccepted.2
  contentAsHandshake _ := content
  contentAsConfig _ := none
  finishHandshake _ := handshakePacket
  finishPad pad := padPacket pad.timestamp.toUInt8

theorem eq_of_accepting {packet buffer : List UInt8} {content : Option NetProtocol.Handshake}
    {size : Nat} (h : (Flatbuffers.accepting packet content).verify buffer = some size) :
    buffer = packet := by
  by_contra hne
  have hrejected : (Flatbuffers.accepting packet content).verify buffer = none :=
    if_neg fun haccepted => hne haccepted.1
  rw [hrejected] at h
  cases h

theorem followsLayout_accepting {packet : List UInt8} (content : Option NetProtocol.Handshake)
    (h : HeaderFits packet) : FollowsLayout (.accepting packet content) where
  contentType := rfl
  accepted _ _ hverify := eq_of_accepting hverify ▸ h

theorem contentByLayout_accepting {packet : List UInt8} {content : Option NetProtocol.Handshake}
    (htag : packetTag (.accepting packet content) packet = .handshake)
    (hcontent : content = none ↔ ¬ HasContent packet) :
    ContentByLayout (.accepting packet content) where
  handshake := by
    intro buffer size hverify _
    rw [eq_of_accepting hverify]
    exact hcontent
  config := by
    intro buffer size hverify hconfig
    rw [eq_of_accepting hverify, htag] at hconfig
    cases hconfig

theorem reads_present_content_of_handshake :
    (sampleClient.setBuffer handshakePacket).handleData
      (.accepting handshakePacket (some handshakeTable)) Socket.peer (fun _ => 0) ≠
        .error .nullContent :=
  (reads_present_content_iff (.accepting handshakePacket (some handshakeTable)) Socket.peer
    (followsLayout_accepting _ (by decide +kernel))
    (contentByLayout_accepting (by decide +kernel) (by decide +kernel))
    (sampleClient.setBuffer handshakePacket) 52 (by decide +kernel) (fun _ => 0)).mpr
      fun _ => by decide +kernel

/-- A packet whose root table has a content type, that of a handshake, and nothing else. -/
def barePacket : List UInt8 :=
  [20, 0, 0, 0, 12, 0, 0, 0, 6, 0, 8, 0, 4, 0, 0, 0, 8, 0, 0, 0, 2, 0, 0, 0]

theorem not_reads_present_content_of_bare :
    (Flatbuffers.accepting barePacket none).verify barePacket = some 24 ∧
      (sampleClient.setBuffer barePacket).handleData
        (.accepting barePacket none) Socket.peer (fun _ => 0) = .error .nullContent := by
  decide +kernel

end VitaOxiPad.Server
