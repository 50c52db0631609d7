import VitaOxiPad.Client.Connection
import VitaOxiPad.Server.IngoingData
/-!
# Where a packet ends

The client takes a packet to end where its size prefix says.  The server erases
the verifier's computed size, which is the highest position that the verifier
has looked at, rounded up to a multiple of four.
-/

namespace VitaOxiPad.Server

open NetProtocol
open VitaOxiPad.Client (declaredSize HoldsPacket)

/-- The verifier's extent: the highest position it has verified. -/
structure Extents (fb : Flatbuffers) where
  extent : List UInt8 → Nat
  /-- `GetComputedSize`. -/
  computedSize : ∀ {buffer : List UInt8} {size : Nat}, fb.verify buffer = some size →
    size = (extent buffer + 3) / 4 * 4
  /-- The size prefix and the root offset are verified. -/
  root : ∀ {buffer : List UInt8} {size : Nat}, fb.verify buffer = some size →
    8 ≤ extent buffer
  /-- The packet is whole. -/
  whole : ∀ {buffer : List UInt8} {size : Nat}, fb.verify buffer = some size →
    declaredSize buffer + 4 ≤ buffer.length

/-- `handle_data` handles the packet at the front and removes it as its prefix says. -/
def TakesFrame (fb : Flatbuffers) (getpeername : Socket → SockaddrIn) (outside : Int → UInt8)
    (client : Client) : Prop :=
  ∃ message client', client.handleData fb getpeername outside = .ok (some message, client') ∧
    client'.buffer = client.buffer.drop (declaredSize client.buffer + 4)

/-- The content has a handler and is there, and the last byte that the verifier has
looked at is one of the last four of a packet whose length is a multiple of four. -/
structure FillsFrame (fb : Flatbuffers) (X : Extents fb) (outside : Int → UInt8)
    (buffer : List UInt8) : Prop where
  content : ∃ handler message, handlers fb (fb.contentType (memory buffer outside)).tag =
    some handler ∧ handler buffer = some message
  aligned : 4 ∣ declaredSize buffer
  reached : declaredSize buffer < X.extent buffer
  within : X.extent buffer ≤ declaredSize buffer + 4

section

variable {fb : Flatbuffers} {getpeername : Socket → SockaddrIn} {client : Client}
  {outside : Int → UInt8} {size : Nat}

theorem drop_eq_drop_iff {bytes : List UInt8} {m n : Nat} (hm : m ≤ bytes.length)
    (hn : n ≤ bytes.length) : bytes.drop m = bytes.drop n ↔ m = n := by
  constructor
  · intro h
    have hlen := congrArg List.length h
    rw [List.length_drop, List.length_drop] at hlen
    omega
  · rintro rfl
    rfl

theorem takesFrame_iff (X : Extents fb) (h : fb.verify client.buffer = some size) :
    TakesFrame fb getpeername outside client ↔ FillsFrame fb X outside client.buffer := by
  have hcomputed := X.computedSize h
  have hsize := fb.verify_size h
  have hwhole := X.whole h
  have hroot := X.root h
  constructor
  · rintro ⟨message, client', hdata, hbuffer⟩
    cases hhandler : handlers fb (fb.contentType (memory client.buffer outside)).tag with
    | none =>
        have hunsupported : ¬ Supported fb client.buffer outside := by simp [Supported, hhandler]
        rw [handleData_unsupported getpeername (storage_of_verify h) hunsupported] at hdata
        cases hdata
    | some handler =>
        cases hcontent : handler client.buffer with
        | none =>
            rw [handleData_nullContent getpeername hhandler h hcontent] at hdata
            cases hdata
        | some message' =>
            rw [handleData_accepted getpeername hhandler h hcontent] at hdata
            cases hdata
            rw [Client.buffer_setBuffer] at hbuffer
            have hend := (drop_eq_drop_iff hsize.2 hwhole).mp hbuffer
            exact ⟨⟨handler, message, hhandler, hcontent⟩, by omega, by omega, by omega⟩
  · rintro ⟨⟨handler, message, hhandler, hcontent⟩, haligned, hreached, hwithin⟩
    have hend : size = declaredSize client.buffer + 4 := by omega
    refine ⟨message, _, handleData_accepted getpeername hhandler h hcontent, ?_⟩
    rw [Client.buffer_setBuffer, hend]

/-- The client takes the same packet off the front of the same bytes. -/
theorem next_of_accepted {ε : Type} (decoder : VitaOxiPad.Client.Flatbuffers ε) (X : Extents fb)
    {buffer : List UInt8} (h : fb.verify buffer = some size)
    (hlen : buffer.length ≤ Client.maxBufferAcceptableSize) (hpos : 0 < declaredSize buffer) :
    ∃ item, VitaOxiPad.Client.next decoder buffer =
      .ok (item, buffer.drop (declaredSize buffer + 4)) := by
  have hwhole := X.whole h
  have hnot : ¬ heartbeatMagic <+: buffer := by
    intro hmagic
    have hbig := VitaOxiPad.Client.declaredSize_of_heartbeat hmagic
    unfold Client.maxBufferAcceptableSize at hlen
    omega
  exact ⟨_, VitaOxiPad.Client.next_packet decoder ⟨hnot, hpos, hwhole⟩⟩

/-- After a packet taken as its prefix says, a heartbeat behind it is the next
message that the dispatcher handles. -/
theorem TakesFrame.heartbeat (h : TakesFrame fb getpeername outside client) {rest : List UInt8}
    (hrest : client.buffer.drop (declaredSize client.buffer + 4) = heartbeatMagic ++ rest)
    (now : UInt64) :
    ∃ message client', client.handleData fb getpeername outside = .ok (some message, client') ∧
      client'.handleHeartbeat now =
        some ((client'.updateHeartbeatTime now).setBuffer rest) := by
  obtain ⟨message, client', hdata, hbuffer⟩ := h
  exact ⟨message, client', hdata, handleHeartbeat_append now (hbuffer.trans hrest)⟩

end

/-- For an accepted buffer, `handle_data` removes the packet at the front as its
prefix says, as the client's `next` does, exactly when the packet fills its frame. -/
theorem frame_boundary_iff {ε : Type} (fb : Flatbuffers) (X : Extents fb)
    (decoder : VitaOxiPad.Client.Flatbuffers ε) (getpeername : Socket → SockaddrIn)
    (outside : Int → UInt8) (client : Client) (size : Nat)
    (h : fb.verify client.buffer = some size)
    (hlen : client.buffer.length ≤ Client.maxBufferAcceptableSize) :
    (∃ message client' item,
      client.handleData fb getpeername outside = .ok (some message, client') ∧
        client'.buffer = client.buffer.drop (declaredSize client.buffer + 4) ∧
        VitaOxiPad.Client.next decoder client.buffer = .ok (item, client'.buffer)) ↔
      FillsFrame fb X outside client.buffer := by
  have htakes : TakesFrame fb getpeername outside client ↔ _ := takesFrame_iff X h
  constructor
  · rintro ⟨message, client', item, hdata, hbuffer, -⟩
    exact htakes.mp ⟨message, client', hdata, hbuffer⟩
  · intro hfills
    have hroot := X.root h
    have hwithin := hfills.within
    obtain ⟨message, client', hdata, hbuffer⟩ := htakes.mpr hfills
    obtain ⟨item, hitem⟩ := next_of_accepted decoder X h hlen (by omega)
    exact ⟨message, client', item, hdata, hbuffer, by rw [hitem, hbuffer]⟩

/-! ## A packet that fills its frame, and one that does not -/

def Extents.ofPackets (packets : List (List UInt8 × Message))
    (h : ∀ p ∈ packets, 4 ∣ p.1.length ∧ declaredSize p.1 + 4 = p.1.length) :
    Extents (.ofPackets packets) where
  extent buffer := ((knownPacket packets buffer).map (·.1.length)).getD 0
  computedSize := by
    intro buffer size hverify
    obtain ⟨p, hp, rfl⟩ := Option.map_eq_some_iff.mp hverify
    have haligned := (h p (List.mem_of_find?_eq_some hp)).1
    rw [hp, Option.map_some, Option.getD_some]
    omega
  root := by
    intro buffer size hverify
    obtain ⟨p, hp, rfl⟩ := Option.map_eq_some_iff.mp hverify
    rw [hp, Option.map_some, Option.getD_some]
    exact (knownPacket_spec hp).1
  whole := by
    intro buffer size hverify
    obtain ⟨p, hp, rfl⟩ := Option.map_eq_some_iff.mp hverify
    obtain ⟨hlen, rest, rfl⟩ := knownPacket_spec hp
    rw [VitaOxiPad.Client.declaredSize_append (by omega), List.length_append,
      (h p (List.mem_of_find?_eq_some hp)).2]
    omega

def sampleExtents : Extents samplePackets := .ofPackets _ (by decide +kernel)

def Client.holding (buffer : List UInt8) : Client :=
  (Client.new Socket.peer ⟨0, 3, ⟨0x0201a8c0, 0x5000⟩⟩ 0 0).setBuffer buffer

theorem frame_boundary_config_then_heartbeat :
    (∃ message client' item,
      (Client.holding (configPacket ++ heartbeatMagic)).handleData samplePackets Socket.peer
          (fun _ => 0) = .ok (some message, client') ∧
        client'.buffer = heartbeatMagic ∧
        VitaOxiPad.Client.next (.ofTables () [] []) (configPacket ++ heartbeatMagic) =
          .ok (item, client'.buffer)) := by
  have htag : (samplePackets.contentType
      (memory (configPacket ++ heartbeatMagic) fun _ => 0)).tag = .config := by decide +kernel
  have hfills : FillsFrame samplePackets sampleExtents (fun _ => 0)
      (configPacket ++ heartbeatMagic) :=
    ⟨⟨_, .config configTable, by rw [htag]; rfl, by decide +kernel⟩, by decide +kernel,
      by decide +kernel, by decide +kernel⟩
  exact (frame_boundary_iff samplePackets sampleExtents (.ofTables () [] [])
    Socket.peer (fun _ => 0) (Client.holding (configPacket ++ heartbeatMagic)) 48
    (by decide +kernel) (by decide +kernel)).mpr hfills

/-- The configuration packet with four more bytes at its end. -/
def slackPacket : List UInt8 := 48 :: configPacket.drop 1 ++ [0, 0, 0, 0]

/-- A verifier that knows this packet only, and looks at its first 48 bytes. -/
def slackPackets : Flatbuffers where
  __ := samplePackets
  verify buffer := if slackPacket <+: buffer then some 48 else none
  verify_size := by
    intro buffer size h
    split_ifs at h with hpacket
    cases h
    exact ⟨by decide, le_trans (by decide) hpacket.length_le⟩
  verify_root := by
    intro buffer size h
    split_ifs at h with hpacket
    exact le_trans (by decide) hpacket.length_le
  contentAsConfig _ := some configTable

def slackExtents : Extents slackPackets where
  extent _ := 48
  computedSize := by
    intro buffer size h
    simp only [slackPackets] at h
    split_ifs at h
    cases h
    rfl
  root _ := by decide
  whole := by
    intro buffer size h
    simp only [slackPackets] at h
    split_ifs at h with hpacket
    obtain ⟨rest, rfl⟩ := hpacket
    rw [VitaOxiPad.Client.declaredSize_append (by decide), List.length_append]
    have hdeclared : declaredSize slackPacket + 4 = slackPacket.length := by decide
    omega

/-- The four bytes stay in front of the heartbeat that follows the packet. -/
theorem not_frame_boundary_with_slack :
    slackPackets.verify (slackPacket ++ heartbeatMagic) = some 48 ∧
      slackExtents.extent (slackPacket ++ heartbeatMagic) = 48 ∧
      declaredSize (slackPacket ++ heartbeatMagic) + 4 = 52 ∧
      ((Client.holding (slackPacket ++ heartbeatMagic)).handleData slackPackets Socket.peer
        (fun _ => 0)).toOption.map (fun r => (r.1, r.2.buffer, r.2.handleHeartbeat 0)) =
          some (some (.config configTable), [0, 0, 0, 0] ++ heartbeatMagic, none) := by
  refine ⟨?_, rfl, ?_, ?_⟩ <;> decide +kernel

end VitaOxiPad.Server
