import VitaOxiPad.Client.EventsFraming
/-!
# Frames that bear no event

`next` returns `None` when it waits for more bytes, and also for a frame that it
has taken off the buffer and found without an event.  `events()` ends at the
first `None`, so such a frame hides all the frames behind it.
-/

namespace VitaOxiPad.Client

open NetProtocol Framing

variable {ε : Type}

/-- A heartbeat or a whole packet, and what `next` makes of it. -/
structure CompleteFrame (fb : Flatbuffers ε) where
  bytes : List UInt8
  item : Option (Item ε)
  whole : WholeFrame fb bytes item

theorem WholeFrame.bytes_ne_nil {fb : Flatbuffers ε} {frame : List UInt8}
    {item : Option (Item ε)} (h : WholeFrame fb frame item) : frame ≠ [] := by
  cases h with
  | heartbeat => simp [heartbeatMagic]
  | packet _ hlen =>
      rintro rfl
      simp at hlen

def configDecoder : Flatbuffers Unit := .ofTables () [(configPacket, ⟨.config, none, none⟩)] []

def CompleteFrame.heartbeat (fb : Flatbuffers ε) : CompleteFrame fb :=
  ⟨heartbeatMagic, some (.ok .heartbeatReceived), .heartbeat⟩

def CompleteFrame.config : CompleteFrame configDecoder where
  bytes := configPacket
  item := none
  whole := .packet ⟨by decide, by decide, by decide⟩ (by decide)

end VitaOxiPad.Client
