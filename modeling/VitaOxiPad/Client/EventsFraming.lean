import VitaOxiPad.Client.EventsSafety
import VitaOxiPad.Lib.Framing
/-!
# Segmentation of the client's incoming stream

A sender's stream is a list of frames: heartbeats, and packets that carry a
handshake or a complete pad.  The client is on track after a chunk when it has
yielded one event for every whole frame and kept the bytes of the unfinished
one.  It stays on track over any chunks, unless a chunk ends one byte before
the end of a packet.
-/

namespace VitaOxiPad.Client

open NetProtocol Framing
open VitaReports (MainReport Carries tryFrom_eq_ok_iff)

variable {ε : Type}

/-- The event a decoded packet stands for, all required parts being there. -/
inductive Bears : Packet → Event → Prop
  | handshake {packet : Packet} {handshake : NetProtocol.Handshake} :
      packet.contentType = .handshake → packet.contentAsHandshake = some handshake →
      Bears packet (.handshakeResponseReceived (.from handshake))
  | pad {packet : Packet} {pad : NetProtocol.Pad} {data : MainReport} :
      packet.contentType = .pad → packet.contentAsPad = some pad → Carries pad data →
      Bears packet (.padDataReceived data)

theorem Bears.itemOf {packet : Packet} {event : Event} (h : Bears packet event) :
    itemOf (.ok packet : Except ε Packet) = some (.ok event) := by
  cases h with
  | handshake htype hcontent => simp [Client.itemOf, htype, hcontent]
  | pad htype hcontent hcarries =>
      rw [← tryFrom_eq_ok_iff] at hcarries
      simp [Client.itemOf, htype, hcontent, hcarries, Except.toOption]

/-- A size-prefixed packet as a sender builds it, and the event it carries. -/
structure SentPacket (fb : Flatbuffers ε) where
  bytes : List UInt8
  event : Event
  size_prefixed : bytes.length = declaredSize bytes + 4
  nonempty : 0 < declaredSize bytes
  short : bytes.length < 2 ^ 31
  decodes : ∃ packet, fb.sizePrefixedRootAsPacket bytes = .ok packet ∧ Bears packet event

inductive Frame (fb : Flatbuffers ε) where
  | heartbeat
  | packet (p : SentPacket fb)

namespace Frame

variable {fb : Flatbuffers ε}

def bytes : Frame fb → List UInt8
  | heartbeat => heartbeatMagic
  | packet p => p.bytes

def event : Frame fb → Event
  | heartbeat => .heartbeatReceived
  | packet p => p.event

end Frame

theorem SentPacket.not_heartbeat {fb : Flatbuffers ε} (p : SentPacket fb) :
    ¬ heartbeatMagic <+: p.bytes := by
  intro h
  have hbig := declaredSize_of_heartbeat h
  have hlen := p.size_prefixed
  have hshort := p.short
  omega

theorem SentPacket.holdsPacket {fb : Flatbuffers ε} (p : SentPacket fb) :
    HoldsPacket p.bytes :=
  ⟨p.not_heartbeat, p.nonempty, p.size_prefixed.ge⟩

theorem Frame.wholeFrame {fb : Flatbuffers ε} (f : Frame fb) :
    WholeFrame fb f.bytes (some (.ok f.event)) := by
  cases f with
  | heartbeat => exact .heartbeat
  | packet p =>
      obtain ⟨packet, hdecodes, hbears⟩ := p.decodes
      have hitem : itemOf (fb.sizePrefixedRootAsPacket p.bytes) = some (.ok p.event) := by
        rw [hdecodes, hbears.itemOf]
      exact hitem ▸ .packet p.holdsPacket p.size_prefixed

theorem Frame.bytes_ne_nil {fb : Flatbuffers ε} (f : Frame fb) : f.bytes ≠ [] := by
  intro h
  have hnext := f.wholeFrame.next []
  rw [h, List.append_nil, next_waiting fb waiting_nil] at hnext
  cases hnext

theorem run_events_stream {fb : Flatbuffers ε} (frames : List (Frame fb))
    (acc : List (Item ε)) (tail : List UInt8) :
    FuelLoop.run (eventsStep fb) (fun s => s.2.length)
        (acc, stream Frame.bytes frames ++ tail) =
      FuelLoop.run (eventsStep fb) (fun s => s.2.length)
        (acc ++ frames.map fun f => .ok f.event, tail) := by
  induction frames generalizing acc with
  | nil => simp
  | cons f frames ih =>
      have hnext := f.wholeFrame.next (stream Frame.bytes frames ++ tail)
      rw [← List.append_assoc, ← stream_cons] at hnext
      rw [FuelLoop.run_of_next (eventsStep_decreases fb) (eventsStep_of_item hnext), ih]
      simp

theorem events_stream {fb : Flatbuffers ε} (frames : List (Frame fb)) {tail : List UInt8}
    (htail : Waiting tail) :
    events fb (stream Frame.bytes frames ++ tail) =
      .ok (frames.map fun f => .ok f.event, tail) := by
  rw [events, run_events_stream,
    FuelLoop.run_of_done (eventsStep_of_none (next_waiting fb htail)), List.nil_append]

theorem events_stream_oneByteShort {fb : Flatbuffers ε} (frames : List (Frame fb))
    {tail : List UInt8} (htail : OneByteShort tail) :
    events fb (stream Frame.bytes frames ++ tail) = .error (.fault .drainRange) := by
  rw [events, run_events_stream, FuelLoop.run_of_fault]
  exact eventsStep_error_iff.mpr (next_oneByteShort fb htail)

def receiveChunk (fb : Flatbuffers ε) (s : List (Item ε) × Connection)
    (chunk : List UInt8) : Except (FuelLoop.Halt Panic) (List (Item ε) × Connection) := do
  let conn := s.2.receiveData chunk
  let (items, rest) ← events fb conn.incomingBuffer
  return (s.1 ++ items, { conn with incomingBuffer := rest })

def receiveChunks (fb : Flatbuffers ε) (chunks : List (List UInt8)) :
    Except (FuelLoop.Halt Panic) (List (Item ε) × Connection) :=
  StepRun.run (receiveChunk fb) ([], Connection.new) chunks

/-- The whole frames have been yielded and the unfinished one is buffered. -/
def Received {fb : Flatbuffers ε} (done : List (Frame fb)) (rest : List UInt8)
    (s : List (Item ε) × Connection) : Prop :=
  s = (done.map fun f => .ok f.event, ⟨rest, []⟩)

/-- The first `n` bytes do not end one byte before the end of a packet. -/
def NotOneShort {fb : Flatbuffers ε} (frames : List (Frame fb)) (n : Nat) : Prop :=
  ∀ before p after, frames = before ++ .packet p :: after →
    n + 1 ≠ (stream Frame.bytes before).length + p.bytes.length

theorem waiting_pending {fb : Flatbuffers ε} {frames : List (Frame fb)} {n : Nat}
    (h : NotOneShort frames n) : Waiting (pending Frame.bytes frames n) := by
  rcases pending_spec Frame.bytes frames n with hnil | ⟨f, rest, hfs, hpre, hlt, hn⟩
  · exact hnil ▸ waiting_nil
  set tail := pending Frame.bytes frames n
  obtain ⟨missing, hmissing⟩ := hpre
  cases f with
  | heartbeat =>
      have hlt6 : tail.length < 6 := hlt
      refine ⟨fun hmagic => ?_, ?_⟩
      · have hle := hmagic.length_le
        rw [length_heartbeatMagic] at hle
        omega
      · by_cases hfour : tail.length < 4
        · exact Or.inl hfour
        · have hdecl := declaredSize_append (by omega : 4 ≤ tail.length) missing
          have hbig : declaredSize (tail ++ missing) = 4294967295 :=
            declaredSize_of_heartbeat ⟨[], by rw [hmissing]; rfl⟩
          omega
  | packet p =>
      have hlen := p.size_prefixed
      have hpackets : tail ++ missing = p.bytes := hmissing
      have hbytes : (Frame.packet p).bytes.length = p.bytes.length := rfl
      have hcut := h _ p rest hfs
      refine ⟨fun hmagic => p.not_heartbeat ?_, ?_⟩
      · exact hpackets ▸ hmagic.trans (List.prefix_append _ _)
      · by_cases hfour : tail.length < 4
        · exact Or.inl hfour
        · have hdecl := declaredSize_append (by omega : 4 ≤ tail.length) missing
          rw [hpackets] at hdecl
          omega

theorem oneByteShort_pending {fb : Flatbuffers ε} {frames : List (Frame fb)} {n : Nat}
    (h : ¬ NotOneShort frames n) : OneByteShort (pending Frame.bytes frames n) := by
  simp only [NotOneShort, not_forall, not_not] at h
  obtain ⟨before, p, after, rfl, hcut⟩ := h
  have hlen := p.size_prefixed
  have hpos := p.nonempty
  have hbytes : (Frame.packet p).bytes = p.bytes := rfl
  rw [pending_append Frame.bytes before (.packet p) after n (by omega)
    (by rw [hbytes]; omega), hbytes]
  set k := n - (stream Frame.bytes before).length with hk
  have hsplit := List.take_append_drop k p.bytes
  have htake : (p.bytes.take k).length = k := by
    rw [List.length_take]
    omega
  have hdecl := declaredSize_append (by omega : 4 ≤ (p.bytes.take k).length) (p.bytes.drop k)
  rw [hsplit] at hdecl
  refine ⟨fun hmagic => ?_, by omega, by omega⟩
  exact p.not_heartbeat (hmagic.trans (List.take_prefix k p.bytes))

theorem receiveChunk_eq (fb : Flatbuffers ε) (items : List (Item ε))
    (tail chunk : List UInt8) :
    receiveChunk fb (items, ⟨tail, []⟩) chunk =
      (events fb (tail ++ chunk)).map fun r => (items ++ r.1, ⟨r.2, []⟩) := by
  show (events fb (tail ++ chunk) >>= _) = _
  cases events fb (tail ++ chunk) <;> rfl

theorem receiveChunk_advances {fb : Flatbuffers ε} (frames : List (Frame fb))
    (chunks : List (List UInt8)) :
    Advances Frame.bytes id (receiveChunk fb) Received
      (fun fs n _ => NotOneShort fs n) frames chunks := by
  rintro n chunk - s more rfl - hmore hpend hgood
  simp only [id_eq] at hmore hpend hgood ⊢
  refine ⟨_, ?_, rfl⟩
  rw [receiveChunk_eq, hpend, events_stream more (waiting_pending hgood), hmore,
    List.map_append]
  rfl

theorem receiveChunk_badPiece {fb : Flatbuffers ε} {frames : List (Frame fb)} {n : Nat}
    {chunk : List UInt8} {s : List (Item ε) × Connection} {more : List (Frame fb)}
    (h : BadPiece Frame.bytes id Received (fun fs n (_ : List UInt8) => NotOneShort fs n)
      frames n chunk s more) :
    receiveChunk fb s chunk = .error (.fault .drainRange) := by
  obtain ⟨rfl, -, -, hpend, hbad⟩ := h
  simp only [id_eq] at hpend hbad
  rw [receiveChunk_eq, hpend, events_stream_oneByteShort more (oneByteShort_pending hbad)]
  rfl

/-- Chunks of a stream of frames yield one event for every frame, in order, and
leave nothing buffered, exactly when no chunk ends one byte before the end of a
packet. -/
theorem receiveChunks_eq_iff (fb : Flatbuffers ε) (frames : List (Frame fb))
    (chunks : List (List UInt8)) (hchunks : chunks.flatten = stream Frame.bytes frames) :
    receiveChunks fb chunks = .ok (frames.map fun f => .ok f.event, Connection.new) ↔
      ∀ pre chunk post, chunks = pre ++ chunk :: post →
        ∀ before p after, frames = before ++ .packet p :: after →
          (pre ++ [chunk]).flatten.length + 1 ≠
            (stream Frame.bytes before).length + p.bytes.length := by
  have h₀ : Received (completed Frame.bytes frames 0) (pending Frame.bytes frames 0)
      ([], Connection.new) := by
    rw [completed_zero _ Frame.bytes_ne_nil, pending_zero _ Frame.bytes_ne_nil]
    rfl
  have hstream : chunks.flatMap id = stream Frame.bytes frames := by
    rw [List.flatMap_id, hchunks]
  have hiff := run_ok_iff_allGood (receiveChunk_advances frames chunks)
    (fun n p s more hbad s' => by rw [receiveChunk_badPiece hbad]; simp) h₀ hstream
  have harrived : ∀ pre : List (List UInt8), arrived id pre = pre.flatten.length :=
    fun pre => by rw [arrived, List.flatMap_id]
  simp only [AllGood, NotOneShort, harrived, Received, exists_eq_right] at hiff
  exact hiff

def handshakeOnly : Flatbuffers Unit :=
  .ofTables () [(handshakePacket, ⟨.handshake, some handshakeTable, none⟩)] []

def sentHandshake : SentPacket handshakeOnly where
  bytes := handshakePacket
  event := .handshakeResponseReceived (.from handshakeTable)
  size_prefixed := by decide
  nonempty := by decide
  short := by decide
  decodes := ⟨⟨.handshake, some handshakeTable, none⟩, by decide, .handshake rfl rfl⟩

theorem receiveChunks_cut_inside :
    receiveChunks handshakeOnly [handshakePacket.take 2,
        handshakePacket.drop 2 ++ heartbeatMagic.take 3, heartbeatMagic.drop 3] =
      .ok ([.ok sentHandshake.event, .ok .heartbeatReceived], Connection.new) := by
  refine (receiveChunks_eq_iff handshakeOnly [.packet sentHandshake, .heartbeat] _
    (by decide)).mpr ?_
  intro pre chunk post hchunks before p after hframes
  have hbefore : before = [] ∧ p = sentHandshake := by
    rcases before with _ | ⟨f, _ | ⟨g, before⟩⟩ <;> simp_all
  obtain ⟨rfl, rfl⟩ := hbefore
  rcases pre with _ | ⟨a, _ | ⟨b, _ | ⟨c, pre⟩⟩⟩
  · cases hchunks; decide
  · cases hchunks; decide
  · cases hchunks; decide
  · simp at hchunks

theorem receiveChunks_cut_before_last_byte :
    [handshakePacket.take 51, handshakePacket.drop 51].flatten =
        stream Frame.bytes [.packet sentHandshake] ∧
      receiveChunks handshakeOnly [handshakePacket.take 51, handshakePacket.drop 51] ≠
        .ok ([.ok sentHandshake.event], Connection.new) := by
  constructor
  · decide
  · decide

end VitaOxiPad.Client
