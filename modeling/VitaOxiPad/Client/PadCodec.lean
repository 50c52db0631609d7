import Mathlib.Data.List.Forall2
import VitaOxiPad.Client.PadDelivery
/-!
# The pad codec

`protocol/src/codec.rs`.  The decoder keeps the size of the packet it is waiting
for, and never forgets it: behind the first packet it looks for no prefix again,
and cuts the bytes into blocks of the first packet's size.
-/

namespace VitaOxiPad.Client

open ByteOrder NetProtocol
open VitaReports (MainReport)

variable {ε : Type}

/-- `root_as_packet`: the packet without a size prefix. -/
structure RootDecoder (ε : Type) where
  rootAsPacket : List UInt8 → Except ε Packet
  /-- What it accepts starts with the offset of a table that lies in the buffer. -/
  root_offset : ∀ {buffer : List UInt8} {packet : Packet}, rootAsPacket buffer = .ok packet →
    declaredSize buffer + 4 ≤ buffer.length

/-- `std::io::Error` of the kind `Other`. -/
inductive CodecError (ε : Type) where
  | invalidFlatbuffer (e : ε)
  | message (text : String)
  deriving DecidableEq, Repr

structure PadCodec where
  size : Option Nat
  deriving DecidableEq, Repr

/-- What `decode` makes of the bytes of one packet. -/
def eventOf (root : RootDecoder ε) (slice : List UInt8) :
    Except (CodecError ε) (Option Event) :=
  match root.rootAsPacket slice with
  | .error e => .error (.invalidFlatbuffer e)
  | .ok packet =>
      match packet.contentType with
      | .pad =>
          match packet.contentAsPad with
          | none => .error (.message "Packet content is not pad data")
          | some pad =>
              match MainReport.tryFrom pad with
              | .error e => .error (.message ("Invalid pad data: " ++ e))
              | .ok data => .ok (some (.padDataReceived data))
      | _ => .ok none

structure CodecState where
  codec : PadCodec
  src : List UInt8
  deriving DecidableEq, Repr

def decodeSized (root : RootDecoder ε) (len : Nat) (src : List UInt8) :
    Except (CodecError ε) (Option Event) × CodecState :=
  if src.length < len then (.ok none, ⟨⟨some len⟩, src⟩)
  else
    match eventOf root (src.take len) with
    | .error e => (.error e, ⟨⟨some len⟩, src⟩)
    | .ok event => (.ok event, ⟨⟨some len⟩, src.drop len⟩)

/-- `PadCodec::decode`. -/
def decode (root : RootDecoder ε) (s : CodecState) :
    Except (CodecError ε) (Option Event) × CodecState :=
  match s.codec.size with
  | none =>
      if s.src.length < offsetSize then (.ok none, s)
      else decodeSized root (ofLe (s.src.take offsetSize)) (s.src.drop offsetSize)
  | some len => decodeSized root len s.src

def decodeStep (root : RootDecoder ε) (s : List Event × CodecState) :
    Except (CodecError ε) ((List Event × CodecState) ⊕ (List Event × CodecState)) :=
  match decode root s.2 with
  | (.error e, _) => .error e
  | (.ok none, t) => .ok (.inr (s.1, t))
  | (.ok (some event), t) => .ok (.inl (s.1 ++ [event], t))

/-- One chunk is appended, and `decode` is called until it returns `Ok(None)`. -/
def decodeChunk (root : RootDecoder ε) (s : List Event × CodecState) (chunk : List UInt8) :
    Except (FuelLoop.Halt (CodecError ε)) (List Event × CodecState) :=
  FuelLoop.run (decodeStep root) (fun s => s.2.src.length)
    (s.1, { s.2 with src := s.2.src ++ chunk })

def decodeChunks (root : RootDecoder ε) (chunks : List (List UInt8)) :
    Except (FuelLoop.Halt (CodecError ε)) (List Event × CodecState) :=
  StepRun.run (decodeChunk root) ([], ⟨⟨none⟩, []⟩) chunks

/-! ## One call of `decode` -/

section

variable {root : RootDecoder ε}

theorem eventOf_some_length {slice : List UInt8} {event : Event}
    (h : eventOf root slice = .ok (some event)) : declaredSize slice + 4 ≤ slice.length := by
  unfold eventOf at h
  split at h
  · cases h
  · rename_i packet hpacket
    exact root.root_offset hpacket

theorem decodeSized_some_length {len : Nat} {src : List UInt8} {event : Event} {t : CodecState}
    (h : decodeSized root len src = (.ok (some event), t)) : t.src.length < src.length := by
  unfold decodeSized at h
  split_ifs at h with hlen
  · cases h
  · split at h
    · cases h
    · rename_i e hevent
      cases h
      have hfour := eventOf_some_length hevent
      rw [List.length_take] at hfour
      simp only [List.length_drop]
      omega

theorem decodeStep_decreases (root : RootDecoder ε) :
    FuelLoop.Decreases (decodeStep root) fun s => s.2.src.length := by
  intro s s' h
  unfold decodeStep at h
  split at h
  · cases h
  · cases h
  · rename_i event t hdecode
    cases h
    unfold decode at hdecode
    split at hdecode
    · split_ifs at hdecode
      · cases hdecode
      · have hlt := decodeSized_some_length hdecode
        rw [List.length_drop] at hlt
        show t.src.length < s.2.src.length
        omega
    · exact decodeSized_some_length hdecode

/-- Waiting for a block of the size. -/
theorem decodeStep_short {events : List Event} {len : Nat} {src : List UInt8}
    (h : src.length < len) :
    decodeStep root (events, ⟨⟨some len⟩, src⟩) = .ok (.inr (events, ⟨⟨some len⟩, src⟩)) := by
  simp only [decodeStep, decode, decodeSized, if_pos h]

/-- A whole block is there: it stays when it is not accepted. -/
theorem decode_block (block rest : List UInt8) :
    decode root ⟨⟨some block.length⟩, block ++ rest⟩ =
      match eventOf root block with
      | .error e => (.error e, ⟨⟨some block.length⟩, block ++ rest⟩)
      | .ok event => (.ok event, ⟨⟨some block.length⟩, rest⟩) := by
  have hlen : ¬ (block ++ rest).length < block.length := by
    rw [List.length_append]
    omega
  simp only [decode, decodeSized, if_neg hlen, List.take_left, List.drop_left]

theorem decodeStep_event {events : List Event} {block rest : List UInt8} {event : Event}
    (h : eventOf root block = .ok (some event)) :
    decodeStep root (events, ⟨⟨some block.length⟩, block ++ rest⟩) =
      .ok (.inl (events ++ [event], ⟨⟨some block.length⟩, rest⟩)) := by
  simp only [decodeStep, decode_block, h]

/-- A block of another type ends the calls, although more may be there. -/
theorem decodeStep_silent {events : List Event} {block rest : List UInt8}
    (h : eventOf root block = .ok none) :
    decodeStep root (events, ⟨⟨some block.length⟩, block ++ rest⟩) =
      .ok (.inr (events, ⟨⟨some block.length⟩, rest⟩)) := by
  simp only [decodeStep, decode_block, h]

theorem decodeStep_error {events : List Event} {block rest : List UInt8} {e : CodecError ε}
    (h : eventOf root block = .error e) :
    decodeStep root (events, ⟨⟨some block.length⟩, block ++ rest⟩) = .error e := by
  simp only [decodeStep, decode_block, h]

theorem decodeStep_start {events : List Event} {src : List UInt8} (h : src.length < 4) :
    decodeStep root (events, ⟨⟨none⟩, src⟩) = .ok (.inr (events, ⟨⟨none⟩, src⟩)) := by
  have hshort : src.length < offsetSize := h
  simp only [decodeStep, decode, if_pos hshort]

theorem decodeStep_prefixed {events : List Event} {src : List UInt8} (h : 4 ≤ src.length) :
    decodeStep root (events, ⟨⟨none⟩, src⟩) =
      decodeStep root (events, ⟨⟨some (declaredSize src)⟩, src.drop 4⟩) := by
  have hlong : ¬ src.length < offsetSize := not_lt.mpr h
  simp only [decodeStep, decode, if_neg hlong]
  rfl

/-- A chunk that brings the prefix does what the bytes behind the prefix do to a
codec that knows the size. -/
theorem decodeChunk_prefixed {events : List Event} {src chunk : List UInt8}
    (h : 4 ≤ (src ++ chunk).length) :
    decodeChunk root (events, ⟨⟨none⟩, src⟩) chunk =
      decodeChunk root (events, ⟨⟨some (declaredSize (src ++ chunk))⟩, []⟩)
        ((src ++ chunk).drop 4) :=
  FuelLoop.run_congr_step (decodeStep_decreases root) (decodeStep_prefixed h)

/-! ## Blocks of one size -/

/-- The block has the size and bears the event. -/
def BlockOf (root : RootDecoder ε) (len : Nat) (block : List UInt8) (event : Event) : Prop :=
  block.length = len ∧ eventOf root block = .ok (some event)

def Ends (root : RootDecoder ε) (len : Nat) (tail : List UInt8) : Prop :=
  tail = [] ∨ (tail.length = len ∧ eventOf root tail = .ok none)

theorem run_blocks {len : Nat} {blocks : List (List UInt8)} {events : List Event}
    (h : List.Forall₂ (BlockOf root len) blocks events) (acc : List Event) (rest : List UInt8) :
    FuelLoop.run (decodeStep root) (fun s => s.2.src.length)
        (acc, ⟨⟨some len⟩, blocks.flatten ++ rest⟩) =
      FuelLoop.run (decodeStep root) (fun s => s.2.src.length)
        (acc ++ events, ⟨⟨some len⟩, rest⟩) := by
  induction h generalizing acc with
  | nil => rw [List.append_nil]; rfl
  | @cons block event blocks events hblock _ ih =>
      obtain ⟨rfl, hevent⟩ := hblock
      rw [List.flatten_cons, List.append_assoc,
        FuelLoop.run_of_next (decodeStep_decreases root) (decodeStep_event hevent), ih,
        List.append_assoc]
      rfl

/-- Where a part of the blocks and their end is cut off. -/
theorem split_blocks {len : Nat} {blocks : List (List UInt8)} {events : List Event}
    {tail x y : List UInt8} (hblocks : List.Forall₂ (BlockOf root len) blocks events)
    (hends : Ends root len tail) (hlen : 0 < len) (h : x ++ y = blocks.flatten ++ tail) :
    ∃ done doneEvents left leftEvents x', events = doneEvents ++ leftEvents ∧
      List.Forall₂ (BlockOf root len) done doneEvents ∧
      List.Forall₂ (BlockOf root len) left leftEvents ∧
      x = done.flatten ++ x' ∧ x' ++ y = left.flatten ++ tail ∧
      (x'.length < len ∨
        (left = [] ∧ y = [] ∧ x'.length = len ∧ eventOf root x' = .ok none)) := by
  induction hblocks generalizing x with
  | nil =>
      refine ⟨[], [], [], [], x, rfl, .nil, .nil, rfl, h, ?_⟩
      rw [List.flatten_nil, List.nil_append] at h
      rcases hends with rfl | ⟨htail, hsilent⟩
      · rw [List.append_eq_nil_iff] at h
        rw [h.1]
        exact .inl hlen
      · by_cases hx : x.length < len
        · exact .inl hx
        · have hlens := congrArg List.length h
          rw [List.length_append] at hlens
          have hy : y = [] := List.length_eq_zero_iff.mp (by omega)
          rw [hy, List.append_nil] at h
          rw [h]
          exact .inr ⟨rfl, hy, htail, hsilent⟩
  | @cons block event blocks events hblock hrest ih =>
      by_cases hx : x.length < len
      · exact ⟨[], [], block :: blocks, event :: events, x, rfl, .nil, .cons hblock hrest, rfl,
          h, .inl hx⟩
      · rw [List.flatten_cons, List.append_assoc] at h
        have hprefix : block <+: x :=
          List.prefix_of_prefix_length_le ⟨_, h.symm⟩ (List.prefix_append x y)
            (by rw [hblock.1]; omega)
        obtain ⟨x₂, rfl⟩ := hprefix
        rw [List.append_assoc] at h
        obtain ⟨done, doneEvents, left, leftEvents, x', hevents, hdone, hleft, hx', hy, hend⟩ :=
          ih (List.append_cancel_left h)
        refine ⟨block :: done, event :: doneEvents, left, leftEvents, x', ?_, .cons hblock hdone,
          hleft, ?_, hy, hend⟩
        · rw [hevents, List.cons_append]
        · rw [hx', List.flatten_cons, List.append_assoc]

theorem decodeChunks_blocks {len : Nat} (hlen : 0 < len) (chunks : List (List UInt8))
    {src tail : List UInt8} {blocks : List (List UInt8)} {acc events : List Event}
    (hblocks : List.Forall₂ (BlockOf root len) blocks events) (hends : Ends root len tail)
    (hsrc : src.length < len) (h : src ++ chunks.flatten = blocks.flatten ++ tail) :
    StepRun.run (decodeChunk root) (acc, ⟨⟨some len⟩, src⟩) chunks =
      .ok (acc ++ events, ⟨⟨some len⟩, []⟩) := by
  induction chunks generalizing src blocks acc events tail with
  | nil =>
      have hlens := congrArg List.length h
      rw [List.flatten_nil, List.append_nil, List.length_append] at hlens
      rw [List.flatten_nil, List.append_nil] at h
      cases hblocks with
      | nil =>
          rcases hends with rfl | ⟨htail, -⟩
          · have hnil : src = [] := h
            rw [List.append_nil, hnil, StepRun.run_nil]
          · omega
      | cons hblock _ =>
          rw [List.flatten_cons, List.length_append, hblock.1] at hlens
          omega
  | cons chunk chunks ih =>
      rw [List.flatten_cons, ← List.append_assoc] at h
      obtain ⟨done, doneEvents, left, leftEvents, x', rfl, hdone, hleft, hx', hrest, hend⟩ :=
        split_blocks hblocks hends hlen h
      have hchunk : decodeChunk root (acc, ⟨⟨some len⟩, src⟩) chunk =
          FuelLoop.run (decodeStep root) (fun s => s.2.src.length)
            (acc ++ doneEvents, ⟨⟨some len⟩, x'⟩) := by
        rw [← run_blocks hdone acc x', ← hx']
        rfl
      rw [← List.append_assoc]
      rcases hend with hshort | ⟨rfl, hnil, rfl, hsilent⟩
      · rw [StepRun.run_cons_of_ok (hchunk.trans (FuelLoop.run_of_done (decodeStep_short hshort)))]
        exact ih hleft hends hshort hrest
      · cases hleft
        have hstep : decodeStep root (acc ++ doneEvents, ⟨⟨some x'.length⟩, x' ++ []⟩) =
            .ok (.inr (acc ++ doneEvents, ⟨⟨some x'.length⟩, []⟩)) := decodeStep_silent hsilent
        rw [List.append_nil] at hstep
        rw [StepRun.run_cons_of_ok (hchunk.trans (FuelLoop.run_of_done hstep))]
        exact ih .nil (.inl rfl) hlen (by rw [hnil]; rfl)

theorem decodeChunks_short (root : RootDecoder ε) (chunks : List (List UInt8))
    (acc : List Event) {src : List UInt8} (h : (src ++ chunks.flatten).length < 4) :
    StepRun.run (decodeChunk root) (acc, ⟨⟨none⟩, src⟩) chunks =
      .ok (acc, ⟨⟨none⟩, src ++ chunks.flatten⟩) := by
  induction chunks generalizing src with
  | nil => rw [List.flatten_nil, List.append_nil, StepRun.run_nil]
  | cons chunk chunks ih =>
      rw [List.flatten_cons, ← List.append_assoc] at h ⊢
      have hmore : (src ++ chunk).length < 4 := by
        rw [List.length_append] at h
        omega
      have hchunk : decodeChunk root (acc, ⟨⟨none⟩, src⟩) chunk =
          .ok (acc, ⟨⟨none⟩, src ++ chunk⟩) := FuelLoop.run_of_done (decodeStep_start hmore)
      rw [StepRun.run_cons_of_ok hchunk]
      exact ih h

/-- From the start, where the first four bytes are the prefix. -/
theorem decodeChunks_start {bytes : List UInt8} (hfour : 4 ≤ bytes.length)
    (hlen : 0 < declaredSize bytes) {blocks : List (List UInt8)} {tail : List UInt8}
    (acc : List Event) {events : List Event}
    (hblocks : List.Forall₂ (BlockOf root (declaredSize bytes)) blocks events)
    (hends : Ends root (declaredSize bytes) tail)
    (hbytes : bytes.drop 4 = blocks.flatten ++ tail) (chunks : List (List UInt8))
    {src : List UInt8} (hsrc : src.length < 4) (h : src ++ chunks.flatten = bytes) :
    StepRun.run (decodeChunk root) (acc, ⟨⟨none⟩, src⟩) chunks =
      .ok (acc ++ events, ⟨⟨some (declaredSize bytes)⟩, []⟩) := by
  induction chunks generalizing src with
  | nil =>
      rw [List.flatten_nil, List.append_nil] at h
      rw [h] at hsrc
      omega
  | cons chunk chunks ih =>
      rw [List.flatten_cons, ← List.append_assoc] at h
      by_cases hmore : (src ++ chunk).length < 4
      · have hchunk : decodeChunk root (acc, ⟨⟨none⟩, src⟩) chunk =
            .ok (acc, ⟨⟨none⟩, src ++ chunk⟩) := FuelLoop.run_of_done (decodeStep_start hmore)
        rw [StepRun.run_cons_of_ok hchunk]
        exact ih hmore h
      · have hthere : 4 ≤ (src ++ chunk).length := not_lt.mp hmore
        have hsize : declaredSize (src ++ chunk) = declaredSize bytes := by
          rw [← h, declaredSize_append hthere]
        have hchunk : StepRun.run (decodeChunk root) (acc, ⟨⟨none⟩, src⟩) (chunk :: chunks) =
            StepRun.run (decodeChunk root) (acc, ⟨⟨some (declaredSize bytes)⟩, []⟩)
              ((src ++ chunk).drop 4 :: chunks) := by
          rw [StepRun.run, StepRun.run, decodeChunk_prefixed hthere, hsize]
        rw [hchunk]
        refine decodeChunks_blocks hlen _ hblocks hends hlen ?_
        rw [List.nil_append, List.flatten_cons, ← hbytes, ← h,
          List.drop_append_of_le_length hthere]

/-- A run that leaves nothing has cut the bytes into blocks. -/
theorem blocks_of_run {len : Nat} (hlen : 0 < len) {acc out : List Event} {src : List UInt8}
    {codec : PadCodec}
    (h : FuelLoop.run (decodeStep root) (fun s => s.2.src.length) (acc, ⟨⟨some len⟩, src⟩) =
      .ok (out, ⟨codec, []⟩)) :
    ∃ blocks events tail, out = acc ++ events ∧ src = blocks.flatten ++ tail ∧
      List.Forall₂ (BlockOf root len) blocks events ∧ Ends root len tail := by
  induction hn : src.length using Nat.strongRecOn generalizing acc src out with
  | _ n ih =>
      by_cases hshort : src.length < len
      · rw [FuelLoop.run_of_done (decodeStep_short hshort)] at h
        cases h
        exact ⟨[], [], [], (List.append_nil acc).symm, rfl, .nil, .inl rfl⟩
      · have hblock : (src.take len).length = len := by
          rw [List.length_take]
          omega
        have hsrc := List.take_append_drop len src
        generalize src.take len = block at hblock hsrc
        generalize src.drop len = rest at hsrc
        subst hblock hsrc
        cases hevent : eventOf root block with
        | error e =>
            rw [FuelLoop.run_of_fault (decodeStep_error hevent)] at h
            cases h
        | ok event =>
            cases event with
            | none =>
                rw [FuelLoop.run_of_done (decodeStep_silent hevent)] at h
                cases h
                exact ⟨[], [], block, (List.append_nil acc).symm, List.append_nil block, .nil,
                  .inr ⟨rfl, hevent⟩⟩
            | some event =>
                rw [FuelLoop.run_of_next (decodeStep_decreases root) (decodeStep_event hevent)]
                  at h
                rw [List.length_append] at hn
                obtain ⟨blocks, events, tail, hout, hrest, hblocks, hends⟩ :=
                  ih rest.length (by omega) h rfl
                refine ⟨block :: blocks, event :: events, tail, ?_, ?_,
                  .cons ⟨rfl, hevent⟩ hblocks, hends⟩
                · rw [hout, List.append_assoc]
                  rfl
                · rw [hrest, List.flatten_cons, List.append_assoc]

end

/-! ## Pad packets -/

/-- A complete size-prefixed packet with a pad, as a sender builds it. -/
structure PadPacket (fb : Flatbuffers ε) extends SentPacket fb where
  report : MainReport
  event_eq : event = .padDataReceived report

def padStream {fb : Flatbuffers ε} (packets : List (PadPacket fb)) : List UInt8 :=
  packets.flatMap (·.bytes)

/-- Behind the first prefix stand blocks of the first packet's size, and they bear
the packets' pads; a block of another type may end them. -/
def InBlocks {fb : Flatbuffers ε} (root : RootDecoder ε) (packets : List (PadPacket fb)) :
    Prop :=
  ∀ first rest, packets = first :: rest → ∃ blocks tail,
    (padStream packets).drop 4 = blocks.flatten ++ tail ∧
      List.Forall₂ (BlockOf root (declaredSize first.bytes)) blocks
        (packets.map fun p => .padDataReceived p.report) ∧
      Ends root (declaredSize first.bytes) tail

section

variable {fb : Flatbuffers ε} {root : RootDecoder ε}

theorem PadPacket.four_le (p : PadPacket fb) : 4 ≤ p.bytes.length := by
  rw [p.size_prefixed]
  omega

theorem declaredSize_padStream (first : PadPacket fb) (rest : List (PadPacket fb)) :
    declaredSize (padStream (first :: rest)) = declaredSize first.bytes := by
  rw [padStream, List.flatMap_cons, declaredSize_append first.four_le]

theorem four_le_padStream (first : PadPacket fb) (rest : List (PadPacket fb)) :
    4 ≤ (padStream (first :: rest)).length := by
  have hfour := first.four_le
  rw [padStream, List.flatMap_cons, List.length_append]
  omega

/-- A second packet that is no smaller than the first cannot be taken for a block:
its prefix is read as a root offset out of range. -/
theorem not_inBlocks_of_le {first second : PadPacket fb} {rest : List (PadPacket fb)}
    (h : declaredSize first.bytes ≤ declaredSize second.bytes) :
    ¬ InBlocks root (first :: second :: rest) := by
  intro hblocks
  obtain ⟨blocks, tail, hbytes, hbears, -⟩ := hblocks first _ rfl
  simp only [List.map_cons] at hbears
  obtain ⟨block₁, later, hblock, hlater, rfl⟩ := List.forall₂_cons_right_iff.mp hbears
  obtain ⟨block₂, blocks, ⟨hlen, hevent⟩, -, rfl⟩ := List.forall₂_cons_right_iff.mp hlater
  have hrange := eventOf_some_length hevent
  have hbody : (first.bytes.drop 4).length = block₁.length := by
    rw [List.length_drop, first.size_prefixed, hblock.1]
    omega
  simp only [padStream, List.flatMap_cons, List.flatten_cons, List.append_assoc] at hbytes
  rw [List.drop_append_of_le_length first.four_le] at hbytes
  have hsecond := List.append_inj_right hbytes hbody
  have hsize : declaredSize block₂ = declaredSize second.bytes := by
    rw [← declaredSize_append (by omega : 4 ≤ block₂.length), ← hsecond,
      declaredSize_append second.four_le]
  omega

/-- At once, `Connection` yields every pad. -/
theorem receive_padStream (packets : List (PadPacket fb)) :
    receiveChunks fb [padStream packets] =
      .ok (packets.map fun p => .ok (.padDataReceived p.report), Connection.new) := by
  let frames : List (Frame fb) := packets.map fun p => .packet p.toSentPacket
  have hbytes : padStream packets = Framing.stream Frame.bytes frames := by
    rw [padStream, Framing.stream, List.flatMap_map]
    rfl
  have hitems : (frames.map fun f => (.ok f.event : Item ε)) =
      packets.map fun p => .ok (.padDataReceived p.report) := by
    rw [List.map_map]
    exact List.map_congr_left fun p _ => congrArg Except.ok p.event_eq
  have hevents := events_stream frames waiting_nil
  rw [List.append_nil, ← hbytes, hitems] at hevents
  have hchunk := receiveChunk_eq fb [] [] (padStream packets)
  rw [List.nil_append, hevents] at hchunk
  exact (StepRun.run_singleton _ _).trans hchunk

theorem inBlocks_of_decodes {first : PadPacket fb} {rest : List (PadPacket fb)} {codec : PadCodec}
    (h : decodeChunks root [padStream (first :: rest)] =
      .ok ((first :: rest).map fun p => .padDataReceived p.report, ⟨codec, []⟩)) :
    InBlocks root (first :: rest) := by
  have hsize := declaredSize_padStream first rest
  have hfour : 4 ≤ ([] ++ padStream (first :: rest)).length := four_le_padStream first rest
  rw [decodeChunks, StepRun.run_singleton, decodeChunk_prefixed hfour, List.nil_append,
    hsize] at h
  obtain ⟨blocks, events, tail, hevents, hsrc, hblocks, hends⟩ := blocks_of_run first.nonempty h
  rw [List.nil_append] at hevents hsrc
  rintro _ _ ⟨rfl, rfl⟩
  exact ⟨blocks, tail, hsrc, hevents ▸ hblocks, hends⟩

theorem decodes_of_inBlocks {packets : List (PadPacket fb)} (h : InBlocks root packets)
    (chunks : List (List UInt8)) (hchunks : chunks.flatten = padStream packets) :
    ∃ codec, decodeChunks root chunks =
      .ok (packets.map fun p => .padDataReceived p.report, ⟨codec, []⟩) := by
  cases packets with
  | nil =>
      have hempty : chunks.flatten = [] := hchunks
      have hshort : ([] ++ chunks.flatten).length < 4 := by simp [hempty]
      have hrun := decodeChunks_short root chunks [] hshort
      rw [hempty, List.append_nil] at hrun
      exact ⟨_, hrun⟩
  | cons first rest =>
      obtain ⟨blocks, tail, hbytes, hblocks, hends⟩ := h first rest rfl
      have hpos : 0 < declaredSize first.bytes := first.nonempty
      rw [← declaredSize_padStream first rest] at hblocks hends hpos
      have hnone : ([] : List UInt8).length < 4 := by simp
      exact ⟨_, decodeChunks_start (four_le_padStream first rest) hpos [] hblocks hends hbytes
        chunks hnone hchunks⟩

end

/-- The codec takes the packets in any chunks, and agrees with `Connection`,
exactly when the bytes behind the first prefix are blocks of the first packet's
size that bear the pads. -/
theorem decodeChunks_agrees_iff (fb : Flatbuffers ε) (root : RootDecoder ε)
    (packets : List (PadPacket fb)) :
    (∀ chunks : List (List UInt8), chunks.flatten = padStream packets →
        ∃ events codec, decodeChunks root chunks = .ok (events, ⟨codec, []⟩) ∧
          events = packets.map (fun p => .padDataReceived p.report) ∧
          receiveChunks fb [chunks.flatten] = .ok (events.map .ok, Connection.new)) ↔
      InBlocks root packets := by
  constructor
  · intro h
    cases packets with
    | nil =>
        intro first rest hpackets
        cases hpackets
    | cons first rest =>
        obtain ⟨events, codec, hrun, rfl, -⟩ := h [padStream (first :: rest)] (by simp)
        exact inBlocks_of_decodes hrun
  · intro h chunks hchunks
    obtain ⟨codec, hrun⟩ := decodes_of_inBlocks h chunks hchunks
    refine ⟨_, codec, hrun, rfl, ?_⟩
    rw [hchunks, receive_padStream, List.map_map]
    rfl

/-- A pad with nothing pressed or touched, its timestamp left to the default. -/
def untimedPacket : List UInt8 :=
  [140, 0, 0, 0, 12, 0, 0, 0, 8, 0, 14, 0, 7, 0, 8, 0, 8, 0, 0, 0, 0, 0, 0, 3, 28, 0, 0, 0,
    0, 0, 22, 0, 60, 0, 5, 0, 0, 0, 0, 0, 0, 0, 0, 0, 20, 0, 24, 0, 28, 0, 0, 0, 22, 0, 0,
    0, 0, 0, 0, 0, 0, 0, 0, 0, 0, 0, 0, 0, 0, 0, 0, 0, 60, 0, 0, 0, 36, 0, 0, 0, 0, 0, 0, 0,
    0, 0, 0, 0, 0, 0, 0, 0, 0, 0, 0, 0, 0, 0, 0, 0, 0, 0, 0, 0, 0, 0, 0, 0, 0, 0, 0, 0,
    242, 255, 255, 255, 4, 0, 0, 0, 0, 0, 0, 0, 0, 0, 6, 0, 8, 0, 4, 0, 6, 0, 0, 0, 4, 0, 0,
    0, 0, 0, 0, 0]

def untimedTable : NetProtocol.Pad where
  buttons := some ⟨false, false, false, false, false, false, false, false, false, false,
    false, false, false, false, false⟩
  lx := 0
  ly := 0
  rx := 0
  ry := 0
  frontTouch := some ⟨some []⟩
  backTouch := some ⟨some []⟩
  motion := some ⟨⟨0, 0, 0⟩, ⟨0, 0, 0⟩⟩
  timestamp := 0
  chargePercent := 0

def untimedReport : MainReport where
  buttons := .from ⟨false, false, false, false, false, false, false, false, false, false,
    false, false, false, false, false⟩
  lx := 0
  ly := 0
  rx := 0
  ry := 0
  frontTouch := ⟨[]⟩
  backTouch := ⟨[]⟩
  motion := ⟨⟨0, 0, 0⟩, ⟨0, 0, 0⟩⟩
  timestamp := 0
  chargePercent := 0

def untimedOnly : Flatbuffers Unit :=
  .ofTables () [(untimedPacket, ⟨.pad, none, some untimedTable⟩)] []

def untimedRoot : RootDecoder Unit where
  rootAsPacket buffer :=
    if buffer = untimedPacket.drop 4 then .ok ⟨.pad, none, some untimedTable⟩ else .error ()
  root_offset {buffer packet} h := by
    split_ifs at h with hbuffer
    · rw [hbuffer]
      decide +kernel

def untimedPad : PadPacket untimedOnly where
  bytes := untimedPacket
  event := .padDataReceived untimedReport
  report := untimedReport
  event_eq := rfl
  size_prefixed := by decide +kernel
  nonempty := by decide +kernel
  short := by decide +kernel
  decodes := ⟨⟨.pad, none, some untimedTable⟩, by decide +kernel,
    .pad rfl rfl (by constructor <;> rfl)⟩

/-- The first packet alone is decoded, the second is not. -/
theorem not_decodeChunks_agrees_twice :
    [untimedPad.bytes, untimedPad.bytes].flatten = padStream [untimedPad, untimedPad] ∧
      decodeChunks untimedRoot [untimedPad.bytes] =
        .ok ([untimedPad.event], ⟨⟨some 140⟩, []⟩) ∧
      decodeChunks untimedRoot [untimedPad.bytes, untimedPad.bytes] =
        .error (.fault (.invalidFlatbuffer ())) ∧
      receiveChunks untimedOnly [untimedPad.bytes ++ untimedPad.bytes] =
        .ok ([.ok untimedPad.event, .ok untimedPad.event], Connection.new) := by
  refine ⟨by decide +kernel, by decide +kernel, by decide +kernel, by decide +kernel⟩

end VitaOxiPad.Client
