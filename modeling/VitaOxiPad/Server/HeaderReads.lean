import VitaOxiPad.Server.Segmentation
/-!
# Reading the content type of an unverified buffer

`handle_data` follows a packet's own offsets to its content type before the
verifier has seen the packet, and the dispatch loop calls it once more after the
last message, when the buffer may be short or empty.  The reads stay inside the
buffer exactly when something is left that the dispatcher takes no message from
and whose header fits into it.
-/

namespace VitaOxiPad.Server

open ByteOrder NetProtocol

variable {fb : Flatbuffers} {getpeername : Socket → SockaddrIn}

/-! ## Headers -/

/-- The offsets declared in a header stay inside the bytes. -/
def HeaderFits (bytes : List UInt8) : Prop :=
  let mem := memory bytes fun _ => 0
  let table := rootTable mem
  let vtable := rootVtable mem
  let field := readLe mem (vtable + 4) 2
  8 ≤ bytes.length ∧ table + 4 ≤ bytes.length ∧ 0 ≤ vtable ∧ vtable + 2 ≤ bytes.length ∧
    (4 < readLe mem vtable 2 → vtable + 6 ≤ bytes.length ∧
      (field ≠ 0 → table + field + 1 ≤ bytes.length))

instance (bytes : List UInt8) : Decidable (HeaderFits bytes) := by
  unfold HeaderFits
  infer_instance

theorem rootTable_pos (mem : Int → UInt8) : 4 ≤ rootTable mem := by
  unfold rootTable
  omega

theorem inside_congr {bytes : List UInt8} {outside : Int → UInt8}
    (h : (layoutContentType (memory bytes outside)).Inside bytes.length)
    (outside' : Int → UInt8) :
    layoutContentType (memory bytes outside') = layoutContentType (memory bytes outside) := by
  have happend := layoutContentType_append h [] outside'
  rwa [List.append_nil] at happend

theorem inside_zero_iff (bytes : List UInt8) :
    (layoutContentType (memory bytes fun _ => 0)).Inside bytes.length ↔ HeaderFits bytes := by
  unfold HeaderFits layoutContentType
  dsimp only
  generalize (memory bytes fun _ => 0) = mem
  have hpos := rootTable_pos mem
  generalize rootTable mem = table at hpos ⊢
  generalize rootVtable mem = vtable
  generalize readLe mem vtable 2 = vtableSize
  generalize readLe mem (vtable + 4) 2 = field
  by_cases hslot : vtableSize ≤ 4
  · rw [if_pos hslot]
    simp only [TagRead.Inside, List.forall_mem_cons, List.not_mem_nil, IsEmpty.forall_iff,
      implies_true, and_true]
    omega
  · rw [if_neg hslot]
    by_cases hzero : field = 0
    · rw [if_pos hzero]
      simp only [TagRead.Inside, List.cons_append, List.nil_append, List.forall_mem_cons,
        List.not_mem_nil, IsEmpty.forall_iff, implies_true, and_true]
      omega
    · rw [if_neg hzero]
      simp only [TagRead.Inside, List.cons_append, List.nil_append, List.forall_mem_cons,
        List.not_mem_nil, IsEmpty.forall_iff, implies_true, and_true]
      omega

theorem inside_iff_headerFits (bytes : List UInt8) (outside : Int → UInt8) :
    (layoutContentType (memory bytes outside)).Inside bytes.length ↔ HeaderFits bytes := by
  rw [← inside_zero_iff]
  constructor
  · intro h
    rwa [inside_congr h]
  · intro h
    rwa [inside_congr h]

/-! ## Messages -/

/-- What the buffer holds after the message at its front, if the dispatcher takes one. -/
def takeMessage (fb : Flatbuffers) (buffer : List UInt8) : Option (List UInt8) :=
  if heartbeatMagic.isPrefixOf buffer then some (buffer.drop heartbeatMagic.length)
  else do
    let size ← fb.verify buffer
    let handler ← handlers fb (fb.contentType (memory buffer fun _ => 0)).tag
    let _ ← handler buffer
    return buffer.drop size

/-- The dispatcher takes whole messages off the buffer until this is left. -/
def Leaves (fb : Flatbuffers) (buffer rest : List UInt8) : Prop :=
  Relation.ReflTransGen (fun b b' => takeMessage fb b = some b') buffer rest ∧
    takeMessage fb rest = none

/-- The generated code follows the layout, and the verifier looks at the header. -/
structure FollowsLayout (fb : Flatbuffers) : Prop where
  contentType : fb.contentType = layoutContentType
  accepted : ∀ buffer size, fb.verify buffer = some size → HeaderFits buffer

theorem tag_of_accepted (h : FollowsLayout fb) {buffer : List UInt8} {size : Nat}
    (hverify : fb.verify buffer = some size) (outside : Int → UInt8) :
    fb.contentType (memory buffer outside) = fb.contentType (memory buffer fun _ => 0) := by
  rw [h.contentType]
  apply inside_congr
  rw [inside_zero_iff]
  exact h.accepted buffer size hverify

theorem dispatchStep_next_iff (h : FollowsLayout fb) (input : Receive) (s : Dispatch)
    (rest : List UInt8) :
    (∃ s', dispatchStep fb getpeername input s = .ok (.inl s') ∧ s'.client.buffer = rest) ↔
      takeMessage fb s.client.buffer = some rest := by
  by_cases hmagic : heartbeatMagic <+: s.client.buffer
  · obtain ⟨tail, htail⟩ := hmagic
    have hprefix : heartbeatMagic.isPrefixOf (heartbeatMagic ++ tail) = true := by simp
    have htake : takeMessage fb s.client.buffer = some tail := by
      rw [← htail, takeMessage, if_pos hprefix, List.drop_left]
    rw [htake]
    simp [dispatchStep, handleHeartbeat_append _ htail.symm]
  · have hprefix : ¬ heartbeatMagic.isPrefixOf s.client.buffer = true := by
      rwa [List.isPrefixOf_iff_prefix]
    rw [takeMessage, if_neg hprefix]
    simp only [dispatchStep, handleHeartbeat_none _ hmagic]
    cases hverify : fb.verify s.client.buffer with
    | none =>
        refine iff_of_false ?_ (by simp)
        rintro ⟨s', hstep, -⟩
        split at hstep
        · cases hstep
        · rename_i message client hdata
          obtain ⟨size, hsize, -⟩ := handleData_some hdata
          cases hverify.symm.trans hsize
        · cases hstep
    | some size =>
        have htag := tag_of_accepted h hverify (input.outside s.client.buffer.length)
        cases hhandler : handlers fb
            (fb.contentType (memory s.client.buffer fun _ => 0)).tag with
        | none =>
            have hunsupported : ¬ Supported fb s.client.buffer
                (input.outside s.client.buffer.length) := by
              rw [Supported, htag, hhandler]
              simp
            simp [handleData_unsupported getpeername (storage_of_verify hverify) hunsupported]
        | some handler =>
            rw [← htag] at hhandler
            cases hcontent : handler s.client.buffer with
            | none => simp [handleData_nullContent getpeername hhandler hverify hcontent, hcontent]
            | some message =>
                simp [handleData_accepted getpeername hhandler hverify hcontent, hcontent]

theorem reach_iff_take (h : FollowsLayout fb) (input : Receive) (s : Dispatch)
    (rest : List UInt8) :
    (∃ t, FuelLoop.Reach (dispatchStep fb getpeername input) s t ∧ t.client.buffer = rest) ↔
      Relation.ReflTransGen (fun b b' => takeMessage fb b = some b') s.client.buffer rest := by
  constructor
  · rintro ⟨t, hreach, rfl⟩
    induction hreach with
    | refl => exact .refl
    | @tail a b _ hstep ih =>
        exact ih.tail ((dispatchStep_next_iff h input a b.client.buffer).mp ⟨b, hstep, rfl⟩)
  · intro hpath
    induction hpath with
    | refl => exact ⟨s, .refl, rfl⟩
    | tail _ htake ih =>
        obtain ⟨t, hreach, rfl⟩ := ih
        obtain ⟨t', hstep, hbuffer⟩ := (dispatchStep_next_iff h input t _).mpr htake
        exact ⟨t', hreach.tail hstep, hbuffer⟩

theorem Leaves.eq_of_path {buffer rest last : List UInt8} (h : Leaves fb buffer rest)
    (hpath : Relation.ReflTransGen (fun b b' => takeMessage fb b = some b') buffer last)
    (hlast : takeMessage fb last = none) : last = rest := by
  have hunique : Relator.RightUnique fun b b' => takeMessage fb b = some b' := by
    intro a b c hb hc
    exact Option.some.inj (hb.symm.trans hc)
  rcases Relation.ReflTransGen.total_of_right_unique hunique hpath h.1 with hfrom | hfrom
  · rcases hfrom.cases_head with heq | ⟨b, hb, -⟩
    · exact heq
    · rw [hlast] at hb
      cases hb
  · rcases hfrom.cases_head with heq | ⟨b, hb, -⟩
    · exact heq.symm
    · rw [h.2] at hb
      cases hb

/-! ## One readable event, and any number of them -/

/-- Whenever `handle_data` is called in the dispatch loop, it finds the content
type by reading bytes of the buffer only. -/
def ReadsInside (fb : Flatbuffers) (getpeername : Socket → SockaddrIn) (client : Client)
    (input : Receive) : Prop :=
  ∀ received, StepRun.run Client.addToBuffer client input.pieces = .ok received →
    ∀ s, FuelLoop.Reach (dispatchStep fb getpeername input) ⟨received, []⟩ s →
      s.client.handleHeartbeat (input.clock s.client.buffer.length) = none →
      (fb.contentType (memory s.client.buffer (input.outside s.client.buffer.length))).Inside
        s.client.buffer.length

def LeavesHeader (fb : Flatbuffers) (client : Client) (input : Receive) : Prop :=
  ∀ received, StepRun.run Client.addToBuffer client input.pieces = .ok received →
    ∃ rest, Leaves fb received.buffer rest ∧ HeaderFits rest

theorem not_prefix_of_take_none {buffer : List UInt8} (h : takeMessage fb buffer = none) :
    ¬ heartbeatMagic <+: buffer := by
  intro hmagic
  rw [takeMessage, if_pos (List.isPrefixOf_iff_prefix.mpr hmagic)] at h
  cases h

theorem readsInside_iff_leavesHeader (h : FollowsLayout fb) (client : Client) (input : Receive) :
    ReadsInside fb getpeername client input ↔ LeavesHeader fb client input := by
  constructor
  · intro hreads received hreceived
    obtain ⟨s, hreach, hend⟩ := FuelLoop.exists_end
      (dispatchStep_decreases fb getpeername input) ⟨received, []⟩
    have hpath := (reach_iff_take h input ⟨received, []⟩ s.client.buffer).mp ⟨s, hreach, rfl⟩
    have hnone : takeMessage fb s.client.buffer = none := by
      by_contra hsome
      obtain ⟨rest, hrest⟩ := Option.ne_none_iff_exists'.mp hsome
      obtain ⟨s', hstep, -⟩ := (dispatchStep_next_iff h input s rest).mpr hrest
      rcases hend with ⟨e, hend⟩ | ⟨r, hend⟩
      · cases hstep.symm.trans hend
      · cases hstep.symm.trans hend
    refine ⟨s.client.buffer, ⟨hpath, hnone⟩, ?_⟩
    have hinside := hreads received hreceived s hreach
      (handleHeartbeat_none _ (not_prefix_of_take_none hnone))
    rw [h.contentType] at hinside
    exact (inside_iff_headerFits _ _).mp hinside
  · intro hleaves received hreceived s hreach hheartbeat
    obtain ⟨rest, hrest, hfits⟩ := hleaves received hreceived
    rw [h.contentType, inside_iff_headerFits]
    by_cases hnone : takeMessage fb s.client.buffer = none
    · have hpath := (reach_iff_take h input ⟨received, []⟩ s.client.buffer).mp ⟨s, hreach, rfl⟩
      rw [hrest.eq_of_path hpath hnone]
      exact hfits
    · -- a packet is taken here, so the verifier has accepted it
      have hprefix : ¬ heartbeatMagic.isPrefixOf s.client.buffer = true := by
        intro hprefix
        obtain ⟨tail, htail⟩ := List.isPrefixOf_iff_prefix.mp hprefix
        rw [handleHeartbeat_append _ htail.symm] at hheartbeat
        cases hheartbeat
      rw [takeMessage, if_neg hprefix] at hnone
      cases hverify : fb.verify s.client.buffer with
      | none => simp [hverify] at hnone
      | some size => exact h.accepted _ size hverify

/-- Over all the events of a client's connection, the reads stay inside the buffer
exactly when every event leaves such a header. -/
theorem reads_inside_iff (h : FollowsLayout fb) (client₀ : Client) (inputs : List Receive) :
    (∀ pre input post s, inputs = pre ++ input :: post →
      StepRun.run (receive fb getpeername) ([], client₀) pre = .ok s →
      ReadsInside fb getpeername s.2 input) ↔
    ∀ pre input post s, inputs = pre ++ input :: post →
      StepRun.run (receive fb getpeername) ([], client₀) pre = .ok s →
      LeavesHeader fb s.2 input := by
  constructor
  · intro hreads pre input post s hinputs hrun
    have hinside := hreads pre input post s hinputs hrun
    exact (readsInside_iff_leavesHeader h s.2 input).mp hinside
  · intro hleaves pre input post s hinputs hrun
    have hheader := hleaves pre input post s hinputs hrun
    exact (readsInside_iff_leavesHeader h s.2 input).mpr hheader

theorem HeaderFits.append {bytes : List UInt8} (h : HeaderFits bytes) (rest : List UInt8) :
    HeaderFits (bytes ++ rest) := by
  rw [← inside_zero_iff] at h ⊢
  rw [layoutContentType_append h rest]
  intro span hspan
  have hinside := h span hspan
  rw [List.length_append]
  omega

theorem followsLayout_ofPackets {packets : List (List UInt8 × Message)}
    (h : ∀ p ∈ packets, HeaderFits p.1) : FollowsLayout (.ofPackets packets) where
  contentType := rfl
  accepted := by
    intro buffer size hverify
    obtain ⟨p, hp, -⟩ := Option.map_eq_some_iff.mp hverify
    obtain ⟨rest, rfl⟩ := (knownPacket_spec hp).2
    exact (h p (List.mem_of_find?_eq_some hp)).append rest

theorem followsLayout_samplePackets : FollowsLayout samplePackets := by
  apply followsLayout_ofPackets
  decide +kernel

/-- A pad packet sent to the server is not taken, and its header fits. -/
theorem reads_inside_pad :
    ReadsInside samplePackets Socket.peer sampleClient (Receive.wouldBlock (padPacket 7)) := by
  apply (reads_inside_iff followsLayout_samplePackets sampleClient
    [Receive.wouldBlock (padPacket 7)]).mpr ?_ [] _ [] ([], sampleClient) rfl rfl
  intro pre input post s hinputs hrun received hreceived
  rcases pre with _ | ⟨a, pre⟩
  · cases hinputs
    cases hrun
    have hroom := run_addToBuffer sampleClient [padPacket 7] (by decide +kernel)
    cases hroom.symm.trans hreceived
    exact ⟨_, ⟨.refl, by decide +kernel⟩, by decide +kernel⟩
  · simp at hinputs

/-- After a heartbeat the loop looks for a content type in an empty buffer. -/
theorem not_reads_inside_after_heartbeat :
    ¬ ∀ pre input post s, [Receive.wouldBlock heartbeatMagic] = pre ++ input :: post →
      StepRun.run (receive samplePackets Socket.peer) ([], sampleClient) pre = .ok s →
      ReadsInside samplePackets Socket.peer s.2 input := by
  intro h
  have hreads := h [] _ [] ([], sampleClient) rfl rfl
  have hinside := hreads (sampleClient.setBuffer heartbeatMagic) rfl
    ⟨(sampleClient.setBuffer heartbeatMagic).setBuffer [], [.heartbeat]⟩ (.single rfl) rfl
  exact absurd hinside (by decide +kernel)

end VitaOxiPad.Server
