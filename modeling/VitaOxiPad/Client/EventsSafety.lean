import VitaOxiPad.Client.Connection
/-!
# Iterating `events()` without a panic

The guard of `next` compares the bytes after the third with the declared size,
so it lets a packet through whose last byte is missing, and the drain then ends
one past the buffer.  Everything else about the iteration is safe: the buffers
that panic are exactly the whole item-bearing frames followed by such a packet.
-/

namespace VitaOxiPad.Client

open NetProtocol

variable {ε : Type}

/-- `frame` is exactly one frame, and `next` returns `item` for it. -/
inductive WholeFrame (fb : Flatbuffers ε) : List UInt8 → Option (Item ε) → Prop
  | heartbeat : WholeFrame fb heartbeatMagic (some (.ok .heartbeatReceived))
  | packet {frame : List UInt8} :
      HoldsPacket frame → frame.length = declaredSize frame + 4 →
      WholeFrame fb frame (itemOf (fb.sizePrefixedRootAsPacket frame))

theorem HoldsPacket.append {frame : List UInt8} (h : HoldsPacket frame)
    (hlen : frame.length = declaredSize frame + 4) (rest : List UInt8) :
    HoldsPacket (frame ++ rest) := by
  obtain ⟨hb, hpos, hle⟩ := h
  have hdecl := declaredSize_append (by omega : 4 ≤ frame.length) rest
  refine ⟨fun hmagic => hb ?_, by omega, by rw [hdecl, List.length_append]; omega⟩
  -- a heartbeat's first four bytes declare more than any short frame holds
  have hbig := declaredSize_of_heartbeat hmagic
  rw [hdecl] at hbig
  exact List.prefix_of_prefix_length_le hmagic (List.prefix_append _ _)
    (by rw [length_heartbeatMagic]; omega)

theorem WholeFrame.next {fb : Flatbuffers ε} {frame : List UInt8}
    {item : Option (Item ε)} (h : WholeFrame fb frame item) (rest : List UInt8) :
    next fb (frame ++ rest) = .ok (item, rest) := by
  cases h with
  | heartbeat => exact next_heartbeat fb rest
  | packet hholds hlen =>
      have hdecl := declaredSize_append (by omega : 4 ≤ frame.length) rest
      rw [next_packet fb (hholds.append hlen rest), hdecl, ← hlen, List.take_left,
        List.drop_left]

theorem exists_frame_of_next {fb : Flatbuffers ε} {data rest : List UInt8} {item : Item ε}
    (h : next fb data = .ok (some item, rest)) :
    ∃ frame, WholeFrame fb frame (some item) ∧ data = frame ++ rest := by
  rcases front_cases data with hb | hw | hs | hp
  · obtain ⟨tail, rfl⟩ := hb
    rw [next_heartbeat] at h
    cases h
    exact ⟨heartbeatMagic, .heartbeat, rfl⟩
  · rw [next_waiting fb hw] at h
    cases h
  · rw [next_oneByteShort fb hs] at h
    cases h
  · rw [next_packet fb hp] at h
    obtain ⟨hb, hpos, hlen⟩ := hp
    simp only [Except.ok.injEq, Prod.mk.injEq] at h
    obtain ⟨hitem, rfl⟩ := h
    set n := declaredSize data + 4 with hn
    have htake : (data.take n).length = n := by
      rw [List.length_take]
      omega
    have hdecl : declaredSize (data.take n) = declaredSize data := by
      conv_rhs => rw [← List.take_append_drop n data]
      exact (declaredSize_append (by omega) _).symm
    refine ⟨data.take n, ?_, (List.take_append_drop n data).symm⟩
    rw [← hitem]
    refine .packet ⟨fun hmagic => hb ?_, by omega, by omega⟩ (by omega)
    exact hmagic.trans (List.take_prefix n data)

/-- A call panics exactly on a packet that lacks only its last byte. -/
theorem next_eq_error_iff (fb : Flatbuffers ε) (data : List UInt8) (p : Panic) :
    next fb data = .error p ↔ OneByteShort data ∧ p = .drainRange := by
  rcases front_cases data with hb | hw | hs | hp
  · obtain ⟨tail, rfl⟩ := hb
    rw [next_heartbeat]
    simp [OneByteShort]
  · rw [next_waiting fb hw]
    obtain ⟨-, hwait⟩ := hw
    simp only [OneByteShort, reduceCtorEq, false_iff, not_and]
    intro h
    omega
  · rw [next_oneByteShort fb hs]
    simp [hs, eq_comm]
  · rw [next_packet fb hp]
    obtain ⟨-, -, hlen⟩ := hp
    simp only [OneByteShort, reduceCtorEq, false_iff, not_and]
    intro h
    omega

theorem eventsStep_of_item {fb : Flatbuffers ε} {items : List (Item ε)}
    {data rest : List UInt8} {item : Item ε} (h : next fb data = .ok (some item, rest)) :
    eventsStep fb (items, data) = .ok (.inl (items ++ [item], rest)) := by
  simp only [eventsStep, h]

theorem eventsStep_of_none {fb : Flatbuffers ε} {items : List (Item ε)}
    {data rest : List UInt8} (h : next fb data = .ok (none, rest)) :
    eventsStep fb (items, data) = .ok (.inr (items, rest)) := by
  simp only [eventsStep, h]

theorem eventsStep_next_iff {fb : Flatbuffers ε} {s s' : List (Item ε) × List UInt8} :
    eventsStep fb s = .ok (.inl s') ↔
      ∃ item, next fb s.2 = .ok (some item, s'.2) ∧ s'.1 = s.1 ++ [item] := by
  obtain ⟨items, data⟩ := s
  obtain ⟨items', data'⟩ := s'
  rcases hnext : next fb data with p | ⟨_ | item, rest⟩
  · simp [eventsStep, hnext]
  · simp [eventsStep, hnext]
  · simp only [eventsStep, hnext, Except.ok.injEq, Sum.inl.injEq, Prod.mk.injEq,
      Option.some.injEq]
    constructor
    · rintro ⟨rfl, rfl⟩
      exact ⟨item, ⟨rfl, rfl⟩, rfl⟩
    · rintro ⟨item', ⟨rfl, rfl⟩, rfl⟩
      exact ⟨rfl, rfl⟩

theorem eventsStep_error_iff {fb : Flatbuffers ε} {s : List (Item ε) × List UInt8}
    {p : Panic} : eventsStep fb s = .error p ↔ next fb s.2 = .error p := by
  simp only [eventsStep]
  split <;> simp_all

theorem eventsStep_decreases (fb : Flatbuffers ε) :
    FuelLoop.Decreases (eventsStep fb) fun s => s.2.length := by
  intro s s' h
  obtain ⟨item, hnext, -⟩ := eventsStep_next_iff.mp h
  exact next_some_length fb hnext

/-- The iteration gets to `tail` by taking whole item-bearing frames. -/
theorem reach_iff_frames (fb : Flatbuffers ε) (data tail : List UInt8) :
    (∃ items, FuelLoop.Reach (eventsStep fb) ([], data) (items, tail)) ↔
      ∃ frames : List (List UInt8), data = frames.flatten ++ tail ∧
        ∀ f ∈ frames, ∃ item, WholeFrame fb f (some item) := by
  constructor
  · rintro ⟨items, h⟩
    generalize hs : (items, tail) = s at h
    induction h generalizing items tail with
    | refl => cases hs; exact ⟨[], by simp⟩
    | @tail b c _ hstep ih =>
        subst hs
        obtain ⟨item, hnext, -⟩ := eventsStep_next_iff.mp hstep
        obtain ⟨frame, hframe, hb⟩ := exists_frame_of_next hnext
        obtain ⟨frames, hdata, hall⟩ := ih b.2 b.1 rfl
        refine ⟨frames ++ [frame], by simp [hdata, hb], ?_⟩
        intro f hf
        rcases List.mem_append.mp hf with hf | hf
        · exact hall f hf
        · cases List.mem_singleton.mp hf
          exact ⟨item, hframe⟩
  · rintro ⟨frames, rfl, hall⟩
    suffices h : ∀ acc : List (Item ε), ∃ items,
        FuelLoop.Reach (eventsStep fb) (acc, frames.flatten ++ tail) (items, tail) from h []
    induction frames with
    | nil => exact fun acc => ⟨acc, .refl⟩
    | cons f frames ih =>
        intro acc
        obtain ⟨item, hitem⟩ := hall f (by simp)
        have hnext := hitem.next (frames.flatten ++ tail)
        rw [← List.append_assoc, ← List.flatten_cons] at hnext
        obtain ⟨items, hreach⟩ := ih (fun g hg => hall g (by simp [hg])) (acc ++ [item])
        exact ⟨items, .head (eventsStep_of_item hnext) hreach⟩

/-- Iterating `events()` on a buffer ends, no call of it panics, and every call
that returns an item removes a byte. -/
structure IterationSafe (fb : Flatbuffers ε) (data : List UInt8) : Prop where
  terminates : ∃ items rest, events fb data = .ok (items, rest)
  no_panic : ∀ s, FuelLoop.Reach (eventsStep fb) ([], data) s →
    ∀ p, next fb s.2 ≠ .error p
  progress : ∀ s, FuelLoop.Reach (eventsStep fb) ([], data) s →
    ∀ item rest, next fb s.2 = .ok (some item, rest) → rest.length < s.2.length

/-- The iteration is safe unless the buffer is whole item-bearing frames and
then a packet that lacks exactly its last byte. -/
theorem iterationSafe_iff (fb : Flatbuffers ε) (data : List UInt8) :
    IterationSafe fb data ↔
      ¬ ∃ (frames : List (List UInt8)) (tail : List UInt8), data = frames.flatten ++ tail ∧
        (∀ f ∈ frames, ∃ item, WholeFrame fb f (some item)) ∧ OneByteShort tail := by
  constructor
  · rintro hsafe ⟨frames, tail, hdata, hall, hshort⟩
    obtain ⟨items, hreach⟩ := (reach_iff_frames fb data tail).mpr ⟨frames, hdata, hall⟩
    exact hsafe.no_panic _ hreach .drainRange ((next_eq_error_iff fb tail _).mpr ⟨hshort, rfl⟩)
  · intro hno
    have hpanic : ∀ s, FuelLoop.Reach (eventsStep fb) ([], data) s →
        ∀ p, next fb s.2 ≠ .error p := by
      intro s hreach p hp
      obtain ⟨frames, hdata, hall⟩ := (reach_iff_frames fb data s.2).mp ⟨s.1, hreach⟩
      exact hno ⟨frames, s.2, hdata, hall, ((next_eq_error_iff fb _ p).mp hp).1⟩
    refine ⟨?_, hpanic, fun s _ item rest h => next_some_length fb h⟩
    cases hrun : events fb data with
    | ok r => exact ⟨r.1, r.2, rfl⟩
    | error h =>
        cases h with
        | outOfFuel =>
            exact absurd hrun (FuelLoop.run_ne_outOfFuel (eventsStep_decreases fb) _)
        | fault p =>
            obtain ⟨s, hreach, hs⟩ :=
              (FuelLoop.run_eq_fault_iff (eventsStep_decreases fb) _ p).mp hrun
            exact absurd (eventsStep_error_iff.mp hs) (hpanic s hreach p)

theorem not_iterationSafe_short_prefix :
    ¬ IterationSafe (Flatbuffers.ofTables () [] []) [1, 0, 0, 0] := by
  intro hsafe
  refine hsafe.no_panic _ .refl .drainRange ?_
  exact (next_eq_error_iff _ _ _).mpr ⟨by decide, rfl⟩

end VitaOxiPad.Client
