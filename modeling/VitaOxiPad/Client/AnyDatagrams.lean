import VitaOxiPad.Client.HeartbeatSchedule
import VitaOxiPad.Client.SilentFrames
/-!
# The main loop on any datagrams

Whoever sends to the pad socket, and whatever it sends: the bytes that the loop takes off
its buffer are whole frames, and the device is given the fresh ones of the reports in
them.  The one panic is that of a packet which lacks its last byte.
-/

namespace VitaOxiPad.Client

open NetProtocol Framing
open VitaReports (MainReport)

variable {ε : Type} {fb : Flatbuffers ε} {device : List MainReport → Bool}

def reportOf : Option (Item ε) → Option MainReport
  | some (.ok (.padDataReceived data)) => some data
  | _ => none

def reportsOf (frames : List (CompleteFrame fb)) : List MainReport :=
  frames.filterMap fun f => reportOf f.item

/-- What the loop has made of the bytes received so far. -/
structure Sifted (frames : List (CompleteFrame fb)) (received : List UInt8) (s : Inbox) :
    Prop where
  taken : received = stream CompleteFrame.bytes frames ++ s.incomingBuffer
  fresh : s.reports = freshReports [] (reportsOf frames)
  newest : ∀ x, s.lastTimestamp < x ↔ 0 < x ∧ ∀ e ∈ reportsOf frames, e.timestamp < x

/-! ## One frame -/

theorem HoldsPacket.wholeFrame (fb : Flatbuffers ε) {data : List UInt8} (h : HoldsPacket data) :
    WholeFrame fb (data.take (declaredSize data + 4))
      (itemOf (fb.sizePrefixedRootAsPacket (data.take (declaredSize data + 4)))) := by
  obtain ⟨hb, hpos, hlen⟩ := h
  have htake : (data.take (declaredSize data + 4)).length = declaredSize data + 4 := by
    rw [List.length_take]
    omega
  have hdecl : declaredSize (data.take (declaredSize data + 4)) = declaredSize data := by
    have hfour : 4 ≤ (data.take (declaredSize data + 4)).length := by omega
    have happend := declaredSize_append hfour (data.drop (declaredSize data + 4))
    rw [List.take_append_drop] at happend
    exact happend.symm
  refine .packet ⟨fun hmagic => hb ?_, by omega, by omega⟩ (by omega)
  exact hmagic.trans (List.take_prefix _ data)

/-- `next` takes one whole frame off the buffer, or nothing. -/
theorem next_takes {data rest : List UInt8} {item : Option (Item ε)}
    (h : next fb data = .ok (item, rest)) :
    (item = none ∧ rest = data) ∨
      ∃ f : CompleteFrame fb, f.item = item ∧ data = f.bytes ++ rest := by
  rcases front_cases data with hb | hw | hs | hp
  · obtain ⟨tail, rfl⟩ := hb
    rw [next_heartbeat] at h
    cases h
    exact .inr ⟨⟨heartbeatMagic, _, .heartbeat⟩, rfl, rfl⟩
  · rw [next_waiting fb hw] at h
    cases h
    exact .inl ⟨rfl, rfl⟩
  · rw [next_oneByteShort fb hs] at h
    cases h
  · rw [next_packet fb hp] at h
    cases h
    exact .inr ⟨⟨_, _, hp.wholeFrame fb⟩, rfl, (List.take_append_drop _ data).symm⟩

theorem freshReports_concat (earlier reports : List MainReport) (data : MainReport) :
    freshReports earlier (reports ++ [data]) = freshReports earlier reports ++
      if 0 < data.timestamp ∧ ∀ e ∈ earlier ++ reports, e.timestamp < data.timestamp then [data]
      else [] := by
  induction reports generalizing earlier with
  | nil =>
      rw [List.nil_append, List.append_nil]
      rfl
  | cons report reports ih =>
      have hassoc : earlier ++ [report] ++ reports = earlier ++ report :: reports := by simp
      rw [List.cons_append, freshReports, freshReports, ih, hassoc]
      split_ifs <;> rfl

/-- The body does to the inbox what a report is due, if it does not fail. -/
theorem handleEvent_ok {s s' : Inbox} {item : Item ε} (h : handleEvent device s item = .ok s') :
    s' = ((reportOf (some item)).elim s fun data => s.offer data) := by
  unfold handleEvent at h
  split at h
  · rename_i data
    simp only [reportOf, Option.elim, Inbox.offer]
    dsimp only at h
    split_ifs at h ⊢ <;> cases h <;> rfl
  · cases h
    rename_i hother
    have hnone : reportOf (some item) = none := by
      unfold reportOf
      split
      · rename_i data hitem
        cases hitem
        exact absurd rfl (hother data)
      · rfl
    rw [hnone]
    rfl

theorem reportsOf_concat (frames : List (CompleteFrame fb)) (f : CompleteFrame fb) :
    reportsOf (frames ++ [f]) = reportsOf frames ++ (reportOf f.item).toList := by
  rw [reportsOf, List.filterMap_append, List.filterMap_cons]
  cases reportOf f.item <;> rfl

theorem stream_concat (frames : List (CompleteFrame fb)) (f : CompleteFrame fb) :
    stream CompleteFrame.bytes (frames ++ [f]) =
      stream CompleteFrame.bytes frames ++ f.bytes := by
  rw [stream_append, stream_cons, stream_nil, List.append_nil]

theorem Sifted.silent {frames : List (CompleteFrame fb)} {received rest : List UInt8} {s : Inbox}
    (h : Sifted frames received s) (f : CompleteFrame fb) (hnone : reportOf f.item = none)
    (hbuffer : s.incomingBuffer = f.bytes ++ rest) :
    Sifted (frames ++ [f]) received { s with incomingBuffer := rest } := by
  have hreports : reportsOf (frames ++ [f]) = reportsOf frames := by
    rw [reportsOf_concat, hnone, Option.toList_none, List.append_nil]
  refine ⟨?_, ?_, ?_⟩
  · rw [h.taken, hbuffer, stream_concat, List.append_assoc]
  · rw [hreports]
    exact h.fresh
  · rw [hreports]
    exact h.newest

theorem Sifted.report {frames : List (CompleteFrame fb)} {received rest : List UInt8} {s : Inbox}
    (h : Sifted frames received s) (f : CompleteFrame fb) {data : MainReport}
    (hsome : reportOf f.item = some data) (hbuffer : s.incomingBuffer = f.bytes ++ rest) :
    Sifted (frames ++ [f]) received (Inbox.offer { s with incomingBuffer := rest } data) := by
  have hreports : reportsOf (frames ++ [f]) = reportsOf frames ++ [data] := by
    rw [reportsOf_concat, hsome, Option.toList_some]
  have htaken : received = stream CompleteFrame.bytes (frames ++ [f]) ++ rest := by
    rw [h.taken, hbuffer, stream_concat, List.append_assoc]
  have hfresh := freshReports_concat [] (reportsOf frames) data
  simp only [List.nil_append, ← h.newest] at hfresh
  by_cases hstale : data.timestamp ≤ s.lastTimestamp
  · have hnot : ¬ s.lastTimestamp < data.timestamp := UInt64.not_lt.mpr hstale
    rw [Inbox.offer, if_pos hstale]
    rw [if_neg hnot, List.append_nil] at hfresh
    refine ⟨htaken, by rw [hreports, hfresh]; exact h.fresh, fun x => ?_⟩
    simp only [hreports, List.forall_mem_append, List.forall_mem_singleton]
    rw [← and_assoc, ← h.newest]
    exact ⟨fun hx => ⟨hx, UInt64.lt_of_le_of_lt hstale hx⟩, fun hx => hx.1⟩
  · have hlt : s.lastTimestamp < data.timestamp := UInt64.not_le.mp hstale
    rw [Inbox.offer, if_neg hstale]
    rw [if_pos hlt] at hfresh
    refine ⟨htaken, ?_, fun x => ?_⟩
    · rw [hreports, hfresh, ← h.fresh]
    · simp only [hreports, List.forall_mem_append, List.forall_mem_singleton]
      rw [← and_assoc, ← h.newest]
      exact ⟨fun hx => ⟨UInt64.lt_trans hlt hx, hx⟩, fun hx => hx.2⟩

/-! ## The loop over the events -/

theorem Sifted.forStep {frames : List (CompleteFrame fb)} {received : List UInt8} {s s' : Inbox}
    (h : Sifted frames received s)
    (hstep : forStep fb device s = .ok (.inl s') ∨ forStep fb device s = .ok (.inr s')) :
    ∃ frames' : List (CompleteFrame fb), Sifted frames' received s' := by
  unfold Client.forStep at hstep
  split at hstep
  · rcases hstep with hstep | hstep <;> cases hstep
  · rename_i rest hnext
    have hs' : s' = { s with incomingBuffer := rest } := by
      rcases hstep with hstep | hstep <;> cases hstep
      rfl
    rw [hs']
    rcases next_takes hnext with ⟨-, rfl⟩ | ⟨f, hitem, hbuffer⟩
    · exact ⟨frames, h⟩
    · exact ⟨frames ++ [f], h.silent f (by rw [hitem]; rfl) hbuffer⟩
  · rename_i item rest hnext
    rcases next_takes hnext with ⟨hnone, -⟩ | ⟨f, hitem, hbuffer⟩
    · cases hnone
    · cases hbody : handleEvent device { s with incomingBuffer := rest } item with
      | error e =>
          rw [hbody] at hstep
          rcases hstep with hstep | hstep <;> cases hstep
      | ok u =>
          rw [hbody] at hstep
          have hs' : s' = u := by
            rcases hstep with hstep | hstep <;> cases hstep
            rfl
          rw [hs', handleEvent_ok hbody]
          cases hreport : reportOf (some item) with
          | none => exact ⟨frames ++ [f], h.silent f (by rw [hitem, hreport]) hbuffer⟩
          | some data => exact ⟨frames ++ [f], h.report f (by rw [hitem, hreport]) hbuffer⟩

theorem handleEvent_ne_panic {s : Inbox} {item : Item ε} (p : Panic) :
    handleEvent device s item ≠ .error (.panic p) := by
  intro h
  unfold handleEvent at h
  split at h
  · dsimp only at h
    split_ifs at h
    cases h
  · cases h

/-- Only `next` panics. -/
theorem next_of_forStep_panic {s : Inbox} {p : Panic}
    (h : Client.forStep fb device s = .error (.panic p)) :
    next fb s.incomingBuffer = .error p := by
  unfold Client.forStep at h
  split at h
  · rename_i q hnext
    cases h
    exact hnext
  · cases h
  · rename_i item rest _
    cases hbody : handleEvent device { s with incomingBuffer := rest } item with
    | ok u =>
        rw [hbody] at h
        cases h
    | error e =>
        rw [hbody] at h
        cases h
        exact absurd hbody (handleEvent_ne_panic p)

theorem Sifted.forEvents {received : List UInt8} {s : Inbox} {frames : List (CompleteFrame fb)}
    (h : Sifted frames received s) :
    (∀ s', forEvents fb device s = .ok s' →
      ∃ frames' : List (CompleteFrame fb), Sifted frames' received s') ∧
    ∀ p, forEvents fb device s = .error (.fault (.panic p)) → p = .drainRange ∧
      ∃ (frames' : List (CompleteFrame fb)) (tail : List UInt8),
        received = stream CompleteFrame.bytes frames' ++ tail ∧ OneByteShort tail := by
  have hreached : ∀ t, FuelLoop.Reach (Client.forStep fb device) s t →
      ∃ frames' : List (CompleteFrame fb), Sifted frames' received t := by
    intro t hreach
    apply FuelLoop.Reach.invariant (I := fun t => ∃ frames' : List (CompleteFrame fb),
      Sifted frames' received t) _ hreach ⟨frames, h⟩
    rintro a b ⟨frames', ha⟩ hstep
    exact ha.forStep (.inl hstep)
  constructor
  · intro s' hs'
    obtain ⟨t, hreach, hlast⟩ :=
      (FuelLoop.run_eq_ok_iff (forStep_decreases fb device) s s').mp hs'
    obtain ⟨frames', ht⟩ := hreached t hreach
    exact ht.forStep (.inr hlast)
  · intro p hp
    obtain ⟨t, hreach, hlast⟩ :=
      (FuelLoop.run_eq_fault_iff (forStep_decreases fb device) s (.panic p)).mp hp
    obtain ⟨frames', ht⟩ := hreached t hreach
    obtain ⟨hshort, rfl⟩ := (next_eq_error_iff fb _ p).mp (next_of_forStep_panic hlast)
    exact ⟨rfl, frames', t.incomingBuffer, ht.taken, hshort⟩

theorem Sifted.more {frames : List (CompleteFrame fb)} {received : List UInt8} {s : Inbox}
    (h : Sifted frames received s) (bytes : List UInt8) :
    Sifted frames (received ++ bytes) { s with incomingBuffer := s.incomingBuffer ++ bytes } where
  taken := by rw [h.taken, List.append_assoc]
  fresh := h.fresh
  newest := h.newest

theorem Sifted.receive {frames : List (CompleteFrame fb)} {received : List UInt8} {s : Inbox}
    (h : Sifted frames received s) (bytes : List UInt8) :
    (∀ s', receive fb device s bytes = .ok s' →
      ∃ frames' : List (CompleteFrame fb), Sifted frames' (received ++ bytes) s') ∧
    ∀ p, receive fb device s bytes = .error (.fault (.panic p)) → p = .drainRange ∧
      ∃ (frames' : List (CompleteFrame fb)) (tail : List UInt8),
        received ++ bytes = stream CompleteFrame.bytes frames' ++ tail ∧ OneByteShort tail := by
  by_cases hempty : bytes = []
  · rw [Client.receive, if_pos hempty, hempty, List.append_nil]
    refine ⟨?_, by rintro p ⟨⟩⟩
    rintro s' ⟨⟩
    exact ⟨frames, h⟩
  · rw [Client.receive, if_neg hempty]
    exact (h.more bytes).forEvents

/-! ## The main loop -/

end VitaOxiPad.Client
