import VitaOxiPad.Device.Touchpad
/-!
# Which slot a contact is in

A multitouch device is to leave a contact in the slot it has been given.  The
driver chooses slots by the position in the report, so a contact moves when an
earlier one ends or the order changes.
-/

namespace VitaOxiPad.VirtualDevice

def trackingIds (d : Evdev) : List InputEvent → List (Int × Int)
  | [] => []
  | event :: events =>
      ((event.valueOf? .multitouchTrackingId).map (d.slot, ·)).toList ++
        trackingIds (d.apply event) events

theorem trackingIds_append (d : Evdev) (xs ys : List InputEvent) :
    trackingIds d (xs ++ ys) = trackingIds d xs ++ trackingIds (d.replay xs) ys := by
  induction xs generalizing d with
  | nil => rfl
  | cons event xs ih =>
      rw [List.cons_append, trackingIds, trackingIds, ih, List.append_assoc, Evdev.replay_cons]

namespace Linux

open Client.VitaReports

/-- A contact stays in its slot: the events do not end it there, and give its id to no
other slot. -/
structure KeepsSlot (d : Evdev) (events : List InputEvent) (slot : Int) (id : TrackingId) :
    Prop where
  notEnded : (slot, -1) ∉ trackingIds d events
  notMoved : ∀ other, (other, (id.toNat : Int)) ∈ trackingIds d events → other = slot

section

variable {maxSlots : Nat} {d : Evdev} {touchReports : List TouchReport}

@[simp] theorem trackingIds_resetEvents (d : Evdev) (slot : Int) :
    trackingIds d (resetEvents slot) = [(slot, -1)] := rfl

@[simp] theorem trackingIds_touchEvents (d : Evdev) (slot : Int) (touch : TouchReport) :
    trackingIds d (touchEvents slot touch) = [(slot, (touch.id.toNat : Int))] := rfl

@[simp] theorem trackingIds_touchStateEvents (d : Evdev) (anyTouchActive touchState : Bool) :
    trackingIds d (touchStateEvents anyTouchActive touchState).1 = [] := by
  cases anyTouchActive <;> cases touchState <;> rfl

/-- The first loop ends only slots that the report has no touch for. -/
theorem mem_trackingIds_resetSlots (hmax : maxSlots ≤ 2 ^ 31) (slots : List (Fin maxSlots))
    {t : Touches maxSlots} {slot id : Int}
    (h : (slot, id) ∈ trackingIds d (slots.foldl (resetSlot touchReports) t).events) :
    (slot, id) ∈ trackingIds d t.events ∨ (id = -1 ∧ (touchReports.length : Int) ≤ slot) := by
  induction slots generalizing t with
  | nil => exact .inl h
  | cons k slots ih =>
      rcases ih h with hbefore | hended
      · simp only [resetSlot] at hbefore
        split_ifs at hbefore with hends
        · have hk := asI32_of_lt (by omega : k.val < 2 ^ 31)
          rw [trackingIds_append, trackingIds_resetEvents, List.mem_append, List.mem_singleton,
            Prod.mk.injEq, hk] at hbefore
          rcases hbefore with hfirst | ⟨rfl, rfl⟩
          · exact .inl hfirst
          · simp only [Bool.and_eq_true, Option.isNone_map, Option.isNone_iff_eq_none] at hends
            have hnone : touchReports[k.val]? = none := hends.2
            have hlen := List.getElem?_eq_none_iff.mp hnone
            exact .inr ⟨rfl, by omega⟩
        · exact .inl hbefore
      · exact .inr hended

/-- The second loop gives each touch the slot of its position. -/
theorem mem_trackingIds_updateSlots (hmax : maxSlots ≤ 2 ^ 31) (touches : List TouchReport)
    (t : Touches maxSlots) (anyTouchActive : Bool) (first : Nat) (slot id : Int) :
    (slot, id) ∈ trackingIds d (updateSlots t anyTouchActive first touches).1.events ↔
      (slot, id) ∈ trackingIds d t.events ∨
        ∃ k touch, touches[k]? = some touch ∧ first + k < maxSlots ∧
          slot = (first + k : Nat) ∧ id = touch.id.toNat := by
  induction touches generalizing t anyTouchActive first with
  | nil => simp [updateSlots]
  | cons touch touches ih =>
      unfold updateSlots
      split_ifs with hfirst
      · have hslot := asI32_of_lt (by omega : first < 2 ^ 31)
        rw [ih, trackingIds_append, trackingIds_touchEvents, List.mem_append,
          List.mem_singleton, Prod.mk.injEq, hslot, or_assoc]
        apply or_congr_right
        constructor
        · rintro (⟨rfl, rfl⟩ | ⟨k, later, hk, hlt, rfl, rfl⟩)
          · exact ⟨0, touch, rfl, hfirst, rfl, rfl⟩
          · exact ⟨k + 1, later, hk, by omega, by omega, rfl⟩
        · rintro ⟨k, later, hk, hlt, rfl, rfl⟩
          cases k with
          | zero =>
              cases hk
              exact .inl ⟨rfl, rfl⟩
          | succ k => exact .inr ⟨k, later, hk, by omega, by omega, rfl⟩
      · constructor
        · exact .inl
        · rintro (hbefore | ⟨k, later, -, hlt, -⟩)
          · exact hbefore
          · omega

theorem mem_trackingIds_events (hmax : maxSlots ≤ 2 ^ 31) (s : Touchpad maxSlots)
    (touchReports : List TouchReport) :
    (∀ slot id, (slot, id) ∈ trackingIds d (s.events touchReports) →
      (id = -1 ∧ (touchReports.length : Int) ≤ slot) ∨
        ∃ k touch, touchReports[k]? = some touch ∧ k < maxSlots ∧
          slot = (k : Nat) ∧ id = touch.id.toNat) ∧
    ∀ k touch, touchReports[k]? = some touch → k < maxSlots →
      ((k : Int), (touch.id.toNat : Int)) ∈ trackingIds d (s.events touchReports) := by
  set t := (List.finRange maxSlots).foldl (resetSlot touchReports) ⟨[], s.previousTouches⟩
  have hevents : trackingIds d (s.events touchReports) =
      trackingIds d (updateSlots t false 0 touchReports).1.events := by
    rw [Touchpad.events, createTouchEvents]
    dsimp only
    rw [trackingIds_append, trackingIds_touchStateEvents, List.append_nil]
  rw [hevents]
  constructor
  · intro slot id hmem
    rw [mem_trackingIds_updateSlots hmax] at hmem
    rcases hmem with hreset | hupdate
    · rcases mem_trackingIds_resetSlots hmax _ hreset with hnil | hended
      · cases hnil
      · exact .inl hended
    · simp only [Nat.zero_add] at hupdate
      exact .inr hupdate
  · intro k touch hk hlt
    rw [mem_trackingIds_updateSlots hmax]
    exact .inr ⟨k, touch, hk, by omega, by omega, rfl⟩

theorem position_unique {touches : List TouchReport} (h : (touches.map (·.id)).Nodup)
    {i j : Nat} {a b : TouchReport} (hi : touches[i]? = some a) (hj : touches[j]? = some b)
    (hid : a.id = b.id) : i = j := by
  have hlen : i < (touches.map (·.id)).length := by
    rw [List.length_map]
    exact (List.getElem?_eq_some_iff.mp hi).1
  apply (List.getElem?_inj hlen h).mp
  rw [List.getElem?_map, List.getElem?_map, hi, hj]
  exact congrArg some hid

/-- Of distinct contacts each has the slot of its position, and no other. -/
theorem slot_of_contact_iff (hmax : maxSlots ≤ 2 ^ 31) (earlier : List (List TouchReport))
    {before : List TouchReport} (hdistinct : (before.map (·.id)).Nodup) {i : Nat}
    {contact : TouchReport} (hi : before[i]? = some contact) (hlt : i < maxSlots) (slot : Int) :
    ((Touchpad.run maxSlots (earlier ++ [before])).device.slots slot).trackingId =
      (contact.id.toNat : Int) ↔ slot = i := by
  obtain ⟨hshows, -, houtside⟩ := touchpad_shows_report maxSlots hmax earlier before
  constructor
  · intro hid
    by_cases hrange : slot < 0 ∨ maxSlots ≤ slot
    · rw [houtside slot hrange] at hid
      exact absurd hid (by simp [Evdev.initial])
    · obtain ⟨k, rfl⟩ : ∃ k : Nat, slot = k := ⟨slot.toNat, by omega⟩
      by_cases hlen : before.length ≤ k
      · rw [hshows.ended k hlen (by omega)] at hid
        omega
      · have hk := List.getElem?_eq_getElem (not_le.mp hlen)
        rw [hshows.held k _ hk (by omega)] at hid
        have hsame : before[k].id = contact.id := UInt8.toNat_inj.mp (Int.ofNat_inj.mp hid)
        rw [position_unique hdistinct hk hi hsame]
  · rintro rfl
    rw [hshows.held i contact hi hlt]
    rfl

end

/-- A contact of two consecutive reports stays in its slot exactly when it is at the same
position in both. -/
theorem keeps_slot_iff (maxSlots : Nat) (hmax : maxSlots ≤ 2 ^ 31)
    (earlier : List (List TouchReport)) (before after : List TouchReport)
    (hbefore : (before.map (·.id)).Nodup) (hafter : (after.map (·.id)).Nodup) (i j : Nat)
    (contact next : TouchReport) (hi : before[i]? = some contact) (hj : after[j]? = some next)
    (himax : i < maxSlots) (hjmax : j < maxSlots) (hid : next.id = contact.id) (slot : Int)
    (hslot : ((Touchpad.run maxSlots (earlier ++ [before])).device.slots slot).trackingId =
      (contact.id.toNat : Int)) :
    KeepsSlot (Touchpad.run maxSlots (earlier ++ [before])).device
        ((Touchpad.run maxSlots (earlier ++ [before])).events after) slot contact.id ↔
      i = j := by
  have hpos : slot = i := (slot_of_contact_iff hmax earlier hbefore hi himax slot).mp hslot
  obtain ⟨hwritten, hwrites⟩ :=
    mem_trackingIds_events (d := (Touchpad.run maxSlots (earlier ++ [before])).device) hmax
      (Touchpad.run maxSlots (earlier ++ [before])) after
  constructor
  · intro hkeeps
    have hother := hwrites j next hj hjmax
    rw [hid] at hother
    have hsame := hkeeps.notMoved j hother
    omega
  · rintro rfl
    refine ⟨fun hmem => ?_, fun other hmem => ?_⟩
    · have hlen : i < after.length := (List.getElem?_eq_some_iff.mp hj).1
      rcases hwritten _ _ hmem with ⟨-, hend⟩ | ⟨k, touch, -, -, -, hneg⟩
      · omega
      · omega
    · rcases hwritten _ _ hmem with ⟨hneg, -⟩ | ⟨k, touch, hk, -, rfl, hsame⟩
      · omega
      · have htouch : touch.id = next.id := by
          rw [hid]
          exact (UInt8.toNat_inj.mp (Int.ofNat_inj.mp hsame)).symm
        rw [hpos, position_unique hafter hk hj htouch]

def twoFingers : Touchpad rearTouchpadMaxSlots :=
  .run rearTouchpadMaxSlots ([] ++ [[⟨10, 20, 1, 90⟩, ⟨30, 40, 2, 80⟩]])

theorem keeps_slot_of_second_lifted :
    KeepsSlot twoFingers.device (twoFingers.events [⟨11, 21, 1, 90⟩]) 0 1 := by
  exact (keeps_slot_iff rearTouchpadMaxSlots (by decide) [] [⟨10, 20, 1, 90⟩, ⟨30, 40, 2, 80⟩]
    [⟨11, 21, 1, 90⟩] (by decide) (by decide) 0 0 ⟨10, 20, 1, 90⟩ ⟨11, 21, 1, 90⟩ rfl rfl
    (by decide) (by decide) rfl 0 (by decide +kernel)).mpr rfl

/-- The finger that stays is moved to the slot of the one that was lifted. -/
theorem not_keeps_slot_of_first_lifted :
    (twoFingers.device.slots 1).trackingId = 2 ∧
      ¬ KeepsSlot twoFingers.device (twoFingers.events [⟨30, 40, 2, 80⟩]) 1 2 ∧
      trackingIds twoFingers.device (twoFingers.events [⟨30, 40, 2, 80⟩]) = [(1, -1), (0, 2)] := by
  have hids : trackingIds twoFingers.device (twoFingers.events [⟨30, 40, 2, 80⟩]) =
      [(1, -1), (0, 2)] := by decide +kernel
  refine ⟨by decide +kernel, fun hkeeps => ?_, hids⟩
  have hnot := hkeeps.notEnded
  rw [hids] at hnot
  exact hnot (List.mem_cons_self ..)

end Linux

end VitaOxiPad.VirtualDevice
