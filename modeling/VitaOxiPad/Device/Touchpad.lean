import VitaOxiPad.Device.MainDevice
/-!
# Replaying the Linux touchpad

`create_touch_events` writes the touches of a report, releases the slots whose
touches have ended, and presses and releases the touch keys when the first touch
starts and the last one ends.  A reader that replays the events has, after every
report, exactly the touches of that report.
-/

namespace VitaOxiPad.VirtualDevice.Linux

open Client.VitaReports

structure Touchpad (maxSlots : Nat) where
  previousTouches : Vector (Option TrackingId) maxSlots
  touchState : Bool
  device : Evdev

namespace Touchpad

variable {maxSlots : Nat}

def initial (maxSlots : Nat) : Touchpad maxSlots := ⟨.replicate _ none, false, .initial⟩

def events (s : Touchpad maxSlots) (touchReports : List TouchReport) : List InputEvent :=
  (createTouchEvents touchReports s.previousTouches s.touchState).1.events

def step (s : Touchpad maxSlots) (touchReports : List TouchReport) : Touchpad maxSlots :=
  let (t, touchState) := createTouchEvents touchReports s.previousTouches s.touchState
  ⟨t.previousTouches, touchState, s.device.replay t.events⟩

def run (maxSlots : Nat) (reports : List (List TouchReport)) : Touchpad maxSlots :=
  reports.foldl step (initial maxSlots)

end Touchpad

def slotOf (touch : TouchReport) : Slot :=
  ⟨touch.id.toNat, touch.x.toNat, touch.y.toNat, touch.force.toNat⟩

/-- Every slot the events choose is one of the device's. -/
def InRange (maxSlots : Nat) (events : List InputEvent) : Prop :=
  ∀ value, .absolute .multitouchSlot value ∈ events → 0 ≤ value ∧ value < maxSlots

theorem asI32_of_lt {n : Nat} (h : n < 2 ^ 31) : asI32 n = n :=
  Int.bmod_eq_of_le (by omega) (by omega)

theorem InRange.append {maxSlots : Nat} {xs ys : List InputEvent} (hxs : InRange maxSlots xs)
    (hys : InRange maxSlots ys) : InRange maxSlots (xs ++ ys) := by
  intro value hvalue
  rcases List.mem_append.mp hvalue with h | h
  · exact hxs value h
  · exact hys value h

theorem get_set {α : Type} {n : Nat} (xs : Vector α n) (i j : Fin n) (a : α) :
    (xs.set i a i.isLt).get j = if i = j then a else xs.get j := by
  simp only [Fin.ext_iff]
  exact Vector.getElem_set i.isLt j.isLt

/-! ## One slot -/

section

variable (d : Evdev) (slot : Int)

theorem slots_replay_resetEvents :
    (d.replay (resetEvents slot)).slots =
      Function.update d.slots slot { d.slots slot with trackingId := -1 } := rfl

theorem slots_replay_touchEvents (touch : TouchReport) :
    (d.replay (touchEvents slot touch)).slots = Function.update d.slots slot (slotOf touch) := by
  simp [touchEvents, Evdev.apply, Evdev.setCurrent, Evdev.current, slotOf]

theorem keys_replay_resetEvents : (d.replay (resetEvents slot)).keys = d.keys := rfl

theorem keys_replay_touchEvents (touch : TouchReport) :
    (d.replay (touchEvents slot touch)).keys = d.keys := rfl

variable {maxSlots : Nat} {slot}

theorem inRange_resetEvents (h₀ : 0 ≤ slot) (h : slot < maxSlots) :
    InRange maxSlots (resetEvents slot) := by
  intro value hvalue
  simp [resetEvents] at hvalue
  omega

theorem inRange_touchEvents (h₀ : 0 ≤ slot) (h : slot < maxSlots) (touch : TouchReport) :
    InRange maxSlots (touchEvents slot touch) := by
  intro value hvalue
  simp [touchEvents] at hvalue
  omega

end

/-! ## The loop that resets slots -/

def Released {maxSlots : Nat} (previousTouches : Vector (Option TrackingId) maxSlots)
    (d : Evdev) : Prop :=
  ∀ i : Fin maxSlots, previousTouches.get i = none → (d.slots i).trackingId = -1

/-- The state of the loop when the slots in `done` have been looked at. -/
structure Reset {maxSlots : Nat} (d : Evdev) (touchReports : List TouchReport)
    (done : List (Fin maxSlots)) (t : Touches maxSlots) : Prop where
  released : Released t.previousTouches (d.replay t.events)
  ended : ∀ i ∈ done, touchReports.length ≤ i → t.previousTouches.get i = none
  inRange : InRange maxSlots t.events
  keys : (d.replay t.events).keys = d.keys
  outside : ∀ j : Int, j < 0 ∨ maxSlots ≤ j → (d.replay t.events).slots j = d.slots j

section

variable {maxSlots : Nat} {d : Evdev} {touchReports : List TouchReport}

theorem Reset.initial {previousTouches : Vector (Option TrackingId) maxSlots}
    (h : Released previousTouches d) :
    Reset d touchReports [] ⟨[], previousTouches⟩ where
  released := h
  ended i hi := by cases hi
  inRange value hvalue := by cases hvalue
  keys := rfl
  outside _ _ := rfl

theorem Reset.step (hmax : maxSlots ≤ 2 ^ 31) {done : List (Fin maxSlots)}
    {t : Touches maxSlots} (h : Reset d touchReports done t) (slot : Fin maxSlots) :
    Reset d touchReports (done ++ [slot]) (resetSlot touchReports t slot) := by
  have hslot := asI32_of_lt (by omega : slot.val < 2 ^ 31)
  simp only [resetSlot, hslot]
  split_ifs with hends
  · refine ⟨?_, ?_, ?_, ?_, ?_⟩
    · intro i hi
      simp only [Evdev.replay_append, slots_replay_resetEvents]
      by_cases his : i = slot
      · rw [his, Function.update_self]
      · have hne : (i : Int) ≠ slot := by omega
        rw [Function.update_of_ne hne]
        rw [get_set, if_neg (Ne.symm his)] at hi
        exact h.released i hi
    · intro i hi hlen
      rw [get_set]
      split_ifs with his
      · rfl
      · rcases List.mem_append.mp hi with hdone | hslot
        · exact h.ended i hdone hlen
        · exact absurd (List.mem_singleton.mp hslot).symm his
    · exact h.inRange.append (inRange_resetEvents (by omega) (by omega))
    · simp only [Evdev.replay_append, keys_replay_resetEvents, h.keys]
    · intro j hj
      have hne : j ≠ slot := by omega
      simp only [Evdev.replay_append, slots_replay_resetEvents]
      rw [Function.update_of_ne hne, h.outside j hj]
  · refine ⟨h.released, ?_, h.inRange, h.keys, h.outside⟩
    intro i hi hlen
    rcases List.mem_append.mp hi with hdone | hslot
    · exact h.ended i hdone hlen
    · cases List.mem_singleton.mp hslot
      have hnone : touchReports[slot.val]? = none := List.getElem?_eq_none hlen
      show t.previousTouches[slot.val] = none
      simpa [hnone] using hends

theorem Reset.foldl (hmax : maxSlots ≤ 2 ^ 31) (slots : List (Fin maxSlots))
    {done : List (Fin maxSlots)} {t : Touches maxSlots} (h : Reset d touchReports done t) :
    Reset d touchReports (done ++ slots) (slots.foldl (resetSlot touchReports) t) := by
  induction slots generalizing done t with
  | nil => rwa [List.append_nil]
  | cons slot slots ih =>
      have hstep := ih (h.step hmax slot)
      rwa [List.append_assoc] at hstep

end

/-! ## The loop that updates slots -/

/-- The state `r` of the loop when it has gone from `t` through the touches, the
first of them in `slot`. -/
structure Updated {maxSlots : Nat} (d : Evdev) (t : Touches maxSlots) (slot : Nat)
    (touchReports : List TouchReport) (r : Touches maxSlots) : Prop where
  held : ∀ k touch, touchReports[k]? = some touch → slot + k < maxSlots →
    (d.replay r.events).slots (slot + k : Nat) = slotOf touch
  kept : ∀ j : Int, j < slot ∨ slot + touchReports.length ≤ j ∨ maxSlots ≤ j →
    (d.replay r.events).slots j = (d.replay t.events).slots j
  remembered : ∀ i : Fin maxSlots, r.previousTouches.get i = none →
    t.previousTouches.get i = none ∧ (i < slot ∨ slot + touchReports.length ≤ i)
  inRange : InRange maxSlots t.events → InRange maxSlots r.events
  keys : (d.replay r.events).keys = (d.replay t.events).keys

section

variable {maxSlots : Nat} {d : Evdev}

theorem Updated.refl {t : Touches maxSlots} {slot : Nat} {touchReports : List TouchReport}
    (h : touchReports = [] ∨ maxSlots ≤ slot) : Updated d t slot touchReports t := by
  refine ⟨?_, fun _ _ => rfl, ?_, id, rfl⟩
  · intro k touch hk hlt
    rcases h with rfl | hslot
    · cases hk
    · omega
  · intro i hi
    rcases h with rfl | hslot
    · rw [List.length_nil]
      exact ⟨hi, by omega⟩
    · exact ⟨hi, by omega⟩

theorem Updated.cons (hmax : maxSlots ≤ 2 ^ 31) {t r : Touches maxSlots} {slot : Nat}
    (hslot : slot < maxSlots) {touch : TouchReport} {touchReports : List TouchReport}
    (h : Updated d ⟨t.events ++ touchEvents (asI32 slot) touch,
      t.previousTouches.set slot (some touch.id)⟩ (slot + 1) touchReports r) :
    Updated d t slot (touch :: touchReports) r := by
  have hasI32 := asI32_of_lt (by omega : slot < 2 ^ 31)
  have hslots : (d.replay (t.events ++ touchEvents (asI32 slot) touch)).slots =
      Function.update (d.replay t.events).slots slot (slotOf touch) := by
    rw [Evdev.replay_append, slots_replay_touchEvents, hasI32]
  refine ⟨?_, ?_, ?_, ?_, ?_⟩
  · intro k later hk hlt
    cases k with
    | zero =>
        cases hk
        have hkept := h.kept slot (by omega)
        rwa [hslots, Function.update_self] at hkept
    | succ k =>
        have hheld := h.held k later hk (by omega)
        rwa [Nat.add_right_comm, Nat.add_assoc] at hheld
  · intro j hj
    rw [List.length_cons] at hj
    rw [h.kept j (by omega), hslots, Function.update_of_ne (by omega)]
  · intro i hi
    obtain ⟨hprevious, hout⟩ := h.remembered i hi
    have hset := get_set t.previousTouches ⟨slot, hslot⟩ i (some touch.id)
    rw [hprevious] at hset
    split_ifs at hset with his
    have hne : slot ≠ i.val := fun h => his (Fin.ext h)
    rw [List.length_cons]
    exact ⟨hset.symm, by omega⟩
  · intro hrange
    apply h.inRange
    apply hrange.append
    exact inRange_touchEvents (by omega) (by omega) touch
  · rw [h.keys, Evdev.replay_append, keys_replay_touchEvents]

theorem updated_updateSlots (hmax : maxSlots ≤ 2 ^ 31) (touchReports : List TouchReport)
    (t : Touches maxSlots) (anyTouchActive : Bool) (slot : Nat) :
    Updated d t slot touchReports (updateSlots t anyTouchActive slot touchReports).1 := by
  induction touchReports generalizing t anyTouchActive slot with
  | nil => exact .refl (.inl rfl)
  | cons touch touchReports ih =>
      unfold updateSlots
      split_ifs with hslot
      · exact .cons hmax hslot (ih _ _ (slot + 1))
      · exact .refl (.inr (not_lt.mp hslot))

theorem snd_updateSlots (touchReports : List TouchReport) (t : Touches maxSlots)
    (anyTouchActive : Bool) (slot : Nat) :
    (updateSlots t anyTouchActive slot touchReports).2 =
      (anyTouchActive ||
        (touchReports.take (maxSlots - slot)).any fun touch => decide (0 < touch.force)) := by
  induction touchReports generalizing t anyTouchActive slot with
  | nil => simp [updateSlots]
  | cons touch touchReports ih =>
      unfold updateSlots
      split_ifs with hslot
      · obtain ⟨k, hk⟩ : ∃ k, maxSlots - slot = k + 1 := ⟨maxSlots - slot - 1, by omega⟩
        have hk' : maxSlots - (slot + 1) = k := by omega
        rw [ih, hk, hk', List.take_succ_cons, List.any_cons, Bool.or_assoc]
      · have hzero : maxSlots - slot = 0 := by omega
        rw [hzero]
        simp

end

/-! ## A report -/

/-- What every report leaves behind. -/
structure Follows {maxSlots : Nat} (s : Touchpad maxSlots) : Prop where
  released : Released s.previousTouches s.device
  touch : .buttonTouch ∈ s.device.keys ↔ s.touchState = true
  toolFinger : .buttonToolFinger ∈ s.device.keys ↔ s.touchState = true
  outside : ∀ j : Int, j < 0 ∨ maxSlots ≤ j → s.device.slots j = Evdev.initial.slots j

structure Shows {maxSlots : Nat} (s : Touchpad maxSlots) (touchReports : List TouchReport) :
    Prop where
  held : ∀ i touch, touchReports[i]? = some touch → i < maxSlots →
    s.device.slots i = slotOf touch
  ended : ∀ i, touchReports.length ≤ i → i < maxSlots → (s.device.slots i).trackingId = -1
  touch : .buttonTouch ∈ s.device.keys ↔ ∃ touch ∈ touchReports.take maxSlots, 0 < touch.force
  toolFinger :
    .buttonToolFinger ∈ s.device.keys ↔ ∃ touch ∈ touchReports.take maxSlots, 0 < touch.force

section

variable {maxSlots : Nat}

theorem follows_initial : Follows (Touchpad.initial maxSlots) := by
  refine ⟨fun _ _ => rfl, ?_, ?_, fun _ _ => rfl⟩
  · simp [Touchpad.initial, Evdev.initial]
  · simp [Touchpad.initial, Evdev.initial]

theorem keys_touchStateEvents (d : Evdev) (anyTouchActive touchState : Bool) {key : Key}
    (hkey : key = .buttonTouch ∨ key = .buttonToolFinger)
    (h : key ∈ d.keys ↔ touchState = true) :
    (touchStateEvents anyTouchActive touchState).2 = anyTouchActive ∧
      (key ∈ (d.replay (touchStateEvents anyTouchActive touchState).1).keys ↔
        anyTouchActive = true) := by
  rcases hkey with rfl | rfl
  · cases anyTouchActive <;> cases touchState <;>
      simp_all [touchStateEvents, Evdev.apply]
  · cases anyTouchActive <;> cases touchState <;>
      simp_all [touchStateEvents, Evdev.apply]

theorem slots_touchStateEvents (d : Evdev) (anyTouchActive touchState : Bool) :
    (d.replay (touchStateEvents anyTouchActive touchState).1).slots = d.slots := by
  cases anyTouchActive <;> cases touchState <;> rfl

theorem inRange_touchStateEvents (anyTouchActive touchState : Bool) :
    InRange maxSlots (touchStateEvents anyTouchActive touchState).1 := by
  intro value hvalue
  cases anyTouchActive <;> cases touchState <;> simp [touchStateEvents] at hvalue

/-- Both loops: the touches are in their slots, and the touch keys still to come. -/
structure Placed {maxSlots : Nat} (d : Evdev) (touchReports : List TouchReport)
    (r : Touches maxSlots) : Prop where
  released : Released r.previousTouches (d.replay r.events)
  held : ∀ i touch, touchReports[i]? = some touch → i < maxSlots →
    (d.replay r.events).slots i = slotOf touch
  ended : ∀ i : Fin maxSlots, touchReports.length ≤ i →
    ((d.replay r.events).slots i).trackingId = -1
  inRange : InRange maxSlots r.events
  keys : (d.replay r.events).keys = d.keys
  outside : ∀ j : Int, j < 0 ∨ maxSlots ≤ j → (d.replay r.events).slots j = d.slots j

theorem placed_loops (hmax : maxSlots ≤ 2 ^ 31) {d : Evdev}
    {previousTouches : Vector (Option TrackingId) maxSlots} (h : Released previousTouches d)
    (touchReports : List TouchReport) :
    Placed d touchReports (updateSlots
      ((List.finRange maxSlots).foldl (resetSlot touchReports) ⟨[], previousTouches⟩)
      false 0 touchReports).1 := by
  set t := (List.finRange maxSlots).foldl (resetSlot touchReports) ⟨[], previousTouches⟩
  have hreset : Reset d touchReports (List.finRange maxSlots) t :=
    (Reset.initial h).foldl hmax (List.finRange maxSlots)
  have hupdated := updated_updateSlots (d := d) hmax touchReports t false 0
  set r := (updateSlots t false 0 touchReports).1
  have hended : ∀ i : Fin maxSlots, touchReports.length ≤ i →
      ((d.replay r.events).slots i).trackingId = -1 := by
    intro i hi
    rw [hupdated.kept i (by omega)]
    exact hreset.released i (hreset.ended i (List.mem_finRange i) hi)
  refine ⟨?_, ?_, hended, hupdated.inRange hreset.inRange, hupdated.keys.trans hreset.keys, ?_⟩
  · intro i hi
    obtain ⟨-, hout⟩ := hupdated.remembered i hi
    exact hended i (by omega)
  · intro i touch hi hlt
    have hheld := hupdated.held i touch hi (by omega)
    rwa [Nat.zero_add] at hheld
  · intro j hj
    rw [hupdated.kept j (by omega), hreset.outside j hj]

theorem Follows.step (hmax : maxSlots ≤ 2 ^ 31) {s : Touchpad maxSlots} (h : Follows s)
    (touchReports : List TouchReport) :
    Follows (s.step touchReports) ∧ Shows (s.step touchReports) touchReports ∧
      InRange maxSlots (s.events touchReports) := by
  have hplaced := placed_loops hmax h.released touchReports
  set t := (List.finRange maxSlots).foldl (resetSlot touchReports) ⟨[], s.previousTouches⟩
  have hactive := snd_updateSlots touchReports t false 0
  set r := (updateSlots t false 0 touchReports).1
  set active := (updateSlots t false 0 touchReports).2
  set stateEvents := (touchStateEvents active s.touchState).1
  have hstep : s.step touchReports = ⟨r.previousTouches,
      (touchStateEvents active s.touchState).2, s.device.replay (r.events ++ stateEvents)⟩ := rfl
  have hslots : (s.device.replay (r.events ++ stateEvents)).slots =
      (s.device.replay r.events).slots := by
    rw [Evdev.replay_append, slots_touchStateEvents]
  have hforce : active = true ↔ ∃ touch ∈ touchReports.take maxSlots, 0 < touch.force := by
    rw [Bool.false_or, Nat.sub_zero] at hactive
    simp only [hactive, List.any_eq_true, decide_eq_true_eq]
  have hshown : ∀ key, key = .buttonTouch ∨ key = .buttonToolFinger →
      (key ∈ s.device.keys ↔ s.touchState = true) →
      (touchStateEvents active s.touchState).2 = active ∧
        (key ∈ (s.device.replay (r.events ++ stateEvents)).keys ↔ active = true) := by
    intro key hkey hbefore
    rw [Evdev.replay_append]
    exact keys_touchStateEvents _ active s.touchState hkey (hplaced.keys ▸ hbefore)
  obtain ⟨hstate, htouch⟩ := hshown .buttonTouch (.inl rfl) h.touch
  obtain ⟨-, htoolFinger⟩ := hshown .buttonToolFinger (.inr rfl) h.toolFinger
  rw [hstep]
  refine ⟨⟨?_, ?_, ?_, ?_⟩, ⟨?_, ?_, ?_, ?_⟩, ?_⟩
  · intro i hi
    simp only [hslots]
    exact hplaced.released i hi
  · simp only [htouch, hstate]
  · simp only [htoolFinger, hstate]
  · intro j hj
    simp only [hslots]
    rw [hplaced.outside j hj, h.outside j hj]
  · simp only [hslots]
    exact hplaced.held
  · intro i hlen hlt
    simp only [hslots]
    exact hplaced.ended ⟨i, hlt⟩ hlen
  · simp only [htouch, hforce]
  · simp only [htoolFinger, hforce]
  · exact hplaced.inRange.append (inRange_touchStateEvents _ _)

theorem follows_run (hmax : maxSlots ≤ 2 ^ 31) (reports : List (List TouchReport)) :
    Follows (Touchpad.run maxSlots reports) := by
  induction reports using List.reverseRecOn with
  | nil => exact follows_initial
  | append_singleton reports touchReports ih =>
      rw [Touchpad.run, List.foldl_concat]
      exact (ih.step hmax touchReports).1

end

/-- After every report the device shows its touches, in the slots it has. -/
theorem touchpad_shows_report (maxSlots : Nat) (hmax : maxSlots ≤ 2 ^ 31)
    (earlier : List (List TouchReport)) (touchReports : List TouchReport) :
    Shows (Touchpad.run maxSlots (earlier ++ [touchReports])) touchReports ∧
      InRange maxSlots ((Touchpad.run maxSlots earlier).events touchReports) ∧
      ∀ j : Int, j < 0 ∨ maxSlots ≤ j →
        (Touchpad.run maxSlots (earlier ++ [touchReports])).device.slots j =
          Evdev.initial.slots j := by
  have hrun : Touchpad.run maxSlots (earlier ++ [touchReports]) =
      (Touchpad.run maxSlots earlier).step touchReports := List.foldl_concat ..
  obtain ⟨hfollows, hshows, hrange⟩ := (follows_run hmax earlier).step hmax touchReports
  rw [hrun]
  exact ⟨hshows, hrange, hfollows.outside⟩

/-- Two touches on a device with four slots, of which one has ended afterwards. -/
theorem touchpad_shows_report_of_lifted :
    Shows (Touchpad.run rearTouchpadMaxSlots
        ([[⟨10, 20, 1, 90⟩, ⟨30, 40, 2, 80⟩]] ++ [[⟨30, 40, 2, 85⟩]])) [⟨30, 40, 2, 85⟩] ∧
      InRange rearTouchpadMaxSlots ((Touchpad.run rearTouchpadMaxSlots
        [[⟨10, 20, 1, 90⟩, ⟨30, 40, 2, 80⟩]]).events [⟨30, 40, 2, 85⟩]) ∧
      ∀ j : Int, j < 0 ∨ rearTouchpadMaxSlots ≤ j →
        (Touchpad.run rearTouchpadMaxSlots
          ([[⟨10, 20, 1, 90⟩, ⟨30, 40, 2, 80⟩]] ++ [[⟨30, 40, 2, 85⟩]])).device.slots j =
            Evdev.initial.slots j :=
  touchpad_shows_report rearTouchpadMaxSlots (by decide) [[⟨10, 20, 1, 90⟩, ⟨30, 40, 2, 80⟩]]
    [⟨30, 40, 2, 85⟩]

/-! ## The touchpad of a device -/

def slotCount : TouchpadSource → Nat
  | .front => frontTouchpadMaxSlots
  | .rear => rearTouchpadMaxSlots

def panelTouches (source : TouchpadSource) (report : MainReport) : List TouchReport :=
  match source with
  | .front => report.frontTouch.reports
  | .rear => report.backTouch.reports

def touchpadOf (source : TouchpadSource) (s : VitaDevice × Evdev) :
    Touchpad (slotCount source) :=
  match source with
  | .front => ⟨s.1.previousFrontTouches, s.1.touchState, s.2⟩
  | .rear => ⟨s.1.previousRearTouches, s.1.touchState, s.2⟩

section

variable {ε : Type} {locateAtPoint : LocateAtPoint} {config : Config} {source : TouchpadSource}

theorem onHandle_touchpad_writes (events : List InputEvent) (writes : List Write)
    (report : MainReport) :
    onHandle .touchpad (mainWrites events ++ writes ++ sensorWrites report) =
      onHandle .touchpad writes := by
  simp [onHandle, List.filter_append, mainWrites, sensorWrites]

theorem onHandle_synchronized (handle : Handle) (events : List InputEvent) :
    onHandle handle [(handle, events), (handle, [.synchronize])] =
      events ++ [.synchronize] := by
  simp [onHandle]

theorem touchpadOf_step {s t : VitaDevice × Evdev} {call : Call ε}
    (hconfig : s.1.config = config) (hsource : config.touchpadSource = some source)
    (h : replayStep locateAtPoint .touchpad s call = .ok t) :
    t.1.config = config ∧
      touchpadOf source t = (touchpadOf source s).step (panelTouches source call.report) := by
  obtain ⟨hresult, rfl⟩ := replayStep_eq_ok_iff.mp h
  obtain ⟨hdevice, hwritten⟩ := sendReport_ok hresult
  have hkeeps := touchpadWrites_keeps (mainEvents locateAtPoint s.1 call).2 call.report
  refine ⟨?_, ?_⟩
  · rw [hdevice, hkeeps.1]
    exact hconfig
  · have htouchpad : (mainEvents locateAtPoint s.1 call).2.config.touchpadSource =
        some source := by
      rw [← hsource, ← hconfig]
      rfl
    rw [hdevice, hwritten, onHandle_touchpad_writes]
    cases source with
    | front =>
        simp only [touchpadWrites, htouchpad, touchpadOf, Touchpad.step, panelTouches,
          onHandle_synchronized, replay_synchronized]
        rfl
    | rear =>
        simp only [touchpadWrites, htouchpad, touchpadOf, Touchpad.step, panelTouches,
          onHandle_synchronized, replay_synchronized]
        rfl

/-- The touchpad of a device whose reports are sent goes through the panel's touches. -/
theorem touchpadOf_run {calls : List (Call ε)} {s : VitaDevice × Evdev}
    (hsource : config.touchpadSource = some source)
    (h : replayRun locateAtPoint .touchpad config calls = .ok s) :
    s.1.config = config ∧ touchpadOf source s = Touchpad.run (slotCount source)
      (calls.map fun call => panelTouches source call.report) := by
  induction calls using List.reverseRecOn generalizing s with
  | nil =>
      cases h
      cases source <;> exact ⟨rfl, rfl⟩
  | append_singleton calls call ih =>
      obtain ⟨u, hu, hstep⟩ := (StepRun.run_concat_eq_ok_iff _ calls call s).mp h
      obtain ⟨hconfig, hrun⟩ := ih hu
      obtain ⟨hconfig', hnext⟩ := touchpadOf_step hconfig hsource hstep
      refine ⟨hconfig', ?_⟩
      rw [hnext, hrun, List.map_append, Touchpad.run, Touchpad.run, List.foldl_append]
      rfl

end

end VitaOxiPad.VirtualDevice.Linux
