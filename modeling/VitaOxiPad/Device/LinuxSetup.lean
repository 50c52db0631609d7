import VitaOxiPad.Device.LostReports
import VitaOxiPad.Device.Touchpad
/-!
# What the Linux driver declares

`new` gives each of the four uinput handles the keys and the axes that its device has, each
axis with a range.  The kernel drops the events of others, and passes on any value.
-/

namespace VitaOxiPad.VirtualDevice.Linux

open SetChanges
open Client.VitaReports

/-! ## What `new` declares -/

structure AbsoluteInfoSetup where
  axis : AbsoluteAxis
  minimum : Int
  maximum : Int
  deriving DecidableEq, Repr

/-- The bits of a handle and the axes it is created with. -/
structure Setup where
  keybits : List Key
  axes : List AbsoluteInfoSetup
  deriving DecidableEq, Repr

def frontTouchpadMaxX : Int := frontTouchpadRect.2.x - 1

def frontTouchpadMaxY : Int := frontTouchpadRect.2.y - 1

def rearTouchpadMaxX : Int := rearTouchpadRect.2.x - 1

def rearTouchpadMaxY : Int := rearTouchpadRect.2.y - 1

def touchpadSize : Option TouchpadSource → Int × Int × Nat
  | some .front | none => (frontTouchpadMaxX, frontTouchpadMaxY, frontTouchpadMaxSlots)
  | some .rear => (rearTouchpadMaxX, rearTouchpadMaxY, rearTouchpadMaxSlots)

def mainSetup : Setup where
  keybits := allButtons.map mapButtonToDs4
  axes := [⟨.x, 0, 255⟩, ⟨.y, 0, 255⟩, ⟨.rx, 0, 255⟩, ⟨.ry, 0, 255⟩, ⟨.hat0Y, -1, 1⟩,
    ⟨.hat0X, -1, 1⟩]

def touchpadSetup (source : Option TouchpadSource) : Setup where
  keybits := [.buttonTouch, .buttonToolFinger]
  axes :=
    let (maxX, maxY, maxSlots) := touchpadSize source
    [⟨.multitouchPositionX, 0, maxX⟩, ⟨.multitouchPositionY, 0, maxY⟩, ⟨.x, 0, maxX⟩,
      ⟨.y, 0, maxY⟩, ⟨.multitouchTrackingId, -1, 128⟩, ⟨.multitouchSlot, 0, maxSlots - 1⟩,
      ⟨.multitouchPressure, 0, 128⟩]

def sensorSetup : Setup where
  keybits := []
  axes := [.x, .y, .z, .rx, .ry, .rz].map fun axis => ⟨axis, -32768, 32768⟩

def keyboardSetup : Setup where
  keybits := [.volumeUp, .volumeDown]
  axes := []

def Handle.setup (source : Option TouchpadSource) : Handle → Setup
  | main => mainSetup
  | touchpad => touchpadSetup source
  | sensor => sensorSetup
  | keyboard => keyboardSetup

def Setup.passes (setup : Setup) : InputEvent → Bool
  | .key key _ => key ∈ setup.keybits
  | .absolute axis _ => axis ∈ setup.axes.map (·.axis)
  | .synchronize => true

/-! ## What the kernel passes on -/

section

variable (setup : Setup) (events : List InputEvent)

theorem axisValues_filter {axis : AbsoluteAxis} (h : axis ∈ setup.axes.map (·.axis)) :
    axisValues axis (events.filter setup.passes) = axisValues axis events := by
  rw [axisValues, List.filterMap_filter]
  apply List.filterMap_congr
  intro event _
  cases event with
  | absolute a value =>
      by_cases ha : a = axis
      · subst ha
        simp [Setup.passes, h]
      · simp [InputEvent.valueOf?, ha]
  | _ => simp [InputEvent.valueOf?]

def changeKey : Change Key → Key
  | .press key => key
  | .release key => key

theorem keyChanges_filter :
    keyChanges (events.filter setup.passes) =
      (keyChanges events).filter fun change => decide (changeKey change ∈ setup.keybits) := by
  rw [keyChanges, keyChanges, List.filterMap_filter, List.filter_filterMap]
  apply List.filterMap_congr
  intro event _
  cases event with
  | key key state =>
      cases state <;> by_cases hkey : key ∈ setup.keybits <;>
        simp [Setup.passes, InputEvent.keyChange?, changeKey, Option.filter, hkey]
  | _ => simp [InputEvent.keyChange?]

end

theorem keyChanges_passed (setup : Setup) (events : List InputEvent) :
    keyChanges ((events ++ [InputEvent.synchronize]).filter setup.passes) =
      (keyChanges events).filter fun change => decide (changeKey change ∈ setup.keybits) := by
  rw [keyChanges_filter, keyChanges_synchronized]

theorem axisValues_passed {setup : Setup} {axis : AbsoluteAxis}
    (h : axis ∈ setup.axes.map (·.axis)) (events : List InputEvent) :
    axisValues axis ((events ++ [InputEvent.synchronize]).filter setup.passes) =
      axisValues axis events := by
  rw [axisValues_filter setup _ h, axisValues_append]
  exact List.append_nil _

/-! ## The touchpad -/

section

variable {maxSlots : Nat} {touchReports : List TouchReport} {event : InputEvent}

theorem mem_resetSlots {slots : List (Fin maxSlots)} {t : Touches maxSlots}
    (h : event ∈ (slots.foldl (resetSlot touchReports) t).events) :
    event ∈ t.events ∨ ∃ slot ∈ slots, event ∈ resetEvents (asI32 slot) := by
  induction slots generalizing t with
  | nil => exact .inl h
  | cons slot slots ih =>
      rcases ih h with hstep | ⟨slot', hslot', hevent⟩
      · unfold resetSlot at hstep
        dsimp only at hstep
        split_ifs at hstep
        · rcases List.mem_append.mp hstep with hold | hnew
          · exact .inl hold
          · exact .inr ⟨slot, List.mem_cons_self, hnew⟩
        · exact .inl hstep
      · exact .inr ⟨slot', List.mem_cons_of_mem slot hslot', hevent⟩

theorem mem_updateSlots {t : Touches maxSlots} {anyTouchActive : Bool} {slot : Nat}
    (h : event ∈ (updateSlots t anyTouchActive slot touchReports).1.events) :
    event ∈ t.events ∨ ∃ k touch, touchReports[k]? = some touch ∧ slot + k < maxSlots ∧
      event ∈ touchEvents (asI32 (slot + k : Nat)) touch := by
  induction touchReports generalizing t anyTouchActive slot with
  | nil => exact .inl h
  | cons touch touchReports ih =>
      unfold updateSlots at h
      split_ifs at h with hslot
      · rcases ih h with hstep | ⟨k, touch', hk, hlt, hevent⟩
        · rcases List.mem_append.mp hstep with hold | hnew
          · exact .inl hold
          · exact .inr ⟨0, touch, rfl, hslot, hnew⟩
        · refine .inr ⟨k + 1, touch', hk, by omega, ?_⟩
          rwa [Nat.add_right_comm, Nat.add_assoc] at hevent
      · exact .inl h

/-- An event of the touchpad ends a slot, shows a touch in its slot, or is of a touch key. -/
inductive TouchpadEvent (maxSlots : Nat) (touchReports : List TouchReport) : InputEvent → Prop
  | ended {event : InputEvent} (slot : Fin maxSlots) (h : event ∈ resetEvents (asI32 slot)) :
      TouchpadEvent maxSlots touchReports event
  | shown {event : InputEvent} (slot : Nat) (touch : TouchReport)
      (htouch : touchReports[slot]? = some touch) (hslot : slot < maxSlots)
      (h : event ∈ touchEvents (asI32 slot) touch) : TouchpadEvent maxSlots touchReports event
  | key (key : Key) (state : KeyState) (h : key ∈ [Key.buttonTouch, .buttonToolFinger]) :
      TouchpadEvent maxSlots touchReports (.key key state)

theorem mem_touchStateEvents {anyTouchActive touchState : Bool}
    (h : event ∈ (touchStateEvents anyTouchActive touchState).1) :
    TouchpadEvent maxSlots touchReports event := by
  have hkeys : ∀ {state}, event ∈ [.key .buttonTouch state, .key .buttonToolFinger state] →
      TouchpadEvent maxSlots touchReports event := by
    intro state hmem
    rcases List.mem_cons.mp hmem with rfl | hmem
    · exact .key _ _ (by simp)
    · rw [List.mem_singleton.mp hmem]
      exact .key _ _ (by simp)
  unfold touchStateEvents at h
  split_ifs at h
  · exact hkeys h
  · exact hkeys h
  · cases h

theorem mem_createTouchEvents {previousTouches : Vector (Option TrackingId) maxSlots}
    {touchState : Bool}
    (h : event ∈ (createTouchEvents touchReports previousTouches touchState).1.events) :
    TouchpadEvent maxSlots touchReports event := by
  unfold createTouchEvents at h
  dsimp only at h
  rcases List.mem_append.mp h with hloops | hstate
  · rcases mem_updateSlots hloops with hreset | ⟨k, touch, hk, hlt, hevent⟩
    · rcases mem_resetSlots hreset with hnone | ⟨slot, -, hevent⟩
      · cases hnone
      · exact .ended slot hevent
    · rw [Nat.zero_add] at hlt hevent
      exact .shown k touch hk hlt hevent
  · exact mem_touchStateEvents hstate

theorem touchpad_passes (source : Option TouchpadSource)
    (h : TouchpadEvent maxSlots touchReports event) : (touchpadSetup source).passes event := by
  cases h with
  | ended slot h =>
      simp only [resetEvents, List.mem_cons, List.not_mem_nil, or_false] at h
      rcases h with rfl | rfl <;> rfl
  | shown slot touch _ _ h =>
      simp only [touchEvents, List.mem_cons, List.not_mem_nil, or_false] at h
      rcases h with rfl | rfl | rfl | rfl | rfl <;> rfl
  | key key state h => exact decide_eq_true h

end

/-! ## The ranges of the axes -/

/-- A value is in the range that its axis is declared with. -/
def Setup.Admits (setup : Setup) : InputEvent → Prop
  | .absolute axis value =>
      ∀ info ∈ setup.axes, info.axis = axis → info.minimum ≤ value ∧ value ≤ info.maximum
  | _ => True

structure OnPanel (source : TouchpadSource) (touch : TouchReport) : Prop where
  x : (touch.x.toNat : Int) ≤ (touchpadSize (some source)).1
  y : (touch.y.toNat : Int) ≤ (touchpadSize (some source)).2.1
  id : touch.id ≤ 128
  force : touch.force ≤ 128

section

variable {ε : Type} (locateAtPoint : LocateAtPoint) (d : VitaDevice) (call : Call ε)

theorem dpadDirectionToAxisValues_range (direction : DpadDirection) :
    (-1 ≤ (dpadDirectionToAxisValues direction).1 ∧
        (dpadDirectionToAxisValues direction).1 ≤ 1) ∧
      -1 ≤ (dpadDirectionToAxisValues direction).2 ∧
        (dpadDirectionToAxisValues direction).2 ≤ 1 := by
  cases direction <;> decide

theorem admits_createStickEvents {event : InputEvent}
    (h : event ∈ createStickEvents call.report) : mainSetup.Admits event := by
  have hbyte : ∀ n : UInt8, (n.toNat : Int) ≤ 255 := fun n => by
    have := n.toNat_lt
    omega
  simp only [createStickEvents, List.mem_cons, List.not_mem_nil, or_false] at h
  rcases h with rfl | rfl | rfl | rfl <;> simp [Setup.Admits, mainSetup, hbyte]

theorem admits_mainEvents {event : InputEvent} (h : event ∈ (mainEvents locateAtPoint d call).1) :
    mainSetup.Admits event := by
  obtain ⟨hX, hY⟩ := dpadDirectionToAxisValues_range
    (hatDirection locateAtPoint d.config call.report)
  simp only [mainEvents, pressed_eq, List.mem_append] at h
  rcases h with (((h | h) | h | h) | h) | h | h
  · obtain ⟨button, -, rfl⟩ := List.mem_map.mp h
    trivial
  · obtain ⟨button, -, rfl⟩ := List.mem_map.mp h
    trivial
  · unfold dpadEvent at h
    split_ifs at h
    · rw [List.mem_singleton.mp h]
      simpa [Setup.Admits, mainSetup] using hX
    · cases h
  · unfold dpadEvent at h
    split_ifs at h
    · rw [List.mem_singleton.mp h]
      simpa [Setup.Admits, mainSetup] using hY
    · cases h
  · exact admits_createStickEvents call h
  · unfold volumeEvent at h
    split_ifs at h
    · simp only [List.mem_cons, List.not_mem_nil, or_false] at h
      rcases h with rfl | rfl <;> trivial
    · cases h
  · unfold volumeEvent at h
    split_ifs at h
    · simp only [List.mem_cons, List.not_mem_nil, or_false] at h
      rcases h with rfl | rfl <;> trivial
    · cases h

theorem admits_createMotionEvents {event : InputEvent}
    (h : event ∈ createMotionEvents call.report) : sensorSetup.Admits event := by
  have hshort : ∀ n : Int16, -32768 ≤ n.toInt ∧ n.toInt ≤ 32768 := fun n => by
    have hlo := n.le_toInt
    have hhi := n.toInt_lt
    omega
  simp only [createMotionEvents, List.mem_cons, List.not_mem_nil, or_false] at h
  rcases h with rfl | rfl | rfl | rfl | rfl | rfl <;>
    simpa [Setup.Admits, sensorSetup] using hshort _

theorem admits_touchpadEvent (source : TouchpadSource) {touchReports : List TouchReport}
    (htouches : ∀ touch ∈ touchReports, OnPanel source touch) {event : InputEvent}
    (h : TouchpadEvent (slotCount source) touchReports event) :
    (touchpadSetup (some source)).Admits event := by
  have hcount : (touchpadSize (some source)).2.2 = slotCount source := by cases source <;> rfl
  have hslots : slotCount source ≤ 2 ^ 31 := by cases source <;> decide
  cases h with
  | ended slot h =>
      rw [asI32_of_lt (by omega)] at h
      simp only [resetEvents, List.mem_cons, List.not_mem_nil, or_false] at h
      rcases h with rfl | rfl
      · have hslot : (slot : Int) ≤ slotCount source - 1 := by omega
        simp [Setup.Admits, touchpadSetup, hcount, hslot]
      · simp [Setup.Admits, touchpadSetup]
  | shown slot touch htouch hslot h =>
      obtain ⟨hx, hy, hid, hforce⟩ := htouches touch (List.mem_of_getElem? htouch)
      have hid' : (touch.id.toNat : Int) ≤ 128 := by exact_mod_cast UInt8.le_iff_toNat_le.mp hid
      have hforce' : (touch.force.toNat : Int) ≤ 128 := by
        exact_mod_cast UInt8.le_iff_toNat_le.mp hforce
      rw [asI32_of_lt (by omega)] at h
      simp only [touchEvents, List.mem_cons, List.not_mem_nil, or_false] at h
      rcases h with rfl | rfl | rfl | rfl | rfl
      · simp [Setup.Admits, touchpadSetup, hcount]
        omega
      · simp [Setup.Admits, touchpadSetup]
        omega
      · simpa [Setup.Admits, touchpadSetup] using hx
      · simpa [Setup.Admits, touchpadSetup] using hy
      · simpa [Setup.Admits, touchpadSetup] using hforce'
  | key => trivial

theorem admits_touchpadWrites (report : MainReport)
    (htouches : ∀ source, d.config.touchpadSource = some source →
      ∀ touch ∈ panelTouches source report, OnPanel source touch)
    {w : Write} (hw : w ∈ (touchpadWrites d report).1) {event : InputEvent} (h : event ∈ w.2) :
    (touchpadSetup d.config.touchpadSource).Admits event := by
  unfold touchpadWrites at hw
  split at hw
  · rename_i hsource
    rw [hsource]
    simp only [List.mem_cons, List.not_mem_nil, or_false] at hw
    rcases hw with rfl | rfl
    · exact admits_touchpadEvent .front (htouches .front hsource) (mem_createTouchEvents h)
    · rw [List.mem_singleton.mp h]
      trivial
  · rename_i hsource
    rw [hsource]
    simp only [List.mem_cons, List.not_mem_nil, or_false] at hw
    rcases hw with rfl | rfl
    · exact admits_touchpadEvent .rear (htouches .rear hsource) (mem_createTouchEvents h)
    · rw [List.mem_singleton.mp h]
      trivial
  · cases hw

end

/-- Whatever the driver remembers and whether the call fails or not, every value that it
writes is in the range that `new` has declared the axis with, if the touches are on the
panel. -/
theorem values_in_declared_ranges {ε : Type} (locateAtPoint : LocateAtPoint) (d : VitaDevice)
    (call : Call ε)
    (htouches : ∀ source, d.config.touchpadSource = some source →
      ∀ touch ∈ panelTouches source call.report, OnPanel source touch) :
    ∀ w ∈ (sendReport locateAtPoint d call).written, ∀ event ∈ w.2,
      (w.1.setup d.config.touchpadSource).Admits event := by
  intro w hw event hevent
  obtain ⟨n, -, hwritten⟩ := sendReport_written locateAtPoint d call
  rw [hwritten] at hw
  have hall := List.mem_of_mem_take hw
  simp only [allWrites, laterWrites, sensorWrites, List.mem_cons, List.mem_append,
    List.not_mem_nil, or_false] at hall
  rcases hall with rfl | rfl | ((rfl | rfl) | htouch) | rfl | rfl
  · exact admits_mainEvents locateAtPoint d call hevent
  · rw [List.mem_singleton.mp hevent]
    trivial
  · cases event <;> simp [Handle.setup, keyboardSetup, Setup.Admits]
  · rw [List.mem_singleton.mp hevent]
    trivial
  · have hadmits := admits_touchpadWrites (mainEvents locateAtPoint d call).2 call.report htouches
      htouch hevent
    rw [touchpadWrites_handle _ _ w htouch]
    exact hadmits
  · exact admits_createMotionEvents call hevent
  · rw [List.mem_singleton.mp hevent]
    trivial

theorem values_in_declared_ranges_of_rear :
    (sendReport firstZone (.new .frontTopRl2BottomRl3RearTouchpad)
      (sentCall rearReport)).written.Forall fun w =>
        w.2.Forall (w.1.setup (some .rear)).Admits := by
  rw [List.forall_iff_forall_mem]
  intro w hw
  rw [List.forall_iff_forall_mem]
  apply values_in_declared_ranges firstZone (.new .frontTopRl2BottomRl3RearTouchpad)
    (sentCall rearReport) _ w hw
  intro source hsource touch htouch
  cases hsource
  rw [List.mem_singleton.mp htouch]
  exact ⟨by decide, by decide, by decide, by decide⟩

end VitaOxiPad.VirtualDevice.Linux
