import Mathlib.Logic.Function.Basic
import VitaOxiPad.Lib.SetChanges
/-!
# Emulated input devices

The events a driver writes to a uinput handle, and the state of the emulated
device that a reader of these events keeps: the keys held down, the axes, and
the slots of a multitouch device.
-/

namespace VitaOxiPad.VirtualDevice

open SetChanges

inductive Key where
  | buttonThumbr
  | buttonThumbl
  | buttonStart
  | buttonSelect
  | buttonTR
  | buttonTL
  | buttonTR2
  | buttonTL2
  | buttonNorth
  | buttonEast
  | buttonSouth
  | buttonWest
  | buttonMode
  | buttonTouch
  | buttonToolFinger
  | volumeUp
  | volumeDown
  deriving DecidableEq, Repr

inductive KeyState where
  | released
  | pressed
  deriving DecidableEq, Repr

inductive AbsoluteAxis where
  | x
  | y
  | z
  | rx
  | ry
  | rz
  | hat0X
  | hat0Y
  | multitouchSlot
  | multitouchTrackingId
  | multitouchPositionX
  | multitouchPositionY
  | multitouchPressure
  deriving DecidableEq, Repr

/-- An event without its time. -/
inductive InputEvent where
  | key (key : Key) (state : KeyState)
  | absolute (axis : AbsoluteAxis) (value : Int)
  | synchronize
  deriving DecidableEq, Repr

structure Slot where
  trackingId : Int
  positionX : Int
  positionY : Int
  pressure : Int
  deriving DecidableEq, Repr

/-- What the events have made of a device. -/
structure Evdev where
  keys : Finset Key
  axes : AbsoluteAxis → Int
  slot : Int
  slots : Int → Slot

namespace Evdev

def initial : Evdev where
  keys := ∅
  axes := fun _ => 0
  slot := 0
  slots := fun _ => ⟨-1, 0, 0, 0⟩

def current (d : Evdev) : Slot := d.slots d.slot

def setCurrent (d : Evdev) (slot : Slot) : Evdev :=
  { d with slots := Function.update d.slots d.slot slot }

def apply (d : Evdev) : InputEvent → Evdev
  | .key key .pressed => { d with keys := insert key d.keys }
  | .key key .released => { d with keys := d.keys.erase key }
  | .absolute .multitouchSlot value => { d with slot := value }
  | .absolute .multitouchTrackingId value => d.setCurrent { d.current with trackingId := value }
  | .absolute .multitouchPositionX value => d.setCurrent { d.current with positionX := value }
  | .absolute .multitouchPositionY value => d.setCurrent { d.current with positionY := value }
  | .absolute .multitouchPressure value => d.setCurrent { d.current with pressure := value }
  | .absolute axis value => { d with axes := Function.update d.axes axis value }
  | .synchronize => d

def replay (d : Evdev) (events : List InputEvent) : Evdev := events.foldl apply d

@[simp] theorem replay_nil (d : Evdev) : d.replay [] = d := rfl

@[simp] theorem replay_cons (d : Evdev) (event : InputEvent) (events : List InputEvent) :
    d.replay (event :: events) = (d.apply event).replay events := rfl

theorem replay_append (d : Evdev) (xs ys : List InputEvent) :
    d.replay (xs ++ ys) = (d.replay xs).replay ys :=
  List.foldl_append

end Evdev

/-! ## Keys -/

def InputEvent.keyChange? : InputEvent → Option (Change Key)
  | .key k .pressed => some (.press k)
  | .key k .released => some (.release k)
  | _ => none

def keyChanges (events : List InputEvent) : List (Change Key) :=
  events.filterMap InputEvent.keyChange?

theorem keyChanges_append (xs ys : List InputEvent) :
    keyChanges (xs ++ ys) = keyChanges xs ++ keyChanges ys :=
  List.filterMap_append

theorem Evdev.keys_replay (d : Evdev) (events : List InputEvent) :
    (d.replay events).keys = SetChanges.replay d.keys (keyChanges events) := by
  induction events generalizing d with
  | nil => rfl
  | cons event events ih =>
      rw [replay_cons, ih]
      rcases event with ⟨key, _ | _⟩ | ⟨_ | _, value⟩ | _ <;> rfl

/-! ## Axes -/

def AbsoluteAxis.Multitouch : AbsoluteAxis → Prop
  | .multitouchSlot => True
  | .multitouchTrackingId => True
  | .multitouchPositionX => True
  | .multitouchPositionY => True
  | .multitouchPressure => True
  | _ => False

def InputEvent.valueOf? (axis : AbsoluteAxis) : InputEvent → Option Int
  | .absolute a value => if a = axis then some value else none
  | _ => none

def axisValues (axis : AbsoluteAxis) (events : List InputEvent) : List Int :=
  events.filterMap (InputEvent.valueOf? axis)

theorem axisValues_append (axis : AbsoluteAxis) (xs ys : List InputEvent) :
    axisValues axis (xs ++ ys) = axisValues axis xs ++ axisValues axis ys :=
  List.filterMap_append

theorem Evdev.axes_apply {axis : AbsoluteAxis} (h : ¬ axis.Multitouch) (d : Evdev)
    (event : InputEvent) :
    (d.apply event).axes axis = (event.valueOf? axis).getD (d.axes axis) := by
  rcases event with ⟨key, _ | _⟩ | ⟨a, value⟩ | _
  · rfl
  · rfl
  · by_cases ha : a = axis
    · subst ha
      cases a <;> simp_all [apply, InputEvent.valueOf?, AbsoluteAxis.Multitouch]
    · have hne : axis ≠ a := Ne.symm ha
      cases a <;> simp [apply, InputEvent.valueOf?, setCurrent, hne, ha]
  · rfl

theorem Evdev.axes_replay {axis : AbsoluteAxis} (h : ¬ axis.Multitouch) (d : Evdev)
    (events : List InputEvent) :
    (d.replay events).axes axis = (axisValues axis events).getLastD (d.axes axis) := by
  induction events generalizing d with
  | nil => rfl
  | cons event events ih =>
      have hcons : axisValues axis (event :: events) =
          (event.valueOf? axis).toList ++ axisValues axis events := by
        rw [axisValues, List.filterMap_cons]
        cases event.valueOf? axis <;> rfl
      rw [replay_cons, ih, axes_apply h, hcons]
      cases event.valueOf? axis with
      | none => rfl
      | some value => exact (List.getLastD_cons ..).symm

end VitaOxiPad.VirtualDevice
