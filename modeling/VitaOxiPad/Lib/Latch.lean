import Mathlib.Data.List.Induction
/-!
# Latched notifications

A word of event bits tells which notifications have been raised since it was last
read, but not in which order.  A reader that keeps a value, and looks for the
rising notification before it looks for the falling one, has the latest value
unless both have been raised since it last read, the falling one last.
-/

namespace Latch

/-! ## The word -/

section Word

variable {α : Type} {mask : α → UInt32}

/-- The word after the notifications of a window. -/
def raise (mask : α → UInt32) (word : UInt32) (window : List α) : UInt32 :=
  window.foldl (fun word a => word ||| mask a) word

theorem or_and (a b m : UInt32) : (a ||| b) &&& m = (a &&& m) ||| (b &&& m) := by
  apply UInt32.eq_of_toBitVec_eq
  ext i hi
  simp [Bool.and_or_distrib_right]

theorem raised_iff (hmask : ∀ a b, mask b &&& mask a ≠ 0 ↔ b = a) (word : UInt32)
    (window : List α) (a : α) :
    raise mask word window &&& mask a ≠ 0 ↔ word &&& mask a ≠ 0 ∨ a ∈ window := by
  induction window generalizing word with
  | nil => simp [raise]
  | cons b window ih =>
      have hcons : raise mask word (b :: window) = raise mask (word ||| mask b) window := rfl
      have hbit : (word ||| mask b) &&& mask a ≠ 0 ↔ word &&& mask a ≠ 0 ∨ b = a := by
        rw [or_and, ne_eq, UInt32.or_eq_zero_iff, not_and_or, ← hmask a b]
      rw [hcons, ih, hbit, List.mem_cons, or_assoc, eq_comm]

theorem raise_eq_zero_iff (hmask : ∀ a, mask a ≠ 0) (window : List α) :
    raise mask 0 window = 0 ↔ window = [] := by
  induction window using List.reverseRecOn with
  | nil => simp [raise]
  | append_singleton window a _ =>
      have hlast : raise mask 0 (window ++ [a]) = raise mask 0 window ||| mask a :=
        List.foldl_append
      simp [hlast, hmask a]

end Word

/-! ## The reader -/

/-- The value after a window of rises (`true`) and falls (`false`). -/
def read (value : Bool) (window : List Bool) : Bool :=
  if true ∈ window then true else if false ∈ window then false else value

def latest (value : Bool) (window : List Bool) : Bool := window.getLastD value

/-- A fall that the reader does not see for a rise before it. -/
def Blurred (window : List Bool) : Prop := window.getLast? = some false ∧ true ∈ window

instance (window : List Bool) : Decidable (Blurred window) :=
  inferInstanceAs (Decidable (_ ∧ _))

def lastWindow (windows : List (List Bool)) : Option (List Bool) :=
  (windows.filter fun window => !window.isEmpty).getLast?

theorem latest_flatten {windows : List (List Bool)} {window : List Bool}
    (h : lastWindow windows = some window) (value : Bool) :
    latest value windows.flatten = latest value window := by
  induction windows using List.reverseRecOn with
  | nil => cases h
  | append_singleton windows last ih =>
      rw [List.flatten_append, List.flatten_singleton]
      cases last with
      | nil =>
          rw [List.append_nil]
          exact ih (by simpa [lastWindow] using h)
      | cons a last =>
          have hlast : window = a :: last := by simpa [lastWindow, eq_comm] using h
          rw [hlast]
          simp [latest, List.getLast?_cons]

theorem read_eq_latest_iff {window : List Bool} (h : window ≠ []) (value value' : Bool) :
    read value window = latest value' window ↔ ¬ Blurred window := by
  obtain ⟨before, last, rfl⟩ := List.eq_nil_or_concat window |>.resolve_left h
  cases last with
  | true => simp [read, latest, Blurred]
  | false => simp [read, latest, Blurred]

/-- After all the windows the reader has the latest value, exactly when the last
window with a notification does not hide a fall. -/
theorem foldl_read_eq_latest_iff (value : Bool) (windows : List (List Bool)) :
    windows.foldl read value = latest value windows.flatten ↔
      ∀ window, lastWindow windows = some window → ¬ Blurred window := by
  induction windows using List.reverseRecOn with
  | nil => simp [latest, lastWindow]
  | append_singleton windows window ih =>
      rw [List.foldl_append, List.foldl_cons, List.foldl_nil, List.flatten_append]
      cases window with
      | nil => simpa [read, lastWindow, latest] using ih
      | cons a window =>
          have hlatest : latest value (windows.flatten ++ [a :: window].flatten) =
              latest value (a :: window) := by
            simp [latest, List.getLast?_cons]
          have hlast : lastWindow (windows ++ [a :: window]) = some (a :: window) := by
            simp [lastWindow, List.filter_append]
          rw [hlatest, hlast, read_eq_latest_iff (List.cons_ne_nil a window)]
          simp

end Latch
