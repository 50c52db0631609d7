import Mathlib.Data.Finset.Basic
import Mathlib.Data.Finset.Image
/-!
# Sets kept by their changes

One side knows a set and tells the other only what changed.  The other side
keeps the same set, and is never told a change that changes nothing, when the
changes list the two differences, each in any order.
-/

namespace SetChanges

variable {α β : Type}

/-- The list goes once through the set, in some order. -/
structure Enumerates (l : List α) (s : Finset α) : Prop where
  nodup : l.Nodup
  mem_iff : ∀ a, a ∈ l ↔ a ∈ s

theorem Enumerates.map [DecidableEq β] {l : List α} {s : Finset α} (h : Enumerates l s)
    {f : α → β} (hf : Function.Injective f) : Enumerates (l.map f) (s.image f) where
  nodup := h.nodup.map hf
  mem_iff b := by simp only [List.mem_map, Finset.mem_image, h.mem_iff]

inductive Change (α : Type) where
  | press (a : α)
  | release (a : α)
  deriving DecidableEq, Repr

variable [DecidableEq α]

namespace Change

def apply (s : Finset α) : Change α → Finset α
  | press a => insert a s
  | release a => s.erase a

def Effective (s : Finset α) : Change α → Prop
  | press a => a ∉ s
  | release a => a ∈ s

end Change

def replay (s : Finset α) (changes : List (Change α)) : Finset α :=
  changes.foldl Change.apply s

/-- No change leaves the set as it is. -/
def AllEffective : Finset α → List (Change α) → Prop
  | _, [] => True
  | s, change :: changes => change.Effective s ∧ AllEffective (change.apply s) changes

@[simp] theorem replay_nil (s : Finset α) : replay s [] = s := rfl

@[simp] theorem replay_cons (s : Finset α) (change : Change α) (changes : List (Change α)) :
    replay s (change :: changes) = replay (change.apply s) changes := rfl

theorem replay_append (s : Finset α) (xs ys : List (Change α)) :
    replay s (xs ++ ys) = replay (replay s xs) ys :=
  List.foldl_append

theorem allEffective_append (s : Finset α) (xs ys : List (Change α)) :
    AllEffective s (xs ++ ys) ↔ AllEffective s xs ∧ AllEffective (replay s xs) ys := by
  induction xs generalizing s with
  | nil => simp [AllEffective]
  | cons x xs ih => simp only [List.cons_append, AllEffective, ih, replay_cons, and_assoc]

theorem mem_replay_presses (l : List α) (s : Finset α) (a : α) :
    a ∈ replay s (l.map .press) ↔ a ∈ s ∨ a ∈ l := by
  induction l generalizing s with
  | nil => simp
  | cons b l ih =>
      rw [List.map_cons, replay_cons, ih]
      simp only [Change.apply, Finset.mem_insert, List.mem_cons]
      tauto

theorem mem_replay_releases (l : List α) (s : Finset α) (a : α) :
    a ∈ replay s (l.map .release) ↔ a ∈ s ∧ a ∉ l := by
  induction l generalizing s with
  | nil => simp
  | cons b l ih =>
      rw [List.map_cons, replay_cons, ih]
      simp only [Change.apply, Finset.mem_erase, List.mem_cons]
      tauto

theorem allEffective_presses {l : List α} (hl : l.Nodup) {s : Finset α}
    (hs : ∀ a ∈ l, a ∉ s) : AllEffective s (l.map .press) := by
  induction l generalizing s with
  | nil => trivial
  | cons b l ih =>
      obtain ⟨hb, hl⟩ := List.nodup_cons.mp hl
      refine ⟨hs b (by simp), ih hl fun a ha hmem => ?_⟩
      rcases Finset.mem_insert.mp hmem with rfl | hmem
      · exact hb ha
      · exact hs a (by simp [ha]) hmem

theorem allEffective_releases {l : List α} (hl : l.Nodup) {s : Finset α}
    (hs : ∀ a ∈ l, a ∈ s) : AllEffective s (l.map .release) := by
  induction l generalizing s with
  | nil => trivial
  | cons b l ih =>
      obtain ⟨hb, hl⟩ := List.nodup_cons.mp hl
      refine ⟨hs b (by simp), ih hl fun a ha => ?_⟩
      have hne : a ≠ b := fun hab => hb (hab ▸ ha)
      exact Finset.mem_erase.mpr ⟨hne, hs a (by simp [ha])⟩

def difference (pressed released : List α) : List (Change α) :=
  pressed.map .press ++ released.map .release

theorem replay_difference {s t : Finset α} {pressed released : List α}
    (hpressed : Enumerates pressed (t \ s)) (hreleased : Enumerates released (s \ t)) :
    replay s (difference pressed released) = t := by
  ext a
  rw [difference, replay_append, mem_replay_releases, mem_replay_presses, hpressed.mem_iff,
    hreleased.mem_iff, Finset.mem_sdiff, Finset.mem_sdiff]
  tauto

theorem allEffective_difference {s t : Finset α} {pressed released : List α}
    (hpressed : Enumerates pressed (t \ s)) (hreleased : Enumerates released (s \ t)) :
    AllEffective s (difference pressed released) := by
  rw [difference, allEffective_append]
  constructor
  · refine allEffective_presses hpressed.nodup fun a ha => ?_
    exact (Finset.mem_sdiff.mp ((hpressed.mem_iff a).mp ha)).2
  · refine allEffective_releases hreleased.nodup fun a ha => ?_
    rw [mem_replay_presses]
    exact .inl (Finset.mem_sdiff.mp ((hreleased.mem_iff a).mp ha)).1

/-- An element pressed and released again. -/
def tap (a : α) : List (Change α) := [.press a, .release a]

theorem replay_tap {s : Finset α} {a : α} (h : a ∉ s) : replay s (tap a) = s :=
  Finset.erase_insert h

theorem allEffective_tap {s : Finset α} {a : α} (h : a ∉ s) : AllEffective s (tap a) :=
  ⟨h, Finset.mem_insert_self a s, trivial⟩

end SetChanges
