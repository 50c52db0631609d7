import Mathlib.Data.List.Basic
/-!
# Reports of changes over a link that loses some

A sender reports a value only when it is another one than the value before, and
remembers it whether or not the report gets through.  The receiver shows what the
last change has told it that did get through.
-/

namespace ChangeReports

variable {β : Type}

/-- A value that the sender comes to have, and whether a report of it gets through. -/
structure Report (β : Type) where
  value : β
  delivered : Bool
  deriving DecidableEq, Repr

structure Link (β : Type) where
  /-- What the sender takes the receiver to show. -/
  remembered : β
  shown : β
  deriving DecidableEq, Repr

variable [DecidableEq β]

def Link.report (s : Link β) (r : Report β) : Link β where
  remembered := r.value
  shown := if r.value ≠ s.remembered ∧ r.delivered = true then r.value else s.shown

/-- The reports of another value than the one before, which at first is `value`. -/
def changes : β → List (Report β) → List (Report β)
  | _, [] => []
  | value, r :: rs => if r.value ≠ value then r :: changes r.value rs else changes r.value rs

def lastDelivered (value : β) (reports : List (Report β)) : β :=
  (((changes value reports).filter (·.delivered)).map (·.value)).getLastD value

theorem foldl_report_shown (s : Link β) (reports : List (Report β)) :
    (reports.foldl Link.report s).shown =
      (((changes s.remembered reports).filter (·.delivered)).map (·.value)).getLastD
        s.shown := by
  induction reports generalizing s with
  | nil => rfl
  | cons r rs ih =>
      rw [List.foldl_cons, ih, changes]
      by_cases hchange : r.value ≠ s.remembered
      · rw [if_pos hchange]
        cases hdelivered : r.delivered with
        | false => simp [Link.report, hdelivered]
        | true => simp [Link.report, hdelivered, hchange, List.getLast?_cons]
      · rw [if_neg hchange]
        simp [Link.report, hchange]

theorem shown_eq_lastDelivered (value : β) (reports : List (Report β)) :
    (reports.foldl Link.report ⟨value, value⟩).shown = lastDelivered value reports :=
  foldl_report_shown ⟨value, value⟩ reports

theorem Link.report_of_delivered {s : Link β} (h : s.shown = s.remembered) {r : Report β}
    (hr : r.delivered = true) : s.report r = ⟨r.value, r.value⟩ := by
  by_cases hchange : r.value = s.remembered
  · simp [report, hchange, h]
  · simp [report, hchange, hr]

theorem lastDelivered_of_all_delivered {reports : List (Report β)}
    (h : ∀ r ∈ reports, r.delivered = true) (value : β) :
    lastDelivered value reports = (reports.map (·.value)).getLastD value := by
  rw [← shown_eq_lastDelivered]
  induction reports generalizing value with
  | nil => rfl
  | cons r rs ih =>
      obtain ⟨hr, hrs⟩ := List.forall_mem_cons.mp h
      rw [List.foldl_cons, Link.report_of_delivered rfl hr, ih hrs, List.map_cons,
        List.getLastD_cons]

/-! ## Sides that begin with different values -/

def Link.tell (s : Link β) (value : β) : Link β := s.report ⟨value, true⟩

/-- Until a value is another than the one before, nothing is told. -/
theorem Link.tell_remembered (s : Link β) : s.tell s.remembered = s := by
  rw [tell, report, if_neg (by simp)]

theorem Link.tell_of_ne {s : Link β} {value : β} (h : value ≠ s.remembered) :
    s.tell value = ⟨value, value⟩ := by
  rw [tell, report, if_pos ⟨h, rfl⟩]

theorem foldl_tell_of_agreed (value : β) (values : List β) :
    values.foldl Link.tell ⟨value, value⟩ =
      ⟨values.getLastD value, values.getLastD value⟩ := by
  induction values generalizing value with
  | nil => rfl
  | cons v values ih =>
      rw [List.foldl_cons, Link.tell, Link.report_of_delivered rfl rfl, ih, List.getLastD_cons]

/-- The receiver shows the last value, unless every value has been the one that the
sender took it to show at first. -/
theorem foldl_tell_shown (s : Link β) (values : List β) :
    (values.foldl Link.tell s).shown =
      if ∀ value ∈ values, value = s.remembered then s.shown
      else values.getLastD s.shown := by
  induction values with
  | nil => rfl
  | cons value values ih =>
      rw [List.foldl_cons]
      by_cases hsame : value = s.remembered
      · have hcons : (∀ v ∈ value :: values, v = s.remembered) ↔
            ∀ v ∈ values, v = s.remembered := by
          simp [hsame]
        rw [hsame, Link.tell_remembered, ih, ← hsame]
        rw [← hsame] at hcons
        simp only [hcons]
        split_ifs with hall
        · rfl
        · have hne : values ≠ [] := by
            intro hnil
            exact hall (by simp [hnil])
          rw [List.getLastD_cons, List.getLastD_eq_getLast?, List.getLastD_eq_getLast?,
            List.getLast?_eq_some_getLast hne]
          rfl
      · have hsome : ¬ ∀ v ∈ value :: values, v = s.remembered :=
          fun hall => hsame (hall value List.mem_cons_self)
        rw [Link.tell_of_ne hsame, foldl_tell_of_agreed, if_neg hsome, List.getLastD_cons]

/-- How often the value has changed, from this one on. -/
def changeCount (value : β) (values : List β) : Nat :=
  (changes value (values.map (Report.mk · true))).length

theorem changeCount_cons (value v : β) (values : List β) :
    changeCount value (v :: values) =
      changeCount v values + if v = value then 0 else 1 := by
  rw [changeCount, List.map_cons, changes]
  by_cases hsame : v = value
  · rw [if_neg (not_not.mpr hsame), if_pos hsame]
    rfl
  · rw [if_pos hsame, if_neg hsame]
    rfl

end ChangeReports
