import Mathlib.Data.List.Induction
import Mathlib.Data.List.Infix
/-!
# Runs of a fallible step function

A run feeds a list of inputs, one at a time, to a step function that may stop
with an error.  An invariant is proved for one step and used for the run.
-/

namespace StepRun

variable {σ ι ε : Type}

/-- Feed the inputs in order, stopping at the first error. -/
def run (step : σ → ι → Except ε σ) : σ → List ι → Except ε σ
  | s, [] => .ok s
  | s, i :: is =>
      match step s i with
      | .error e => .error e
      | .ok s' => run step s' is

variable {step : σ → ι → Except ε σ}

@[simp] theorem run_nil (s : σ) : run step s [] = .ok s := rfl

theorem run_cons_of_ok {s s' : σ} {i : ι} (h : step s i = .ok s') (is : List ι) :
    run step s (i :: is) = run step s' is := by
  simp only [run, h]

theorem run_cons_of_error {s : σ} {i : ι} {e : ε} (h : step s i = .error e)
    (is : List ι) : run step s (i :: is) = .error e := by
  simp only [run, h]

theorem run_singleton (s : σ) (i : ι) : run step s [i] = step s i := by
  simp only [run]
  cases step s i <;> rfl

theorem run_append_of_ok {s s' : σ} {is : List ι} (h : run step s is = .ok s')
    (js : List ι) : run step s (is ++ js) = run step s' js := by
  induction is generalizing s with
  | nil => cases h; rfl
  | cons i is ih =>
      cases hs : step s i with
      | error e => rw [run_cons_of_error hs] at h; cases h
      | ok t =>
          rw [run_cons_of_ok hs] at h
          rw [List.cons_append, run_cons_of_ok hs, ih h]

theorem run_append_of_error {s : σ} {is : List ι} {e : ε}
    (h : run step s is = .error e) (js : List ι) :
    run step s (is ++ js) = .error e := by
  induction is generalizing s with
  | nil => cases h
  | cons i is ih =>
      cases hs : step s i with
      | error e' =>
          rw [run_cons_of_error hs] at h
          rw [List.cons_append, run_cons_of_error hs, h]
      | ok t =>
          rw [run_cons_of_ok hs] at h
          rw [List.cons_append, run_cons_of_ok hs, ih h]

theorem run_invariant {I : σ → Prop}
    (hstep : ∀ s i s', I s → step s i = .ok s' → I s')
    {s s' : σ} {is : List ι} (hs : I s) (h : run step s is = .ok s') : I s' := by
  induction is generalizing s with
  | nil => cases h; exact hs
  | cons i is ih =>
      cases hi : step s i with
      | error e => rw [run_cons_of_error hi] at h; cases h
      | ok t =>
          rw [run_cons_of_ok hi] at h
          exact ih (hstep s i t hs hi) h

theorem run_eq_error_iff (s : σ) (is : List ι) (e : ε) :
    run step s is = .error e ↔
      ∃ pre i post t, is = pre ++ i :: post ∧ run step s pre = .ok t ∧
        step t i = .error e := by
  constructor
  · intro h
    induction is generalizing s with
    | nil => cases h
    | cons i is ih =>
        cases hi : step s i with
        | error e' =>
            rw [run_cons_of_error hi] at h
            exact ⟨[], i, is, s, rfl, rfl, by rw [hi, h]⟩
        | ok t =>
            rw [run_cons_of_ok hi] at h
            obtain ⟨pre, j, post, u, rfl, hpre, hj⟩ := ih t h
            exact ⟨i :: pre, j, post, u, rfl, by rw [run_cons_of_ok hi, hpre], hj⟩
  · rintro ⟨pre, i, post, t, rfl, hpre, hi⟩
    rw [run_append_of_ok hpre, run_cons_of_error hi]

theorem run_cons_eq_ok_iff (s : σ) (i : ι) (is : List ι) (t : σ) :
    run step s (i :: is) = .ok t ↔ ∃ u, step s i = .ok u ∧ run step u is = .ok t := by
  cases hi : step s i with
  | error e => simp [run_cons_of_error hi]
  | ok u => simp [run_cons_of_ok hi]

theorem run_append_eq_ok_iff (s : σ) (is js : List ι) (t : σ) :
    run step s (is ++ js) = .ok t ↔ ∃ u, run step s is = .ok u ∧ run step u js = .ok t := by
  cases hs : run step s is with
  | error e => simp [run_append_of_error hs]
  | ok u => simp [run_append_of_ok hs]

theorem run_concat_eq_ok_iff (s : σ) (is : List ι) (i : ι) (t : σ) :
    run step s (is ++ [i]) = .ok t ↔ ∃ u, run step s is = .ok u ∧ step u i = .ok t := by
  simp only [run_append_eq_ok_iff, run_singleton]

theorem run_map {κ : Type} (f : κ → ι) (s : σ) (ks : List κ) :
    run step s (ks.map f) = run (fun s k => step s (f k)) s ks := by
  induction ks generalizing s with
  | nil => rfl
  | cons k ks ih =>
      simp only [List.map_cons, run]
      cases step s (f k) with
      | error e => rfl
      | ok t => exact ih t

/-- A step may itself be a run of smaller steps. -/
theorem run_flatMap {κ : Type} (f : κ → List ι) (s : σ) (ks : List κ) :
    run step s (ks.flatMap f) = run (fun s k => run step s (f k)) s ks := by
  induction ks generalizing s with
  | nil => rfl
  | cons k ks ih =>
      rw [List.flatMap_cons, run]
      cases hk : run step s (f k) with
      | error e => exact run_append_of_error hk _
      | ok t => rw [run_append_of_ok hk, ih]

/-- An invariant that good steps keep holds all along a run of good steps. -/
theorem run_invariant_of_good {I : σ → Prop} {Good : σ → ι → Prop}
    (hgood : ∀ s i t, I s → step s i = .ok t → Good s i → I t) {s : σ} (hs : I s)
    {is : List ι}
    (hall : ∀ pre i t u, pre ++ [i] <+: is → run step s pre = .ok t → I t →
      step t i = .ok u → Good t i)
    (pre : List ι) (t : σ) (hpre : pre <+: is) (hrun : run step s pre = .ok t) : I t := by
  induction pre using List.reverseRecOn generalizing t with
  | nil =>
      cases hrun
      exact hs
  | append_singleton pre i ih =>
      obtain ⟨u, hu, hi⟩ := (run_concat_eq_ok_iff s pre i t).mp hrun
      have hI := ih u ((List.prefix_append pre [i]).trans hpre) hu
      exact hgood u i t hI hi (hall pre i u t hpre hu hI hi)

/-- Where good steps keep an invariant and other steps break the property, the
property holds all along a run exactly when all its steps are good. -/
theorem run_holds_iff {I Q : σ → Prop} {Good : σ → ι → Prop} (hholds : ∀ s, I s → Q s)
    (hgood : ∀ s i t, I s → step s i = .ok t → Good s i → I t)
    (hbad : ∀ s i t, I s → step s i = .ok t → Q t → Good s i) {s : σ} (hs : I s)
    (is : List ι) :
    (∀ pre t, pre <+: is → run step s pre = .ok t → Q t) ↔
      ∀ pre i t u, pre ++ [i] <+: is → run step s pre = .ok t → step t i = .ok u →
        Good t i := by
  constructor
  · intro hQ pre i t u hpre hrun hi
    have hstep : ∀ pre i t u, pre ++ [i] <+: is → run step s pre = .ok t → I t →
        step t i = .ok u → Good t i := by
      intro pre i t u hpre hrun hI hi
      exact hbad t i u hI hi (hQ _ u hpre ((run_concat_eq_ok_iff s pre i u).mpr ⟨t, hrun, hi⟩))
    have hI := run_invariant_of_good hgood hs hstep pre t
      ((List.prefix_append pre [i]).trans hpre) hrun
    exact hstep pre i t u hpre hrun hI hi
  · intro hall pre t hpre hrun
    apply hholds
    exact run_invariant_of_good hgood hs (fun pre i t u hp hr _ => hall pre i t u hp hr)
      pre t hpre hrun

/-- What did not hold at first and holds in the end has begun with a step, and has held
ever since. -/
theorem run_since {Q : σ → Prop} {s t : σ} {is : List ι} (hs : ¬ Q s)
    (h : run step s is = .ok t) (ht : Q t) :
    ∃ pre i u v, pre ++ [i] <+: is ∧ run step s pre = .ok u ∧ step u i = .ok v ∧ ¬ Q u ∧ Q v ∧
      ∀ mid w, pre ++ [i] <+: mid → mid <+: is → run step s mid = .ok w → Q w := by
  induction is using List.reverseRecOn generalizing t with
  | nil =>
      cases h
      exact absurd ht hs
  | append_singleton is i ih =>
      obtain ⟨u, hu, hi⟩ := (run_concat_eq_ok_iff s is i t).mp h
      by_cases hQ : Q u
      · obtain ⟨pre, j, v, w, hpre, hv, hj, hnot, hw, hsince⟩ := ih hu hQ
        refine ⟨pre, j, v, w, hpre.trans (List.prefix_append is [i]), hv, hj, hnot, hw, ?_⟩
        intro mid x hmid hprefix hx
        rcases List.prefix_concat_iff.mp hprefix with rfl | hshort
        · rw [h] at hx
          cases hx
          exact ht
        · exact hsince mid x hmid hshort hx
      · refine ⟨is, i, u, t, List.prefix_refl _, hu, hi, hQ, ht, ?_⟩
        intro mid x hmid hprefix hx
        have hall : mid = is ++ [i] := hprefix.eq_of_length_le hmid.length_le
        rw [hall, h] at hx
        cases hx
        exact ht

/-! ## Results that are evaluated -/

theorem exists_ok_of_isOk {r : Except ε σ} (h : r.isOk = true) : ∃ s, r = .ok s := by
  cases r with
  | error e => cases h
  | ok s => exact ⟨s, rfl⟩

theorem exists_ok_of_bind {α : Type} {r : Except ε σ} {f : σ → Option α} {a : α}
    (h : r.toOption.bind f = some a) : ∃ s, r = .ok s ∧ f s = some a := by
  cases r with
  | error e => cases h
  | ok s => exact ⟨s, rfl, h⟩

theorem exists_ok_of_map {α : Type} {r : Except ε σ} {f : σ → α} {a : α}
    (h : r.toOption.map f = some a) : ∃ s, r = .ok s ∧ f s = a := by
  cases r with
  | error e => cases h
  | ok s => exact ⟨s, rfl, Option.some.inj h⟩

/-! ## Records of a run -/

/-- A step that also updates a record of what it was given. -/
def recording {α : Type} (step : σ → ι → Except ε σ) (record : σ → ι → α → α) (s : σ × α)
    (i : ι) : Except ε (σ × α) :=
  (step s.1 i).map fun t => (t, record s.1 i s.2)

theorem recording_eq_ok_iff {α : Type} {record : σ → ι → α → α} {s t : σ × α} {i : ι} :
    recording step record s i = .ok t ↔ step s.1 i = .ok t.1 ∧ t.2 = record s.1 i s.2 := by
  unfold recording
  cases step s.1 i with
  | error e => simp [Except.map]
  | ok u => simp [Except.map, Prod.ext_iff, eq_comm]

theorem run_recording_eq_ok_iff {α : Type} {record : σ → ι → α → α} (s : σ) (a : α)
    (is : List ι) (t : σ) :
    run step s is = .ok t ↔ ∃ b, run (recording step record) (s, a) is = .ok (t, b) := by
  induction is generalizing s a with
  | nil => simp
  | cons i is ih =>
      rw [run_cons_eq_ok_iff]
      simp only [run_cons_eq_ok_iff, recording_eq_ok_iff, Prod.exists]
      constructor
      · rintro ⟨u, hu, hrun⟩
        obtain ⟨b, hb⟩ := (ih u (record s i a)).mp hrun
        exact ⟨b, u, _, ⟨hu, rfl⟩, hb⟩
      · rintro ⟨b, u, _, ⟨hu, rfl⟩, hb⟩
        exact ⟨u, hu, (ih u _).mpr ⟨b, hb⟩⟩

/-- `run_holds_iff` where which steps are good depends on the record. -/
theorem run_holds_iff_recording {α : Type} {record : σ → ι → α → α} {I : σ → α → Prop}
    {Q : σ → Prop} {Good : σ → ι → α → Prop} (hholds : ∀ s a, I s a → Q s)
    (hgood : ∀ s i a t, I s a → step s i = .ok t → Good s i a → I t (record s i a))
    (hbad : ∀ s i a t, I s a → step s i = .ok t → Q t → Good s i a) {s : σ} {a : α}
    (hs : I s a) (is : List ι) :
    (∀ pre t, pre <+: is → run step s pre = .ok t → Q t) ↔
      ∀ pre i t b u, pre ++ [i] <+: is →
        run (recording step record) (s, a) pre = .ok (t, b) → step t i = .ok u →
        Good t i b := by
  let Good' : σ × α → ι → Prop := fun s i => Good s.1 i s.2
  have hgood' : ∀ (s : σ × α) i t, I s.1 s.2 → recording step record s i = .ok t →
      Good' s i → I t.1 t.2 := by
    intro s i t hI hi hG
    obtain ⟨hstep, hrecord⟩ := recording_eq_ok_iff.mp hi
    exact hrecord ▸ hgood s.1 i s.2 t.1 hI hstep hG
  have hbad' : ∀ (s : σ × α) i t, I s.1 s.2 → recording step record s i = .ok t →
      Q t.1 → Good' s i := by
    intro s i t hI hi hQ
    exact hbad s.1 i s.2 t.1 hI (recording_eq_ok_iff.mp hi).1 hQ
  have hiff := run_holds_iff (I := fun s : σ × α => I s.1 s.2) (Q := fun s => Q s.1)
    (fun s => hholds s.1 s.2) hgood' hbad' (s := (s, a)) hs is
  constructor
  · intro hQ pre i t b u hpre hrun hi
    refine hiff.mp ?_ pre i (t, b) (u, record t i b) hpre hrun
      (recording_eq_ok_iff.mpr ⟨hi, rfl⟩)
    rintro pre ⟨t, b⟩ hpre hrun
    exact hQ pre t hpre ((run_recording_eq_ok_iff s a pre t).mpr ⟨b, hrun⟩)
  · intro hall pre t hpre hrun
    obtain ⟨b, hrun⟩ := (run_recording_eq_ok_iff s a pre t).mp hrun
    refine hiff.mpr ?_ pre (t, b) hpre hrun
    rintro pre i ⟨t, b⟩ u hpre hrun hi
    exact hall pre i t b u.1 hpre hrun (recording_eq_ok_iff.mp hi).1

end StepRun
