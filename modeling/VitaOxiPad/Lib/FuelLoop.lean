import Mathlib.Logic.Relation
/-!
# Loops with fuel

A `while` loop is a step function applied until it finishes.  A step either
continues with a new state, finishes with a result, or faults.  `iterate` runs
it on a budget; `run` takes the budget from a measure, and the rules below show
that a loop whose steps shrink that measure is never cut short by it.
-/

namespace FuelLoop

inductive Halt (ε : Type) where
  | fault (e : ε)
  | outOfFuel
  deriving DecidableEq, Repr

section Loop

variable {σ ρ ε : Type} (step : σ → Except ε (σ ⊕ ρ))

def iterate : Nat → σ → Except (Halt ε) ρ
  | 0, _ => .error .outOfFuel
  | fuel + 1, s =>
      match step s with
      | .error e => .error (.fault e)
      | .ok (.inr r) => .ok r
      | .ok (.inl s') => iterate fuel s'

/-- The loop on the budget its measure gives. -/
def run (μ : σ → Nat) (s : σ) : Except (Halt ε) ρ :=
  iterate step (μ s + 1) s

def Decreases (μ : σ → Nat) : Prop :=
  ∀ ⦃s s'⦄, step s = .ok (.inl s') → μ s' < μ s

def Reach : σ → σ → Prop :=
  Relation.ReflTransGen fun s s' => step s = .ok (.inl s')

variable {step} {μ : σ → Nat}

theorem iterate_of_next {s s' : σ} (h : step s = .ok (.inl s')) (fuel : Nat) :
    iterate step (fuel + 1) s = iterate step fuel s' := by
  simp only [iterate, h]

theorem iterate_of_done {s : σ} {r : ρ} (h : step s = .ok (.inr r)) (fuel : Nat) :
    iterate step (fuel + 1) s = .ok r := by
  simp only [iterate, h]

theorem iterate_of_fault {s : σ} {e : ε} (h : step s = .error e) (fuel : Nat) :
    iterate step (fuel + 1) s = .error (.fault e) := by
  simp only [iterate, h]

/-- Any two budgets above the measure agree. -/
theorem iterate_congr (hμ : Decreases step μ) (n : Nat) :
    ∀ (m : Nat) (s : σ), μ s < n → μ s < m → iterate step n s = iterate step m s := by
  induction n with
  | zero => intro m s hn; omega
  | succ n ih =>
      intro m s hn hm
      obtain ⟨m, rfl⟩ : ∃ k, m = k + 1 := ⟨m - 1, by omega⟩
      cases hs : step s with
      | error e => rw [iterate_of_fault hs, iterate_of_fault hs]
      | ok next =>
          cases next with
          | inl s' =>
              have hlt := hμ hs
              rw [iterate_of_next hs, iterate_of_next hs]
              exact ih m s' (by omega) (by omega)
          | inr r => rw [iterate_of_done hs, iterate_of_done hs]

theorem run_of_next (hμ : Decreases step μ) {s s' : σ}
    (h : step s = .ok (.inl s')) : run step μ s = run step μ s' := by
  have hlt := hμ h
  rw [run, iterate_of_next h]
  exact iterate_congr hμ _ _ _ hlt (Nat.lt_succ_self _)

theorem run_of_done {s : σ} {r : ρ} (h : step s = .ok (.inr r)) :
    run step μ s = .ok r :=
  iterate_of_done h _

theorem run_of_fault {s : σ} {e : ε} (h : step s = .error e) :
    run step μ s = .error (.fault e) :=
  iterate_of_fault h _

theorem run_congr_step (hμ : Decreases step μ) {s t : σ} (h : step s = step t) :
    run step μ s = run step μ t := by
  cases ht : step t with
  | error e => rw [run_of_fault (h.trans ht), run_of_fault ht]
  | ok next =>
      cases next with
      | inl u => rw [run_of_next hμ (h.trans ht), run_of_next hμ ht]
      | inr r => rw [run_of_done (h.trans ht), run_of_done ht]

/-- A shrinking loop ends: with a result, or with a step's own fault. -/
theorem run_ne_outOfFuel (hμ : Decreases step μ) (s : σ) :
    run step μ s ≠ .error .outOfFuel := by
  induction hn : μ s using Nat.strongRecOn generalizing s with
  | ind n ih =>
      cases hs : step s with
      | error e => rw [run_of_fault hs]; simp
      | ok next =>
          cases next with
          | inl s' =>
              rw [run_of_next hμ hs]
              exact ih (μ s') (hn ▸ hμ hs) s' rfl
          | inr r => rw [run_of_done hs]; simp

theorem run_eq_of_reach (hμ : Decreases step μ) {s t : σ} (h : Reach step s t) :
    run step μ s = run step μ t := by
  induction h with
  | refl => rfl
  | tail _ hs ih => rw [ih, run_of_next hμ hs]

theorem Reach.invariant {I : σ → Prop}
    (hstep : ∀ s s', I s → step s = .ok (.inl s') → I s')
    {s t : σ} (h : Reach step s t) (hs : I s) : I t := by
  induction h with
  | refl => exact hs
  | tail _ hnext ih => exact hstep _ _ ih hnext

/-- The loop reaches a state where it faults or finishes. -/
theorem exists_end (hμ : Decreases step μ) (s : σ) :
    ∃ t, Reach step s t ∧ ((∃ e, step t = .error e) ∨ ∃ r, step t = .ok (.inr r)) := by
  induction hn : μ s using Nat.strongRecOn generalizing s with
  | ind n ih =>
      cases hs : step s with
      | error e => exact ⟨s, Relation.ReflTransGen.refl, .inl ⟨e, hs⟩⟩
      | ok next =>
          cases next with
          | inl s' =>
              obtain ⟨t, hreach, hend⟩ := ih (μ s') (hn ▸ hμ hs) s' rfl
              exact ⟨t, Relation.ReflTransGen.head hs hreach, hend⟩
          | inr r => exact ⟨s, Relation.ReflTransGen.refl, .inr ⟨r, hs⟩⟩

/-- The loop's result is what the last state it reaches finishes with. -/
theorem run_eq_ok_iff (hμ : Decreases step μ) (s : σ) (r : ρ) :
    run step μ s = .ok r ↔ ∃ t, Reach step s t ∧ step t = .ok (.inr r) := by
  constructor
  · intro h
    obtain ⟨t, hreach, hend⟩ := exists_end hμ s
    rw [run_eq_of_reach hμ hreach] at h
    rcases hend with ⟨e, ht⟩ | ⟨r', ht⟩
    · rw [run_of_fault ht] at h
      cases h
    · rw [run_of_done ht] at h
      cases h
      exact ⟨t, hreach, ht⟩
  · rintro ⟨t, hreach, ht⟩
    rw [run_eq_of_reach hμ hreach, run_of_done ht]

theorem run_eq_fault_iff (hμ : Decreases step μ) (s : σ) (e : ε) :
    run step μ s = .error (.fault e) ↔ ∃ t, Reach step s t ∧ step t = .error e := by
  constructor
  · intro h
    obtain ⟨t, hreach, hend⟩ := exists_end hμ s
    rw [run_eq_of_reach hμ hreach] at h
    rcases hend with ⟨e', ht⟩ | ⟨r, ht⟩
    · rw [run_of_fault ht] at h
      cases h
      exact ⟨t, hreach, ht⟩
    · rw [run_of_done ht] at h
      cases h
  · rintro ⟨t, hreach, ht⟩
    rw [run_eq_of_reach hμ hreach, run_of_fault ht]

end Loop

end FuelLoop
