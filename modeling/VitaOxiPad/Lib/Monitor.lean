import Mathlib.Init
/-!
# Monitors of event traces

A monitor reads a trace from left to right, keeps a state, and says of each
event whether that state allows it.  A trace is accepted when every event is
allowed by what came before it.
-/

structure Monitor (σ ε : Type) where
  next : σ → ε → σ
  Allowed : σ → ε → Prop

namespace Monitor

variable {σ ε : Type} (m : Monitor σ ε)

def after (s : σ) (trace : List ε) : σ := trace.foldl m.next s

def Accepts : σ → List ε → Prop
  | _, [] => True
  | s, e :: es => m.Allowed s e ∧ Accepts (m.next s e) es

@[simp] theorem after_nil (s : σ) : m.after s [] = s := rfl

@[simp] theorem after_cons (s : σ) (e : ε) (es : List ε) :
    m.after s (e :: es) = m.after (m.next s e) es := rfl

@[simp] theorem after_append (s : σ) (es fs : List ε) :
    m.after s (es ++ fs) = m.after (m.after s es) fs := List.foldl_append

@[simp] theorem accepts_nil (s : σ) : m.Accepts s [] := trivial

@[simp] theorem accepts_cons (s : σ) (e : ε) (es : List ε) :
    m.Accepts s (e :: es) ↔ m.Allowed s e ∧ m.Accepts (m.next s e) es := Iff.rfl

theorem accepts_append (s : σ) (es fs : List ε) :
    m.Accepts s (es ++ fs) ↔ m.Accepts s es ∧ m.Accepts (m.after s es) fs := by
  induction es generalizing s with
  | nil => simp
  | cons e es ih => simp only [List.cons_append, accepts_cons, ih, after_cons, and_assoc]

/-- Acceptance is a statement about every event and what came before it. -/
theorem accepts_iff (s : σ) (trace : List ε) :
    m.Accepts s trace ↔
      ∀ pre e post, trace = pre ++ e :: post → m.Allowed (m.after s pre) e := by
  constructor
  · rintro h pre e post rfl
    exact ((m.accepts_append s pre _).mp h).2.1
  · intro h
    induction trace generalizing s with
    | nil => trivial
    | cons e es ih =>
        refine ⟨h [] e es rfl, ih _ fun pre e' post heq => ?_⟩
        exact h (e :: pre) e' post (by rw [heq]; rfl)

theorem accepts_of_forall {trace : List ε} (h : ∀ e ∈ trace, ∀ s, m.Allowed s e) (s : σ) :
    m.Accepts s trace := by
  induction trace generalizing s with
  | nil => trivial
  | cons e es ih => exact ⟨h e (by simp) s, ih (fun e' he' => h e' (by simp [he'])) _⟩

/-- The monitor that remembers all it has read. -/
def ofHistory (Allowed : List ε → ε → Prop) : Monitor (List ε) ε where
  next history e := history ++ [e]
  Allowed := Allowed

@[simp] theorem after_ofHistory (Allowed : List ε → ε → Prop) (history trace : List ε) :
    (ofHistory Allowed).after history trace = history ++ trace := by
  induction trace generalizing history with
  | nil => rw [after_nil, List.append_nil]
  | cons e es ih =>
      rw [after_cons, ih]
      exact (List.append_assoc history [e] es).trans rfl

/-- Monitors that allow the same events in related states accept the same traces. -/
theorem accepts_congr {τ : Type} {m : Monitor σ ε} {m' : Monitor τ ε} (R : σ → τ → Prop)
    (hallowed : ∀ s t e, R s t → (m.Allowed s e ↔ m'.Allowed t e))
    (hnext : ∀ s t e, R s t → m.Allowed s e → R (m.next s e) (m'.next t e))
    {s : σ} {t : τ} (h : R s t) (trace : List ε) :
    m.Accepts s trace ↔ m'.Accepts t trace := by
  induction trace generalizing s t with
  | nil => exact Iff.rfl
  | cons e es ih =>
      rw [accepts_cons, accepts_cons, ← hallowed s t e h]
      exact and_congr_right fun hs => ih (hnext s t e h hs)

end Monitor
