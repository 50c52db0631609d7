import Mathlib.Algebra.Order.Monoid.Defs
import Mathlib.Data.List.Chain
/-!
# What is done when it is due, and who waits for it

A loop checks a clock again and again.  Where more than a period has passed since it last
did its work, it does it and takes the time anew.  If the checks follow each other promptly,
so does the work.

A watchdog is fed by beats that are sent no further than a period apart and take a delay at
most to arrive, in order.  Whoever counts the time since the last one that has arrived never
counts more than a period and a delay, but for a grace on the first.
-/

namespace Pacer

/-- What the clock shows at a check, and when the work would then have been done. -/
structure Check (α : Type) where
  read : α
  done : α
  deriving DecidableEq, Repr

variable {α : Type} [AddCommMonoid α] [LinearOrder α]

def next (period last : α) (check : Check α) : α :=
  if last + period < check.read then check.done else last

def after (period last : α) (checks : List (Check α)) : α := checks.foldl (next period) last

def times (period last : α) : List (Check α) → List α
  | [] => []
  | check :: checks =>
      if last + period < check.read then check.done :: times period check.done checks
      else times period last checks

/-- Each check is over no later than this after the one before has begun. -/
def Prompt (delay : α) (checks : List (Check α)) : Prop :=
  checks.IsChain fun a b => b.done ≤ a.read + delay

variable {period last delay : α} {checks : List (Check α)}

theorem after_append (checks more : List (Check α)) :
    after period last (checks ++ more) = after period (after period last checks) more :=
  List.foldl_append

theorem times_append (last : α) (checks more : List (Check α)) :
    times period last (checks ++ more) =
      times period last checks ++ times period (after period last checks) more := by
  induction checks generalizing last with
  | nil => rfl
  | cons check checks ih =>
      have hafter : after period last (check :: checks) =
          after period (next period last check) checks := rfl
      rw [List.cons_append, times, times, hafter, next]
      split_ifs
      · rw [ih, List.cons_append]
      · exact ih last

theorem after_singleton_of_due {check : Check α} (h : last + period < check.read) :
    after period last [check] = check.done := if_pos h

theorem times_singleton_of_due {check : Check α} (h : last + period < check.read) :
    times period last [check] = [check.done] := if_pos h

theorem after_singleton_of_early {check : Check α} (h : ¬ last + period < check.read) :
    after period last [check] = last := if_neg h

theorem times_singleton_of_early {check : Check α} (h : ¬ last + period < check.read) :
    times period last [check] = [] := if_neg h

theorem Prompt.tail {check : Check α} (h : Prompt delay (check :: checks)) :
    Prompt delay checks := (List.isChain_cons.mp h).2

section

variable [IsOrderedAddMonoid α]

/-- What a check shows cannot be much less than the end of the next one. -/
theorem Prompt.head_le {check : Check α} (h : Prompt delay (check :: checks)) {bound : α}
    (hread : check.read ≤ bound) : ∀ c ∈ checks.head?, c.done ≤ bound + delay := by
  intro c hc
  exact ((List.isChain_cons.mp h).1 c hc).trans (add_le_add_left hread delay)

theorem chain_of_head_le (hperiod : 0 ≤ period) (hclock : ∀ c ∈ checks, c.read ≤ c.done)
    (hprompt : Prompt delay checks) (hhead : ∀ c ∈ checks.head?, c.done ≤ last + period + delay) :
    (last :: times period last checks).IsChain fun a b => b ≤ a + period + delay := by
  induction checks generalizing last with
  | nil => exact List.isChain_singleton last
  | cons check checks ih =>
      have hlater : ∀ c ∈ checks, c.read ≤ c.done := fun c hc => hclock c (by simp [hc])
      rw [times]
      split_ifs with hdue
      · rw [List.isChain_cons_cons]
        refine ⟨hhead check rfl, ih hlater hprompt.tail ?_⟩
        apply hprompt.head_le
        exact (hclock check (by simp)).trans (le_add_of_nonneg_right hperiod)
      · exact ih hlater hprompt.tail (hprompt.head_le (not_lt.mp hdue))

/-- If the checks are prompt, the work is late by no more than the delay, but for its first
time. -/
theorem times_prompt (hperiod : 0 ≤ period) (hclock : ∀ c ∈ checks, c.read ≤ c.done)
    (hprompt : Prompt delay checks) :
    (times period last checks).IsChain fun a b => b ≤ a + period + delay := by
  induction checks generalizing last with
  | nil => exact List.isChain_nil
  | cons check checks ih =>
      have hlater : ∀ c ∈ checks, c.read ≤ c.done := fun c hc => hclock c (by simp [hc])
      rw [times]
      split_ifs
      · apply chain_of_head_le hperiod hlater hprompt.tail
        apply hprompt.head_le
        exact (hclock check (by simp)).trans (le_add_of_nonneg_right hperiod)
      · exact ih hlater hprompt.tail

end

end Pacer

namespace Watchdog

variable {α : Type} [AddCommMonoid α] [LinearOrder α] [IsOrderedAddMonoid α]

/-- The last beat was heard at `heard` and the last sent at `last`; those in `inflight` have
been sent and not heard. -/
structure Fed (grace period heard last : α) (inflight : List α) : Prop where
  idle : inflight = [] → last ≤ heard + grace
  waiting : ∀ sent ∈ inflight.head?, sent ≤ heard + grace + period

variable {grace period delay heard last now : α} {inflight : List α}

theorem Fed.beat (h : Fed grace period heard last inflight) (hnow : now ≤ last + period) :
    Fed grace period heard now (inflight ++ [now]) where
  idle hnil := by
    cases List.append_eq_nil_iff.mp hnil |>.2
  waiting sent hsent := by
    cases inflight with
    | nil =>
        cases hsent
        exact hnow.trans (add_le_add_left (h.idle rfl) period)
    | cons first rest => exact h.waiting sent hsent

/-- Something has been heard now, and whatever has been sent was sent before. -/
theorem Fed.of_heard (hgrace : 0 ≤ grace) (hperiod : 0 ≤ period) (hlast : last ≤ now)
    (hsent : ∀ sent ∈ inflight, sent ≤ now) : Fed grace period now last inflight where
  idle _ := hlast.trans (le_add_of_nonneg_right hgrace)
  waiting sent hhead := by
    have hnow := hsent sent (List.mem_of_mem_head? hhead)
    exact (hnow.trans (le_add_of_nonneg_right hgrace)).trans (le_add_of_nonneg_right hperiod)

theorem Fed.now_le (h : Fed grace period heard last inflight) (hdelay : 0 ≤ delay)
    (hbeat : now ≤ last + period) (harrive : ∀ sent ∈ inflight, now ≤ sent + delay) :
    now ≤ heard + grace + period + delay := by
  cases inflight with
  | nil =>
      have hidle := hbeat.trans (add_le_add_left (h.idle rfl) period)
      exact hidle.trans (le_add_of_nonneg_right hdelay)
  | cons first rest =>
      have hfirst := h.waiting first rfl
      exact (harrive first (by simp)).trans (add_le_add_left hfirst delay)

end Watchdog
