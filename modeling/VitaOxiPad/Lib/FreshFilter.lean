import Mathlib.Data.List.Sort
/-!
# Numbered items over a network that makes none up

A receiver keeps an item exactly when its number is above that of everything it has
kept.  Whatever the network loses, repeats and reorders, the kept numbers increase;
and when the numbers increased as they were sent, the kept items are some of the sent
ones, in the order of their sending.
-/

namespace FreshFilter

variable {α β κ : Type} [LinearOrder κ] {key : α → κ}

/-- What a receiver has kept, and the number it compares with. -/
structure Kept (key : α → κ) (last : κ) (kept : List α) : Prop where
  increasing : kept.Pairwise fun a b => key a < key b
  below : ∀ a ∈ kept, key a ≤ last

theorem Kept.nil (key : α → κ) (last : κ) : Kept key last [] where
  increasing := .nil
  below := by simp

theorem Kept.concat {last : κ} {kept : List α} (h : Kept key last kept) {a : α}
    (ha : last < key a) : Kept key (key a) (kept ++ [a]) where
  increasing := by
    rw [List.pairwise_append]
    refine ⟨h.increasing, List.pairwise_singleton _ _, fun b hb c hc => ?_⟩
    rw [List.mem_singleton.mp hc]
    exact (h.below b hb).trans_lt ha
  below b hb := by
    rw [List.mem_append, List.mem_singleton] at hb
    rcases hb with hb | rfl
    · exact ((h.below b hb).trans_lt ha).le
    · exact le_rfl

/-- An item is not kept because it is there already, if nothing kept is newer: it is the last
one kept.  The receiver compares with the number of that, or with `first` at first. -/
theorem getLast_of_stale {first last : κ} {kept : List α} {a : α}
    (hlast : last = (kept.getLast?.map key).getD first) (hfirst : first < key a)
    (hnewest : ∀ b ∈ kept, key a ≤ key b → b = a) (hstale : key a ≤ last) :
    kept.getLast? = some a := by
  cases hkept : kept.getLast? with
  | none =>
      rw [hkept] at hlast
      rw [hlast] at hstale
      exact absurd hfirst (not_lt.mpr hstale)
  | some b =>
      rw [hkept] at hlast
      rw [hlast] at hstale
      rw [hnewest b (List.mem_of_getLast? hkept) hstale]

theorem eq_or_lt_of_getLast {as : List α} (has : as.Pairwise fun a b => key a < key b) {a : α}
    (ha : as.getLast? = some a) : ∀ b ∈ as, b = a ∨ key b < key a := by
  obtain ⟨init, rfl⟩ := List.getLast?_eq_some_iff.mp ha
  intro b hb
  rw [List.mem_append, List.mem_singleton] at hb
  rw [List.pairwise_append] at has
  rcases hb with hb | rfl
  · exact .inr (has.2.2 b hb a (by simp))
  · exact .inl rfl

theorem exists_forall₂ {R : α → β → Prop} {as : List α} {bs : List β}
    (h : ∀ a ∈ as, ∃ b ∈ bs, R a b) : ∃ cs, List.Forall₂ R as cs ∧ cs ⊆ bs := by
  induction as with
  | nil => exact ⟨[], .nil, List.nil_subset bs⟩
  | cons a as ih =>
      obtain ⟨b, hb, hab⟩ := h a (by simp)
      obtain ⟨cs, hcs, hsub⟩ := ih fun a' ha' => h a' (by simp [ha'])
      exact ⟨b :: cs, .cons hab hcs, List.cons_subset.mpr ⟨hb, hsub⟩⟩

theorem increasing_of_forall₂ {key' : β → κ} {R : α → β → Prop}
    (hkey : ∀ a b, R a b → key a = key' b) {as : List α} {bs : List β}
    (h : List.Forall₂ R as bs) (has : as.Pairwise fun a b => key a < key b) :
    bs.Pairwise fun a b => key' a < key' b := by
  have hmap : as.map key = bs.map key' := by
    induction h with
    | nil => rfl
    | cons hab _ ih =>
        rw [List.map_cons, List.map_cons, hkey _ _ hab, ih (List.Pairwise.of_cons has)]
  rw [← List.pairwise_map, hmap, List.pairwise_map] at has
  exact has

/-- Between two increasing lists, inclusion keeps the order. -/
theorem sublist_of_subset {as bs : List α} (has : as.Pairwise fun a b => key a < key b)
    (hbs : bs.Pairwise fun a b => key a < key b) (hsub : as ⊆ bs) : as.Sublist bs := by
  have hasymm : Std.Antisymm fun a b : α => key a < key b :=
    ⟨fun a b hab hba => absurd hba hab.asymm⟩
  have hnodup : as.Nodup := has.imp fun hab heq => hab.ne (congrArg key heq)
  exact List.sublist_of_subperm_of_pairwise (List.subperm_of_subset hnodup hsub) has hbs

theorem Kept.exists_sublist {last : κ} {kept : List α} (h : Kept key last kept)
    {key' : β → κ} {R : α → β → Prop} (hkey : ∀ a b, R a b → key a = key' b)
    {sent : List β} (hsent : sent.Pairwise fun a b => key' a < key' b)
    (hfrom : ∀ a ∈ kept, ∃ b ∈ sent, R a b) :
    ∃ bs, bs.Sublist sent ∧ List.Forall₂ R kept bs := by
  obtain ⟨bs, hbs, hsub⟩ := exists_forall₂ hfrom
  have hinc := increasing_of_forall₂ hkey hbs h.increasing
  exact ⟨bs, sublist_of_subset hinc hsent hsub, hbs⟩

end FreshFilter
