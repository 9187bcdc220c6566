import Mathlib.Data.List.Basic
import PageBundle.FileSet

/-! Searches in tiers. A list of tests, the best one first, is tried on a whole list of elements test by test, and the first
element that passes is taken. What is found is the least element by the number of its tier, and the first of these by its
place. So an element that is put at the end is found only if it is of a strictly better tier than what was found before. -/

namespace PageBundle.Tiers

variable {α : Type} {t : α → Bool} {tests : List (α → Bool)} {l : List α} {a b c d : α} {k : Nat}

/-- The first element that passes a test, of the first test that any element passes. -/
def first? (tests : List (α → Bool)) (l : List α) : Option α := tests.findSome? fun t => l.find? t

/-- The number of the first test that an element passes, counted from the best one. -/
def tier? (tests : List (α → Bool)) (a : α) : Option Nat := tests.findIdx? fun t => t a

/-- Whether an element is the least one of a list by its tier, and by its place among those of its tier. -/
def IsBest (tests : List (α → Bool)) (l : List α) (c : α) : Prop :=
  ∃ before after k, l = before ++ c :: after ∧ tier? tests c = some k ∧
    (∀ b ∈ before, ∀ j ∈ tier? tests b, k < j) ∧ ∀ b ∈ after, ∀ j ∈ tier? tests b, k ≤ j

/-- Whether an element is of a strictly better tier than the one found, if one was found. -/
def Beats (tests : List (α → Bool)) (a : α) (found : Option α) : Prop :=
  ∃ k ∈ tier? tests a, ∀ c ∈ found, ∃ j ∈ tier? tests c, k < j

instance (tests : List (α → Bool)) (a : α) (found : Option α) : Decidable (Beats tests a found) :=
  inferInstanceAs (Decidable (∃ k ∈ tier? tests a, ∀ c ∈ found, ∃ j ∈ tier? tests c, k < j))

/-! ## What is found -/

theorem tier?_cons_of_pos (h : t a = true) : tier? (t :: tests) a = some 0 := by
  rw [tier?, List.findIdx?_cons, if_pos h]

theorem tier?_cons_of_neg (h : t a = false) : tier? (t :: tests) a = (tier? tests a).map (· + 1) := by
  rw [tier?, List.findIdx?_cons, h, if_neg Bool.false_ne_true, tier?]

theorem first?_cons : first? (t :: tests) l = (l.find? t).or (first? tests l) := by
  rw [first?, List.findSome?_cons]
  cases l.find? t <;> rfl

/-- Nothing is found exactly if no element passes any test. -/
theorem first?_eq_none_iff : first? tests l = none ↔ ∀ a ∈ l, tier? tests a = none := by
  simp only [first?, tier?, List.findSome?_eq_none_iff, List.find?_eq_none, List.findIdx?_eq_none_iff, Bool.not_eq_true]
  exact ⟨fun h a ha t ht => h t ht a ha, fun h t ht a ha => h a ha t ht⟩

theorem isBest_cons_of_find? (h : l.find? t = some c) : IsBest (t :: tests) l c := by
  obtain ⟨hc, before, after, rfl, hb⟩ := List.find?_eq_some_iff_append.1 h
  refine ⟨before, after, 0, rfl, tier?_cons_of_pos hc, fun b hm j hj => ?_, fun b _ j _ => Nat.zero_le j⟩
  rw [tier?_cons_of_neg (by simpa using hb b hm)] at hj
  obtain ⟨i, -, rfl⟩ := Option.map_eq_some_iff.1 hj
  exact Nat.succ_pos i

/-- If any element passes the first test, the best one is the first that does. -/
theorem IsBest.find?_eq (h : IsBest (t :: tests) l c) (ha : a ∈ l) (hpass : t a = true) : l.find? t = some c := by
  obtain ⟨before, after, k, rfl, hc, hb, hafter⟩ := h
  have hzero : 0 ∈ tier? (t :: tests) a := tier?_cons_of_pos hpass
  have hk : k = 0 := by
    rcases List.mem_append.1 ha with ha | ha
    · exact absurd (hb a ha 0 hzero) (Nat.not_lt_zero k)
    · rcases List.mem_cons.1 ha with rfl | ha
      · exact Option.some.inj (hc.symm.trans hzero)
      · exact Nat.le_zero.1 (hafter a ha 0 hzero)
  have fails : ∀ b, (∀ j ∈ tier? (t :: tests) b, 0 < j) → t b = false := by
    intro b hpos
    rw [Bool.eq_false_iff]
    intro hb
    exact Nat.lt_irrefl 0 (hpos 0 (tier?_cons_of_pos hb))
  subst hk
  refine List.find?_eq_some_iff_append.2 ⟨?_, before, after, rfl, fun b hm => ?_⟩
  · by_contra hne
    rw [tier?_cons_of_neg (Bool.eq_false_iff.2 hne)] at hc
    obtain ⟨j, -, hj⟩ := Option.map_eq_some_iff.1 hc
    exact absurd hj (Nat.succ_ne_zero j)
  · rw [fails b (hb b hm)]
    rfl

/-- A test that no element passes has no say. -/
theorem isBest_cons_iff (h : ∀ b ∈ l, t b = false) : IsBest (t :: tests) l c ↔ IsBest tests l c := by
  have htier : ∀ b ∈ l, ∀ j, j + 1 ∈ tier? (t :: tests) b ↔ j ∈ tier? tests b := by
    intro b hb j
    rw [tier?_cons_of_neg (h b hb)]
    simp
  have hpred : ∀ b ∈ l, ∀ j ∈ tier? (t :: tests) b, ∃ i ∈ tier? tests b, j = i + 1 := by
    intro b hb j hj
    rw [tier?_cons_of_neg (h b hb)] at hj
    obtain ⟨i, hi, rfl⟩ := Option.map_eq_some_iff.1 hj
    exact ⟨i, hi, rfl⟩
  constructor
  · rintro ⟨before, after, k, rfl, hc, hb, ha⟩
    obtain ⟨k, hk, rfl⟩ := hpred c (by simp) _ hc
    refine ⟨before, after, k, rfl, hk, fun b hm j hj => ?_, fun b hm j hj => ?_⟩
    · exact Nat.lt_of_succ_lt_succ (hb b hm _ ((htier b (by simp [hm]) j).2 hj))
    · exact Nat.le_of_succ_le_succ (ha b hm _ ((htier b (by simp [hm]) j).2 hj))
  · rintro ⟨before, after, k, rfl, hc, hb, ha⟩
    refine ⟨before, after, k + 1, rfl, (htier c (by simp) k).2 hc, fun b hm j hj => ?_, fun b hm j hj => ?_⟩
    · obtain ⟨i, hi, rfl⟩ := hpred b (by simp [hm]) j hj
      exact Nat.succ_lt_succ (hb b hm i hi)
    · obtain ⟨i, hi, rfl⟩ := hpred b (by simp [hm]) j hj
      exact Nat.succ_le_succ (ha b hm i hi)

/-- What is found is the best element. -/
theorem first?_eq_some_iff : first? tests l = some c ↔ IsBest tests l c := by
  induction tests with
  | nil =>
    constructor
    · intro h
      cases h
    · rintro ⟨_, _, _, _, h, _⟩
      cases h
  | cons t tests ih =>
    rw [first?_cons]
    cases hf : l.find? t with
    | some d =>
      rw [Option.some_or]
      constructor
      · intro h
        obtain rfl := Option.some.inj h
        exact isBest_cons_of_find? hf
      · intro h
        rw [← hf]
        exact h.find?_eq (List.mem_of_find?_eq_some hf) (List.find?_some hf)
    | none =>
      rw [Option.none_or, isBest_cons_iff fun b hb => Bool.eq_false_iff.2 (List.find?_eq_none.1 hf b hb)]
      exact ih

theorem mem_of_first? (h : first? tests l = some c) : c ∈ l ∧ ∃ t ∈ tests, t c = true := by
  obtain ⟨t, ht, hf⟩ := List.exists_of_findSome?_eq_some h
  exact ⟨List.mem_of_find?_eq_some hf, t, ht, List.find?_some hf⟩

/-! ## An element at the end -/

/-- A new element of a better tier is the one that is found. -/
theorem first?_concat_of_beats (h : Beats tests a (first? tests l)) : first? tests (l ++ [a]) = some a := by
  obtain ⟨k, hk, hbeats⟩ := h
  refine first?_eq_some_iff.2 ⟨l, [], k, rfl, hk, fun b hb j hj => ?_, by simp⟩
  cases hf : first? tests l with
  | none =>
    rw [first?_eq_none_iff.1 hf b hb] at hj
    cases hj
  | some c =>
    obtain ⟨i, hi, hki⟩ := hbeats c hf
    obtain ⟨before, after, i', rfl, hc, hbefore, hafter⟩ := first?_eq_some_iff.1 hf
    obtain rfl : i' = i := Option.some.inj (hc.symm.trans hi)
    rcases List.mem_append.1 hb with hb | hb
    · exact Nat.lt_trans hki (hbefore b hb j hj)
    · rcases List.mem_cons.1 hb with rfl | hb
      · obtain rfl : i' = j := Option.some.inj (hc.symm.trans hj)
        exact hki
      · exact Nat.lt_of_lt_of_le hki (hafter b hb j hj)

/-- A new element of no better tier does not show. -/
theorem first?_concat_of_not_beats (h : ¬ Beats tests a (first? tests l)) :
    first? tests (l ++ [a]) = first? tests l := by
  cases hf : first? tests l with
  | none =>
    rw [hf] at h
    refine first?_eq_none_iff.2 fun b hb => ?_
    rcases List.mem_append.1 hb with hb | hb
    · exact first?_eq_none_iff.1 hf b hb
    · rw [List.mem_singleton.1 hb, Option.eq_none_iff_forall_not_mem]
      exact fun k hk => h ⟨k, hk, fun c hc => by cases hc⟩
  | some c =>
    rw [hf] at h
    obtain ⟨before, after, k, rfl, hc, hbefore, hafter⟩ := first?_eq_some_iff.1 hf
    refine first?_eq_some_iff.2 ⟨before, after ++ [a], k, by simp, hc, hbefore, fun b hb j hj => ?_⟩
    rcases List.mem_append.1 hb with hb | hb
    · exact hafter b hb j hj
    · rw [List.mem_singleton.1 hb] at hj
      by_contra hlt
      exact h ⟨j, hj, fun d hd => ⟨k, Option.some.inj hd ▸ hc, Nat.lt_of_not_le hlt⟩⟩

/-- At the end, what is new is found if it is of a strictly better tier than what was found before; else nothing changes. -/
theorem first?_concat_eq_some_iff (ha : a ∉ l) : first? tests (l ++ [a]) = some a ↔ Beats tests a (first? tests l) := by
  constructor
  · intro h
    by_contra hn
    rw [first?_concat_of_not_beats hn] at h
    exact ha (mem_of_first? h).1
  · exact first?_concat_of_beats

end PageBundle.Tiers
