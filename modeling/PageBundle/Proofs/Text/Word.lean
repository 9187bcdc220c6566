import Mathlib.Tactic.IntervalCases
import PageBundle.Text.Blank
import PageBundle.Text.Word

/-! No blank is a word character, so a blank ends a name. -/

namespace PageBundle.Text

variable {l : List (Nat × Nat)} {n : Nat} {c : Char}

theorem Table.exists_of_contains {t : Table} (h : t.contains n = true) : ∃ r ∈ t.ranges, r.contains n = true := by
  rw [contains, Option.isSome_iff_exists] at h
  obtain ⟨r, hr⟩ := h
  unfold range? at hr
  split at hr
  · cases hr
  · obtain ⟨hr, hn⟩ := Option.filter_eq_some_iff.1 hr
    exact ⟨r, Array.mem_of_getElem? hr, hn⟩

theorem Table.exists_of_contains_ofSpans (h : (ofSpans l).contains n = true) : ∃ p ∈ l, p.1 ≤ n ∧ n ≤ p.2 := by
  obtain ⟨r, hr, hn⟩ := exists_of_contains h
  simp only [ofSpans, List.mem_toArray, List.mem_map] at hr
  obtain ⟨p, hp, rfl⟩ := hr
  simp only [Range.contains, Bool.and_eq_true, decide_eq_true_eq] at hn
  exact ⟨p, hp, hn.1⟩

def blankSpans : List (Nat × Nat) := [
  (0x85, 0x85), (0xA0, 0xA0), (0x1680, 0x1680), (0x2000, 0x200A), (0x2028, 0x2029), (0x202F, 0x202F), (0x205F, 0x205F),
  (0x3000, 0x3000)]

theorem apart_blankSpans : ∀ p ∈ wordSpans, ∀ q ∈ blankSpans, p.2 < q.1 ∨ q.2 < p.1 := by decide +kernel

theorem exists_blankSpan (h : isBlank c = true) (hc : 128 ≤ c.toNat) :
    ∃ q ∈ blankSpans, q.1 ≤ c.toNat ∧ c.toNat ≤ q.2 := by
  simp only [isBlank, Bool.or_eq_true, Bool.and_eq_true, decide_eq_true_eq, beq_iff_eq] at h
  simp only [blankSpans, List.mem_cons, List.not_mem_nil, or_false, exists_eq_or_imp, exists_eq_left]
  omega

theorem isWord_eq_false (h : isBlank c = true) : isWord c = false := by
  by_cases hc : c.toNat < 128
  · have hn : 9 ≤ c.toNat ∧ c.toNat ≤ 32 := by
      simp only [isBlank, Bool.or_eq_true, Bool.and_eq_true, decide_eq_true_eq, beq_iff_eq] at h
      omega
    have hchar := Char.ofNat_toNat c
    generalize c.toNat = n at hn hchar
    obtain ⟨h9, h32⟩ := hn
    interval_cases n <;> subst hchar <;> decide
  · rw [isWord, if_neg hc, Bool.eq_false_iff]
    intro hw
    obtain ⟨p, hp, hp1, hp2⟩ := Table.exists_of_contains_ofSpans hw
    obtain ⟨q, hq, hq1, hq2⟩ := exists_blankSpan h (Nat.le_of_not_lt hc)
    have := apart_blankSpans p hp q hq
    omega

end PageBundle.Text
