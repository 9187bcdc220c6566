import PageBundle.Proofs.Text.First

/-! Last places in a text. A search that runs to the end and keeps the last hit stops where the last part of a kind begins.
What stands in a stretch of a text stands in the text, and the other way round if it lies in the stretch. -/

namespace PageBundle.Text

variable {α β : Type} {f : List Char → Option β} {P : List Char → Prop} {s b v w : List Char} {x : β} {i j k : Nat}

/-- Whether a position is the last one where a part of a kind begins. -/
structure IsLast (P : List Char → Prop) (s : List Char) (i : Nat) (w : List Char) : Prop where
  stands : StandsAt P s i w
  greatest : ∀ j, i < j → ∀ v, ¬ StandsAt P s j v

/-! ## Stretches -/

theorem StandsAt.extract_eq (h : StandsAt P s i w) : s.extract i (i + w.length) = w := by
  rw [List.extract_eq_take_drop, Nat.add_sub_cancel_left]
  exact (List.prefix_iff_eq_take.1 h.2).symm

theorem StandsAt.add_length_le (h : StandsAt P s i w) (hne : ¬ P []) : i + w.length ≤ s.length := by
  have hpos := List.length_pos_iff.2 fun he => hne (he ▸ h.1)
  have := h.2.length_le
  rw [List.length_drop] at this
  omega

theorem extract_eq_self (h : s.length ≤ k) : s.extract 0 k = s := by
  rw [List.extract_eq_take_drop, List.drop_zero, Nat.sub_zero, List.take_of_length_le h]

theorem extract_append_extract (hik : i ≤ k) (hkj : k ≤ j) : s.extract i k ++ s.extract k j = s.extract i j := by
  have hdrop : s.drop k = (s.drop i).drop (k - i) := by rw [List.drop_drop, Nat.add_sub_cancel' hik]
  have hlen : j - i = (k - i) + (j - k) := by omega
  rw [List.extract_eq_take_drop, List.extract_eq_take_drop, List.extract_eq_take_drop, hdrop, hlen, List.take_add]

theorem drop_extract (i k j : Nat) : (s.extract i k).drop j = (s.drop (i + j)).take (k - (i + j)) := by
  rw [List.extract_eq_take_drop, List.drop_take, List.drop_drop, Nat.sub_sub]

theorem StandsAt.of_extract (h : StandsAt P (s.extract i k) j v) : StandsAt P s (i + j) v := by
  obtain ⟨hp, hpre⟩ := h
  rw [drop_extract] at hpre
  exact ⟨hp, hpre.trans (List.take_prefix _ _)⟩

theorem StandsAt.extract (h : StandsAt P s (i + j) v) (hk : i + j + v.length ≤ k) : StandsAt P (s.extract i k) j v := by
  obtain ⟨hp, hpre⟩ := h
  refine ⟨hp, ?_⟩
  rw [drop_extract]
  exact List.prefix_take_iff.2 ⟨hpre, by omega⟩

theorem exists_isLast (hne : ¬ P []) (h : StandsAt P s i w) : ∃ j v, i ≤ j ∧ IsLast P s j v := by
  induction hn : s.length - i using Nat.strongRecOn generalizing i w with
  | ind n ih =>
    by_cases hj : ∃ j v, i < j ∧ StandsAt P s j v
    · obtain ⟨j, v, hij, hv⟩ := hj
      have := hv.add_length_le hne
      have hpos := List.length_pos_iff.2 fun he => hne (he ▸ hv.1)
      obtain ⟨k, u, hjk, hk⟩ := ih (s.length - j) (by omega) hv rfl
      exact ⟨k, u, by omega, hk⟩
    · exact ⟨i, w, Nat.le_refl i, h, fun j hij v hv => hj ⟨j, v, hij, hv⟩⟩

/-! ## The search for the last hit -/

theorem breakAtLastFrom_eq (f : List Char → Option β) (seen : List Char) (best : Option (List Char × β)) (s : List Char) :
    breakAtLastFrom f seen best s = ((breakAtLast f s).map fun (b, x) => (b.reverse ++ seen, x)).or best := by
  induction s generalizing seen best with
  | nil =>
    rw [breakAtLast, breakAtLastFrom, breakAtLastFrom]
    cases f [] <;> rfl
  | cons c s ih =>
    rw [breakAtLast, breakAtLastFrom, breakAtLastFrom]
    simp only [ih]
    cases breakAtLast f s with
    | some p => simp
    | none => cases f (c :: s) <;> rfl

theorem breakAtLast_nil (f : List Char → Option β) : breakAtLast f [] = (f []).map fun x => ([], x) := by
  rw [breakAtLast, breakAtLastFrom]
  cases f [] <;> rfl

/-- A hit later on comes before one at the start. -/
theorem breakAtLast_cons (f : List Char → Option β) (c : Char) (s : List Char) : breakAtLast f (c :: s) =
    ((breakAtLast f s).map fun (b, x) => (c :: b, x)).or ((f (c :: s)).map fun x => ([], x)) := by
  rw [breakAtLast, breakAtLastFrom]
  simp only [breakAtLastFrom_eq]
  cases breakAtLast f s with
  | some p => simp
  | none => cases f (c :: s) <;> rfl

/-- Nothing is found exactly if the reader accepts no end of the text. -/
theorem breakAtLast_eq_none_iff : breakAtLast f s = none ↔ ∀ j, j ≤ s.length → f (s.drop j) = none := by
  induction s with
  | nil =>
    rw [breakAtLast_nil, Option.map_eq_none_iff]
    exact ⟨fun h j _ => by rw [List.drop_nil, h], fun h => h 0 (Nat.le_refl 0)⟩
  | cons c s ih =>
    rw [breakAtLast_cons, Option.or_eq_none_iff, Option.map_eq_none_iff, Option.map_eq_none_iff, ih]
    constructor
    · rintro ⟨hs, hc⟩ j hj
      cases j with
      | zero => exact hc
      | succ j => exact hs j (Nat.le_of_succ_le_succ hj)
    · intro h
      exact ⟨fun j hj => h (j + 1) (Nat.succ_le_succ hj), h 0 (Nat.zero_le _)⟩

theorem of_breakAtLast (h : breakAtLast f s = some (b, x)) : ∃ i, i ≤ s.length ∧ b = s.take i ∧ f (s.drop i) = some x ∧
    ∀ j, i < j → j ≤ s.length → f (s.drop j) = none := by
  induction s generalizing b with
  | nil =>
    rw [breakAtLast_nil] at h
    obtain ⟨y, hy, he⟩ := Option.map_eq_some_iff.1 h
    cases he
    exact ⟨0, Nat.le_refl 0, rfl, hy, fun j hj hle => absurd hle (Nat.not_le_of_lt hj)⟩
  | cons c s ih =>
    rw [breakAtLast_cons] at h
    rcases Option.or_eq_some_iff.1 h with h | ⟨hnone, h⟩
    · obtain ⟨⟨b', y⟩, hb, he⟩ := Option.map_eq_some_iff.1 h
      cases he
      obtain ⟨i, hi, rfl, hx, hgreatest⟩ := ih hb
      refine ⟨i + 1, Nat.succ_le_succ hi, rfl, hx, fun j hij hj => ?_⟩
      obtain ⟨j, rfl⟩ : ∃ l, j = l + 1 := ⟨j - 1, by omega⟩
      exact hgreatest j (Nat.lt_of_succ_lt_succ hij) (Nat.le_of_succ_le_succ hj)
    · obtain ⟨y, hy, he⟩ := Option.map_eq_some_iff.1 h
      cases he
      have hs := breakAtLast_eq_none_iff.1 (Option.map_eq_none_iff.1 hnone)
      refine ⟨0, Nat.zero_le _, rfl, hy, fun j hij hj => ?_⟩
      obtain ⟨j, rfl⟩ : ∃ l, j = l + 1 := ⟨j - 1, by omega⟩
      exact hs j (Nat.le_of_succ_le_succ hj)

namespace Accepts

variable {f : List Char → Option (Reading α)} {r : Reading α}

/-- What the search from a position on finds is the last part of the kind in the whole text. -/
theorem of_breakAtLast_drop (h : Accepts f P) (hne : ¬ P []) (hb : breakAtLast f (s.drop k) = some (b, r)) :
    ∃ i, k ≤ i ∧ IsLast P s i r.text ∧ b = s.extract k i := by
  obtain ⟨i, -, rfl, hr, hgreatest⟩ := of_breakAtLast hb
  rw [List.drop_drop] at hr
  refine ⟨k + i, Nat.le_add_right k i, ⟨(h.standsAt hr).1, fun j hj v hv => ?_⟩, ?_⟩
  · have hle := hv.add_length_le hne
    have hnone := hgreatest (j - k) (by omega) (by rw [List.length_drop]; omega)
    rw [List.drop_drop, Nat.add_sub_cancel' (by omega)] at hnone
    exact h.eq_none_iff.1 hnone v hv
  · rw [List.extract_eq_take_drop, Nat.add_sub_cancel_left]

/-- The last part of the kind is found by a search from any position in front of it. -/
theorem exists_breakAtLast_drop (h : Accepts f P) (hne : ¬ P []) (hki : k ≤ i) (hi : IsLast P s i w) :
    ∃ r, breakAtLast f (s.drop k) = some (s.extract k i, r) ∧ r.text = w := by
  obtain ⟨v, hv⟩ := h.exists_eq_some hi.stands
  have hle := hi.stands.add_length_le hne
  cases hb : breakAtLast f (s.drop k) with
  | none =>
    have hnone := breakAtLast_eq_none_iff.1 hb (i - k) (by rw [List.length_drop]; omega)
    rw [List.drop_drop, Nat.add_sub_cancel' hki, hv] at hnone
    cases hnone
  | some p =>
    obtain ⟨b, r⟩ := p
    obtain ⟨j, -, rfl, hr, hgreatest⟩ := of_breakAtLast hb
    rw [List.drop_drop] at hr
    rcases Nat.lt_trichotomy i (k + j) with hij | rfl | hji
    · exact absurd (h.standsAt hr).1 (hi.greatest _ hij r.text)
    · rw [hv] at hr
      obtain rfl := Option.some.inj hr
      exact ⟨_, by rw [List.extract_eq_take_drop, Nat.add_sub_cancel_left], rfl⟩
    · have hnone := hgreatest (i - k) (by omega) (by rw [List.length_drop]; omega)
      rw [List.drop_drop, Nat.add_sub_cancel' hki, hv] at hnone
      cases hnone

end Accepts

end PageBundle.Text
