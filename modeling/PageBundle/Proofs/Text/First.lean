import Mathlib.Data.List.Infix
import PageBundle.Text.Scan

/-! First places in a text. What stands at a position is said without the readers: a part of a kind begins there. A search
for a reader that accepts exactly the parts of a kind stops at the first position where one begins. -/

namespace PageBundle.Text

variable {α β : Type} {f : List Char → Option β} {P : List Char → Prop} {s b w : List Char} {x : β} {i j k : Nat}

/-- Whether a part of a kind begins at a position of a text. -/
def StandsAt (P : List Char → Prop) (s : List Char) (i : Nat) (w : List Char) : Prop := P w ∧ w <+: s.drop i

/-- Whether a position is the first one, from a given one on, where a part of a kind begins. -/
structure IsFirst (P : List Char → Prop) (s : List Char) (k i : Nat) (w : List Char) : Prop where
  le : k ≤ i
  stands : StandsAt P s i w
  least : ∀ j, k ≤ j → j < i → ∀ v, ¬ StandsAt P s j v

theorem exists_isFirst (hk : k ≤ i) (h : StandsAt P s i w) : ∃ j v, IsFirst P s k j v := by
  induction i using Nat.strongRecOn generalizing w with
  | ind i ih =>
    by_cases hj : ∃ j v, k ≤ j ∧ j < i ∧ StandsAt P s j v
    · obtain ⟨j, v, hkj, hji, hv⟩ := hj
      exact ih j hji hkj hv
    · exact ⟨i, w, hk, h, fun j hkj hji v hv => hj ⟨j, v, hkj, hji, hv⟩⟩

theorem extract_append_drop (h : k ≤ i) : s.extract k i ++ s.drop i = s.drop k := by
  have hi : s.drop i = (s.drop k).drop (i - k) := by rw [List.drop_drop, Nat.add_sub_cancel' h]
  rw [List.extract_eq_take_drop, hi, List.take_append_drop]

/-- What stands in a stretch of a text stands in the text, as far behind the start of the stretch. -/
theorem standsAt_of_infix (hw : P w) (hne : w ≠ []) (h : w <:+: s.extract k j) :
    ∃ i, k ≤ i ∧ i < j ∧ StandsAt P s i w := by
  obtain ⟨x, y, hxy⟩ := h
  rw [List.extract_eq_take_drop] at hxy
  have hlen := congrArg List.length hxy
  have hpos := List.length_pos_iff.2 hne
  have hpre : x ++ (w ++ y) <+: s.drop k := by
    rw [← List.append_assoc, hxy]
    exact List.take_prefix _ _
  obtain ⟨z, hz⟩ := hpre
  refine ⟨k + x.length, Nat.le_add_right k _, ?_, hw, y ++ z, ?_⟩
  · simp only [List.length_append, List.length_take] at hlen
    omega
  · rw [← List.drop_drop, ← hz, List.append_assoc, List.drop_left, List.append_assoc]

/-- A search stops at the first end of the text that the reader accepts. -/
theorem breakAt_eq_some_iff : breakAt f s = some (b, x) ↔
    ∃ r, s = b ++ r ∧ f r = some x ∧ ∀ u v, b = u ++ v → v ≠ [] → f (v ++ r) = none := by
  induction s generalizing b with
  | nil =>
    rw [breakAt_nil]
    constructor
    · intro h
      obtain ⟨y, hy, he⟩ := Option.map_eq_some_iff.1 h
      cases he
      exact ⟨[], rfl, hy, by simp⟩
    · intro h
      obtain ⟨r, hr, hx, -⟩ := h
      obtain ⟨rfl, rfl⟩ := List.append_eq_nil_iff.1 hr.symm
      rw [hx]
      rfl
  | cons c s ih =>
    rw [breakAt_cons]
    cases hc : f (c :: s) with
    | some y =>
      constructor
      · intro h
        cases h
        exact ⟨c :: s, rfl, hc, by simp⟩
      · intro h
        obtain ⟨r, hr, hx, hleast⟩ := h
        cases b with
        | nil =>
          rw [← List.nil_append r, ← hr, hc] at hx
          cases hx
          rfl
        | cons d b =>
          have := hleast [] (d :: b) rfl (List.cons_ne_nil d b)
          rw [← hr, hc] at this
          cases this
    | none =>
      constructor
      · intro h
        obtain ⟨⟨b', y⟩, hb, he⟩ := Option.map_eq_some_iff.1 h
        cases he
        obtain ⟨r, rfl, hx, hleast⟩ := ih.1 hb
        refine ⟨r, rfl, hx, fun u v huv hv => ?_⟩
        cases u with
        | nil =>
          rw [List.nil_append] at huv
          rw [← huv]
          exact hc
        | cons d u => exact hleast u v (List.cons.inj huv).2 hv
      · intro h
        obtain ⟨r, hr, hx, hleast⟩ := h
        cases b with
        | nil =>
          rw [← List.nil_append r, ← hr, hc] at hx
          cases hx
        | cons d b =>
          obtain ⟨rfl, rfl⟩ := List.cons.inj hr
          have hb := ih.2 ⟨r, rfl, hx, fun u v huv hv => hleast (c :: u) v (by rw [huv]; rfl) hv⟩
          rw [hb]
          rfl

/-- The same by positions. -/
theorem breakAt_eq_some_iff_drop : breakAt f s = some (b, x) ↔
    ∃ i, i ≤ s.length ∧ b = s.take i ∧ f (s.drop i) = some x ∧ ∀ j, j < i → f (s.drop j) = none := by
  rw [breakAt_eq_some_iff]
  constructor
  · intro h
    obtain ⟨r, rfl, hx, hleast⟩ := h
    refine ⟨b.length, by simp, by simp, by simpa using hx, fun j hj => ?_⟩
    have := hleast (b.take j) (b.drop j) (List.take_append_drop j b).symm (by simpa using hj)
    rwa [List.drop_append_of_le_length (Nat.le_of_lt hj)]
  · intro h
    obtain ⟨i, hi, rfl, hx, hleast⟩ := h
    refine ⟨s.drop i, (List.take_append_drop i s).symm, hx, fun u v huv hv => ?_⟩
    have hs : s = u ++ (v ++ s.drop i) := by rw [← List.append_assoc, ← huv, List.take_append_drop]
    have hu : u.length < i := by
      have hlen := congrArg List.length huv
      have := List.length_pos_iff.2 hv
      simp only [List.length_take, List.length_append] at hlen
      omega
    have := hleast u.length hu
    rwa [hs, List.drop_left] at this

/-- A search finds something exactly if the reader accepts some end of the text. -/
theorem breakAt_isSome_iff : (breakAt f s).isSome = true ↔ ∃ t, t <:+ s ∧ (f t).isSome = true := by
  constructor
  · intro h
    obtain ⟨⟨b, x⟩, hb⟩ := Option.isSome_iff_exists.1 h
    obtain ⟨r, rfl, hr⟩ := of_breakAt hb
    exact ⟨r, List.suffix_append b r, by rw [hr]; rfl⟩
  · intro h
    obtain ⟨t, ht, hf⟩ := h
    by_contra hnone
    rw [Option.not_isSome_iff_eq_none] at hnone
    obtain ⟨y, hy⟩ := Option.isSome_iff_exists.1 hf
    have hsome : breakAt f t = some ([], y) := breakAt_eq_some_iff.2 ⟨t, rfl, hy, by simp⟩
    rw [breakAt_eq_none_of_suffix hnone ht] at hsome
    cases hsome

/-- Whether a reader accepts a text exactly if it begins with a part of a kind, and reads this part. -/
structure Accepts (f : List Char → Option (Reading α)) (P : List Char → Prop) : Prop where
  sound : ∀ {s r}, f s = some r → P r.text ∧ s = r.text ++ r.rest
  complete : ∀ {w} u, P w → ∃ v, f (w ++ u) = some ⟨v, w, u⟩

namespace Accepts

variable {f : List Char → Option (Reading α)} {Q : List Char → Prop} {r : Reading α}

theorem congr (h : Accepts f P) (hPQ : ∀ w, Q w ↔ P w) : Accepts f Q where
  sound hf := ⟨(hPQ _).2 (h.sound hf).1, (h.sound hf).2⟩
  complete u hw := h.complete u ((hPQ _).1 hw)

theorem eq_none_iff (h : Accepts f P) : f (s.drop i) = none ↔ ∀ w, ¬ StandsAt P s i w := by
  constructor
  · intro hf w hw
    obtain ⟨hp, u, hu⟩ := hw
    obtain ⟨v, hv⟩ := h.complete u hp
    rw [hu, hf] at hv
    cases hv
  · intro hw
    cases hf : f (s.drop i) with
    | none => rfl
    | some r =>
      obtain ⟨hp, hs⟩ := h.sound hf
      exact absurd ⟨hp, r.rest, hs.symm⟩ (hw r.text)

theorem exists_eq_some (h : Accepts f P) (hw : StandsAt P s i w) : ∃ v, f (s.drop i) = some ⟨v, w, s.drop (i + w.length)⟩ := by
  obtain ⟨hp, u, hu⟩ := hw
  obtain ⟨v, hv⟩ := h.complete u hp
  refine ⟨v, ?_⟩
  rw [← List.drop_drop, ← hu, List.drop_left, hv]

theorem standsAt (h : Accepts f P) (hf : f (s.drop i) = some r) : StandsAt P s i r.text ∧ r.rest = s.drop (i + r.text.length) := by
  obtain ⟨hp, hs⟩ := h.sound hf
  refine ⟨⟨hp, r.rest, hs.symm⟩, ?_⟩
  rw [← List.drop_drop, hs, List.drop_left]

/-- What a search from a position on finds is the first part of the kind from there on. -/
theorem of_breakAt_drop (h : Accepts f P) (hb : breakAt f (s.drop k) = some (b, r)) :
    ∃ i, IsFirst P s k i r.text ∧ b = s.extract k i ∧ r.rest = s.drop (i + r.text.length) := by
  obtain ⟨i, -, rfl, hr, hleast⟩ := breakAt_eq_some_iff_drop.1 hb
  rw [List.drop_drop] at hr
  obtain ⟨hstands, hrest⟩ := h.standsAt hr
  refine ⟨k + i, ⟨Nat.le_add_right k i, hstands, fun j hkj hji => ?_⟩, ?_, hrest⟩
  · have := hleast (j - k) (by omega)
    rw [List.drop_drop, Nat.add_sub_cancel' hkj] at this
    exact h.eq_none_iff.1 this
  · rw [List.extract_eq_take_drop, Nat.add_sub_cancel_left]

/-- The first part of the kind from a position on is found by a search from there. -/
theorem exists_breakAt_drop (h : Accepts f P) (hne : ¬ P []) (hi : IsFirst P s k i w) :
    ∃ v, breakAt f (s.drop k) = some (s.extract k i, ⟨v, w, s.drop (i + w.length)⟩) := by
  obtain ⟨v, hv⟩ := h.exists_eq_some hi.stands
  refine ⟨v, breakAt_eq_some_iff_drop.2 ⟨i - k, ?_, ?_, ?_, fun j hj => ?_⟩⟩
  · have hpos := List.length_pos_iff.2 fun he => hne (he ▸ hi.stands.1)
    have := hi.stands.2.length_le
    simp only [List.length_drop] at this ⊢
    omega
  · rw [List.extract_eq_take_drop]
  · rw [List.drop_drop, Nat.add_sub_cancel' hi.le]
    exact hv
  · rw [List.drop_drop]
    exact h.eq_none_iff.2 (hi.least (k + j) (Nat.le_add_right k j) (by omega))

/-- The search for a reader from a position on finds the first place of a part of its kind. -/
theorem breakAt_drop (h : Accepts f P) (hne : ¬ P []) : (∃ r, breakAt f (s.drop k) = some (b, r) ∧ r.text = w) ↔
    ∃ i, IsFirst P s k i w ∧ b = s.extract k i := by
  constructor
  · intro hb
    obtain ⟨r, hb, rfl⟩ := hb
    obtain ⟨i, hi, hbody, -⟩ := h.of_breakAt_drop hb
    exact ⟨i, hi, hbody⟩
  · intro hi
    obtain ⟨i, hi, rfl⟩ := hi
    obtain ⟨v, hv⟩ := h.exists_breakAt_drop hne hi
    exact ⟨_, hv, rfl⟩

end Accepts

end PageBundle.Text
