import PageBundle.Markup.Comment
import PageBundle.Proofs.Text.First

/-! What the removal of comments makes of a text. A comment is an opening mark with a closing mark somewhere after it. A
text without one is left as it is. Any other loses all from its first opening mark up to the first closing mark after
that, and then what is behind loses its comments; so it gets shorter. -/

namespace PageBundle.Text

variable {α : Type} {R : Recogniser α} {c : Char} {s t : List Char} {r : Reading α}

namespace Recogniser

@[simp] theorem erase_nil : R.erase [] = [] := by
  rw [erase, pieces_nil]
  rfl

theorem erase_of_read (h : R.read s = some r) : R.erase s = R.erase r.rest := by
  rw [erase, R.pieces_of_read h]
  rfl

theorem erase_cons_of_none (h : R.read (c :: s) = none) : R.erase (c :: s) = c :: R.erase s := by
  rw [erase, R.pieces_cons_of_none h]
  rfl

theorem erase_eq_self (h : ∀ t, t <:+ s → R.read t = none) : R.erase s = s := by
  rw [erase, R.pieces_eq_map_plain h, List.flatMap_map]
  exact List.flatMap_singleton' s

theorem erase_sublist (s : List Char) : (R.erase s).Sublist s := by
  induction hn : s.length using Nat.strongRecOn generalizing s with
  | ind n ih =>
    cases h : R.read s with
    | some r =>
      have hrest : r.rest <:+ s := ⟨r.text, R.append_of_read h⟩
      rw [erase_of_read h]
      exact (ih _ (hn ▸ R.length_rest_lt h) _ rfl).trans hrest.sublist
    | none =>
      cases s with
      | nil => rw [erase_nil]
      | cons c s =>
        rw [List.length_cons] at hn
        rw [erase_cons_of_none h]
        exact (ih s.length (by omega) s rfl).cons_cons c

/-- All before the first place where something is found stays. -/
theorem erase_eq_take_append {i : Nat} (h : ∀ j, j < i → R.read (s.drop j) = none) :
    R.erase s = s.take i ++ R.erase (s.drop i) := by
  induction i generalizing s with
  | zero => rfl
  | succ i ih =>
    cases s with
    | nil => rw [List.take_nil, List.drop_nil, List.nil_append]
    | cons c s =>
      have hs : ∀ j, j < i → R.read (s.drop j) = none := fun j hj => h (j + 1) (Nat.succ_lt_succ hj)
      rw [erase_cons_of_none (h 0 (Nat.succ_pos i)), ih hs]
      rfl

/-- A text in which something can be found gets shorter, even if that overlaps with what is found first. -/
theorem length_erase_lt (ht : t <:+ s) (h : R.read t = some r) : (R.erase s).length < s.length := by
  induction s with
  | nil =>
    rw [List.suffix_nil.1 ht, R.read_nil] at h
    cases h
  | cons c s ih =>
    cases hs : R.read (c :: s) with
    | some r' =>
      have := (erase_sublist (R := R) r'.rest).length_le
      have := R.length_rest_lt hs
      rw [erase_of_read hs]
      omega
    | none =>
      rcases List.suffix_cons_iff.1 ht with rfl | ht
      · rw [hs] at h
        cases h
      · have := ih ht
        rw [erase_cons_of_none hs, List.length_cons, List.length_cons]
        omega

end Recogniser

theorem breakAt_dropLiteral?_isSome {l : List Char} : (breakAt (dropLiteral? l) s).isSome = true ↔ l <:+: s := by
  rw [breakAt_isSome_iff]
  constructor
  · rintro ⟨t, ht, h⟩
    obtain ⟨r, hr⟩ := Option.isSome_iff_exists.1 h
    exact List.IsInfix.trans ⟨[], r, dropLiteral?_eq_some_iff.1 hr⟩ ht.isInfix
  · rintro ⟨b, r, rfl⟩
    refine ⟨l ++ r, ⟨b, (List.append_assoc b l r).symm⟩, ?_⟩
    rw [dropLiteral?_eq_some_iff.2 rfl]
    rfl

end PageBundle.Text

namespace PageBundle.Markup

open Text

variable {opening closing s : List Char}

/-- Whether an opening mark stands in a text and a closing mark somewhere after it. -/
def HasComment (opening closing s : List Char) : Prop := ∃ b, opening ++ (b ++ closing) <:+: s

/-- A comment stands in a text exactly if one is read somewhere in it. -/
theorem hasComment_iff : HasComment opening closing s ↔ ∃ t, t <:+ s ∧ ∃ r, delimited? opening closing t = some r := by
  constructor
  · rintro ⟨b, x, y, rfl⟩
    refine ⟨opening ++ (b ++ closing ++ y), ⟨x, by simp only [List.append_assoc]⟩, ?_⟩
    obtain ⟨⟨body, rest⟩, hb⟩ := Option.isSome_iff_exists.1
      (breakAt_dropLiteral?_isSome.2 (List.infix_append b closing y))
    refine ⟨⟨(), opening ++ body ++ closing, rest⟩, ?_⟩
    simp only [delimited?, dropLiteral?_eq_some_iff.2 rfl, Option.bind_eq_bind, Option.bind_some, hb]
  · rintro ⟨t, ht, r, hr⟩
    have happ := append_of_delimited? hr
    simp only [delimited?, Option.bind_eq_bind, Option.bind_eq_some_iff] at hr
    obtain ⟨inside, -, ⟨body, rest⟩, -, hr⟩ := hr
    cases hr
    refine ⟨body, List.IsInfix.trans ⟨[], rest, ?_⟩ ht.isInfix⟩
    simpa only [List.nil_append, List.append_assoc] using happ

theorem erase_comments_eq_self (hne : opening ≠ []) (h : ¬ HasComment opening closing s) :
    (comments opening closing hne).erase s = s := by
  refine Recogniser.erase_eq_self fun t ht => ?_
  cases hr : (comments opening closing hne).read t with
  | none => rfl
  | some r => exact absurd (hasComment_iff.2 ⟨t, ht, r, hr⟩) h

theorem length_erase_comments_lt (hne : opening ≠ []) (h : HasComment opening closing s) :
    ((comments opening closing hne).erase s).length < s.length := by
  obtain ⟨t, ht, r, hr⟩ := hasComment_iff.1 h
  exact Recogniser.length_erase_lt ht hr

/-! ## Which text is left -/

variable {i j : Nat} {l : List Char}

/-- `Uncommented opening closing s u` says that `u` is `s` without its comments: the one that begins at the first opening
mark and ends with the first closing mark after it is taken out, and then those of the text behind it. -/
inductive Uncommented (opening closing : List Char) : List Char → List Char → Prop
  | keep {s : List Char} (h : ¬ HasComment opening closing s) : Uncommented opening closing s s
  | cut {s u : List Char} {i j : Nat} (first : IsFirst (· = opening) s 0 i opening)
      (last : IsFirst (· = closing) s (i + opening.length) j closing)
      (h : Uncommented opening closing (s.drop (j + closing.length)) u) :
      Uncommented opening closing s (s.take i ++ u)

theorem dropLiteral?_drop (h : StandsAt (· = l) s i l) : dropLiteral? l (s.drop i) = some (s.drop (i + l.length)) := by
  obtain ⟨r, hr⟩ := h.2
  refine dropLiteral?_eq_some_iff.2 ?_
  rw [← List.drop_drop, ← hr, List.drop_left]

theorem dropLiteral?_drop_eq_none (h : ∀ w, ¬ StandsAt (· = l) s i w) : dropLiteral? l (s.drop i) = none := by
  cases hr : dropLiteral? l (s.drop i) with
  | none => rfl
  | some r => exact absurd ⟨rfl, r, dropLiteral?_eq_some_iff.1 hr⟩ (h l)

theorem delimited?_drop (hclosing : closing ≠ []) (first : IsFirst (· = opening) s 0 i opening)
    (last : IsFirst (· = closing) s (i + opening.length) j closing) : delimited? opening closing (s.drop i) =
      some ⟨(), opening ++ s.extract (i + opening.length) j ++ closing, s.drop (j + closing.length)⟩ := by
  have hj : j - (i + opening.length) ≤ (s.drop (i + opening.length)).length := by
    have := last.stands.2.length_le
    have := List.length_pos_iff.2 hclosing
    simp only [List.length_drop] at *
    omega
  have hbody : breakAt (dropLiteral? closing) (s.drop (i + opening.length)) =
      some (s.extract (i + opening.length) j, s.drop (j + closing.length)) := by
    refine breakAt_eq_some_iff_drop.2 ⟨j - (i + opening.length), hj, List.extract_eq_take_drop .., ?_, fun k hk => ?_⟩
    · rw [List.drop_drop, Nat.add_sub_cancel' last.le]
      exact dropLiteral?_drop last.stands
    · rw [List.drop_drop]
      exact dropLiteral?_drop_eq_none (last.least _ (Nat.le_add_right _ k) (by omega))
  rw [delimited?, dropLiteral?_drop first.stands, Option.bind_eq_bind, Option.bind_some, hbody]
  rfl

/-- What is left of a text with a comment is all before the first one, and then what is left of the text behind it. -/
theorem erase_comments_eq_append (hne : opening ≠ []) (hclosing : closing ≠ [])
    (first : IsFirst (· = opening) s 0 i opening) (last : IsFirst (· = closing) s (i + opening.length) j closing) :
    (comments opening closing hne).erase s =
      s.take i ++ (comments opening closing hne).erase (s.drop (j + closing.length)) := by
  have hnone : ∀ k, k < i → (comments opening closing hne).read (s.drop k) = none := by
    intro k hk
    change delimited? opening closing (s.drop k) = none
    rw [delimited?, dropLiteral?_drop_eq_none (first.least k (Nat.zero_le k) hk)]
    rfl
  rw [Recogniser.erase_eq_take_append hnone, Recogniser.erase_of_read (delimited?_drop hclosing first last)]

/-- With any comment there is one that begins at the first opening mark. -/
theorem exists_isFirst_of_hasComment (h : HasComment opening closing s) : ∃ i j,
    IsFirst (· = opening) s 0 i opening ∧ IsFirst (· = closing) s (i + opening.length) j closing := by
  obtain ⟨b, x, y, rfl⟩ := h
  have hopening : StandsAt (· = opening) (x ++ (opening ++ (b ++ closing)) ++ y) x.length opening := by
    refine ⟨rfl, b ++ closing ++ y, ?_⟩
    rw [List.append_assoc x, List.drop_left]
    simp only [List.append_assoc]
  have hclosing : StandsAt (· = closing) (x ++ (opening ++ (b ++ closing)) ++ y) (x ++ opening ++ b).length closing := by
    refine ⟨rfl, y, ?_⟩
    rw [← List.append_assoc opening, ← List.append_assoc x, ← List.append_assoc x, List.append_assoc _ closing,
      List.drop_left]
  obtain ⟨i, w, hi⟩ := exists_isFirst (Nat.zero_le _) hopening
  obtain rfl := hi.stands.1
  have hix : i ≤ x.length := Nat.le_of_not_lt fun hlt => hi.least _ (Nat.zero_le _) hlt _ hopening
  obtain ⟨j, v, hj⟩ := exists_isFirst (k := i + w.length) (by simp only [List.length_append]; omega) hclosing
  obtain rfl := hj.stands.1
  exact ⟨i, j, hi, hj⟩

theorem uncommented_erase (hne : opening ≠ []) (hclosing : closing ≠ []) (s : List Char) :
    Uncommented opening closing s ((comments opening closing hne).erase s) := by
  induction hn : s.length using Nat.strongRecOn generalizing s with
  | ind n ih =>
    by_cases h : HasComment opening closing s
    · obtain ⟨i, j, first, last⟩ := exists_isFirst_of_hasComment h
      have hlt : (s.drop (j + closing.length)).length < n := by
        have := first.stands.2.length_le
        have := last.le
        have := List.length_pos_iff.2 hne
        simp only [List.length_drop] at *
        omega
      rw [erase_comments_eq_append hne hclosing first last]
      exact .cut first last (ih _ hlt _ rfl)
    · rw [erase_comments_eq_self hne h]
      exact .keep h

/-- The removal of comments leaves the text without them, and there is only one. -/
theorem uncommented_iff (hne : opening ≠ []) (hclosing : closing ≠ []) {u : List Char} :
    Uncommented opening closing s u ↔ u = (comments opening closing hne).erase s := by
  constructor
  · intro h
    induction h with
    | keep h => exact (erase_comments_eq_self hne h).symm
    | cut first last _ ih => rw [ih, ← erase_comments_eq_append hne hclosing first last]
  · rintro rfl
    exact uncommented_erase hne hclosing s

/-- A comment ends at the first closing mark, also if another one seems to begin in it. -/
example : Uncommented "/*".toList "*/".toList "a/*b/*c*/d*/e/*".toList "ad*/e/*".toList :=
  (uncommented_iff (by decide) (by decide)).2 (by decide +kernel)

end PageBundle.Markup
