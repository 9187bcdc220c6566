import PageBundle.Proofs.Minify.Pass
import PageBundle.Proofs.Text.Trim

/-! The passes over blanks. Two of them work in the middle of a text and share a shape: they move blanks, and
no mark of a comment comes about or is lost by that. The others trim the text and exchange its quotes. -/

namespace PageBundle.Minify

open Text Markup

variable {b c : Char} {s t x : List Char} {F : List Char → List Char}

/-! ## Passes that move blanks -/

/-- A character that such a pass keeps together with what follows it: neither a blank nor the end of a tag. -/
def Solid (c : Char) : Prop := isBlank c = false ∧ c ≠ '>'

instance (c : Char) : Decidable (Solid c) := inferInstanceAs (Decidable (_ ∧ _))

theorem solid_of_all (h : (x.all fun c => decide (Solid c)) = true) : ∀ c ∈ x, Solid c :=
  fun c hc => of_decide_eq_true (List.all_eq_true.1 h c hc)

/-- A pass that changes nothing but blanks. -/
structure Respaces (F : List Char → List Char) : Prop where
  /-- An end of the new text is what becomes of an end of the old one. -/
  ends : ∀ {s t}, t <:+ F s → ∃ r, r <:+ s ∧ F r = t
  solid : ∀ {c} s, Solid c → F (c :: s) = c :: F s
  head : ∀ {c s}, isBlank c = false → ((F s).head? = some c ↔ s.head? = some c)
  /-- What becomes of an end of the old text is an end of the new one, if it does not begin with a blank. -/
  suffix : ∀ {c r s}, isBlank c = false → (F r).head? = some c → r <:+ s → F r <:+ F s

namespace Respaces

theorem append (hF : Respaces F) (hx : ∀ c ∈ x, Solid c) (s : List Char) : F (x ++ s) = x ++ F s := by
  induction x with
  | nil => rfl
  | cons c x ih =>
    rw [List.cons_append, hF.solid _ (hx c List.mem_cons_self), ih fun d hd => hx d (List.mem_cons_of_mem c hd),
      List.cons_append]

theorem eq_append (hF : Respaces F) (hx : ∀ c ∈ x, Solid c) (h : F s = x ++ t) : ∃ r, s = x ++ r ∧ F r = t := by
  induction x generalizing s with
  | nil => exact ⟨s, rfl, h⟩
  | cons c x ih =>
    have hc := hx c List.mem_cons_self
    have hs : s.head? = some c := (hF.head hc.1).1 (by rw [h]; rfl)
    obtain ⟨s, rfl⟩ := List.head?_eq_some_iff.1 hs
    rw [hF.solid s hc] at h
    obtain ⟨r, rfl, hr⟩ := ih (fun d hd => hx d (List.mem_cons_of_mem c hd)) (List.cons.inj h).2
    exact ⟨r, rfl, hr⟩

theorem prefix_iff (hF : Respaces F) (hx : ∀ c ∈ x, Solid c) (hc : isBlank c = false) :
    x ++ [c] <+: F s ↔ x ++ [c] <+: s := by
  constructor
  · rintro ⟨v, hv⟩
    rw [List.append_assoc] at hv
    obtain ⟨r, rfl, hr⟩ := hF.eq_append hx hv.symm
    obtain ⟨r, rfl⟩ := List.head?_eq_some_iff.1 ((hF.head hc).1 (by rw [hr]; rfl))
    exact ⟨r, List.append_assoc x [c] r⟩
  · rintro ⟨v, rfl⟩
    obtain ⟨u, hu⟩ := List.head?_eq_some_iff.1 ((hF.head (s := c :: v) hc).2 rfl)
    rw [List.append_assoc, List.singleton_append, hF.append hx, hu]
    exact ⟨u, List.append_assoc x [c] u⟩

theorem head_append (hF : Respaces F) (hx : ∀ c ∈ x, Solid c) (hc : isBlank c = false) (h : x ++ [c] <+: s) :
    ∃ d, isBlank d = false ∧ (F s).head? = some d := by
  obtain ⟨v, hv⟩ := (hF.prefix_iff hx hc).2 h
  rw [← hv]
  cases x with
  | nil => exact ⟨c, hc, rfl⟩
  | cons d x => exact ⟨d, (hx d List.mem_cons_self).1, rfl⟩

/-- A word without blanks, and without the end of a tag but for its last character, comes through. -/
theorem infix_iff (hF : Respaces F) (hx : ∀ c ∈ x, Solid c) (hc : isBlank c = false) :
    x ++ [c] <:+: F s ↔ x ++ [c] <:+: s := by
  constructor
  · intro h
    obtain ⟨t, hp, ht⟩ := List.infix_iff_prefix_suffix.1 h
    obtain ⟨r, hr, rfl⟩ := hF.ends ht
    exact ((hF.prefix_iff hx hc).1 hp).isInfix.trans hr.isInfix
  · intro h
    obtain ⟨r, hp, hr⟩ := List.infix_iff_prefix_suffix.1 h
    obtain ⟨d, hd, hh⟩ := hF.head_append hx hc hp
    exact ((hF.prefix_iff hx hc).2 hp).isInfix.trans (hF.suffix hd hh hr).isInfix

/-- No comment comes about and none is lost. -/
theorem hasComment_iff {o : List Char} (hF : Respaces F) (hne : o ≠ []) (ho : ∀ c ∈ o, Solid c)
    (hx : ∀ c ∈ x, Solid c) (hc : isBlank c = false) :
    HasComment o (x ++ [c]) (F s) ↔ HasComment o (x ++ [c]) s := by
  constructor
  · rintro ⟨b, hi⟩
    obtain ⟨_, ⟨v, rfl⟩, ht⟩ := List.infix_iff_prefix_suffix.1 hi
    obtain ⟨r, hr, he⟩ := hF.ends ht
    rw [List.append_assoc] at he
    obtain ⟨q, rfl, hq⟩ := hF.eq_append ho he
    obtain ⟨b', v', rfl⟩ := (hF.infix_iff hx hc).1 (hq ▸ List.infix_append b (x ++ [c]) v)
    refine ⟨b', List.IsInfix.trans ⟨[], v', ?_⟩ hr.isInfix⟩
    simp only [List.nil_append, List.append_assoc]
  · rintro ⟨b, hi⟩
    obtain ⟨_, ⟨v, rfl⟩, ht⟩ := List.infix_iff_prefix_suffix.1 hi
    have he : F (o ++ (b ++ (x ++ [c])) ++ v) = o ++ F (b ++ (x ++ [c]) ++ v) := by
      rw [List.append_assoc, hF.append ho]
    obtain ⟨d, o', rfl⟩ := List.exists_cons_of_ne_nil hne
    have hs := hF.suffix (ho d List.mem_cons_self).1 (by rw [he]; rfl) ht
    obtain ⟨b', v', hv⟩ := (hF.infix_iff hx hc).2 (List.infix_append b (x ++ [c]) v)
    refine ⟨b', List.IsInfix.trans ⟨[], v', ?_⟩ hs.isInfix⟩
    rw [he, ← hv]
    simp only [List.nil_append, List.append_assoc]

end Respaces

/-! ## Runs of blanks -/

theorem collapseBlanks_cons : collapseBlanks (c :: s) =
    if isBlank c then (if (collapseBlanks s).head? = some ' ' then collapseBlanks s else ' ' :: collapseBlanks s)
    else c :: collapseBlanks s := by
  simp only [collapseBlanks, List.foldr_cons, beq_iff_eq]

theorem suffix_collapseBlanks_cons (c : Char) (s : List Char) : collapseBlanks s <:+ collapseBlanks (c :: s) := by
  rw [collapseBlanks_cons]
  split
  · split
    · exact List.suffix_refl _
    · exact List.suffix_cons _ _
  · exact List.suffix_cons _ _

theorem head?_collapseBlanks_cons (hc : isBlank c = true) : (collapseBlanks (c :: s)).head? = some ' ' := by
  rw [collapseBlanks_cons, if_pos hc]
  split
  · assumption
  · rfl

/-- Collapsing blanks changes nothing but blanks. -/
theorem respaces_collapseBlanks : Respaces collapseBlanks where
  ends := by
    intro s t ht
    induction s with
    | nil => exact ⟨[], List.suffix_refl _, (List.suffix_nil.1 ht).symm⟩
    | cons c s ih =>
      -- The text is what becomes of the whole, or an end of what becomes of the rest.
      have hcases : t = collapseBlanks (c :: s) ∨ t <:+ collapseBlanks s := by
        rw [collapseBlanks_cons] at ht ⊢
        split at ht
        · split at ht
          · exact .inr ht
          · rename_i hb hn
            rw [if_pos hb, if_neg hn]
            exact List.suffix_cons_iff.1 ht
        · rename_i hb
          rw [if_neg hb]
          exact List.suffix_cons_iff.1 ht
      rcases hcases with rfl | ht
      · exact ⟨c :: s, List.suffix_refl _, rfl⟩
      · obtain ⟨r, hr, he⟩ := ih ht
        exact ⟨r, hr.trans (List.suffix_cons c s), he⟩
  solid := by
    intro c s hc
    rw [collapseBlanks_cons, hc.1]
    rfl
  head := by
    intro c s hc
    cases s with
    | nil => exact Iff.rfl
    | cons d s =>
      by_cases hd : isBlank d = true
      · rw [head?_collapseBlanks_cons hd]
        constructor
        · intro h
          cases h
          exact absurd hc (by decide)
        · intro h
          cases h
          rw [hd] at hc
          cases hc
      · rw [collapseBlanks_cons, if_neg hd, List.head?_cons, List.head?_cons]
  suffix := by
    intro c r s _ _ hr
    induction s with
    | nil => rw [List.suffix_nil.1 hr]
    | cons d s ih =>
      rcases List.suffix_cons_iff.1 hr with rfl | hr
      · exact List.suffix_refl _
      · exact (ih hr).trans (suffix_collapseBlanks_cons d s)

/-- Whether all blanks are spaces that stand alone. -/
structure Spaced (s : List Char) : Prop where
  blanks : ∀ c ∈ s, isBlank c = true → c = ' '
  runs : ¬ [' ', ' '] <:+: s

/-- All blanks that are left are spaces that stand alone. -/
theorem spaced_collapseBlanks (s : List Char) : Spaced (collapseBlanks s) := by
  induction s with
  | nil => exact ⟨fun c hc => absurd hc List.not_mem_nil, by decide⟩
  | cons c s ih =>
    rw [collapseBlanks_cons]
    split
    · split
      · exact ih
      · rename_i hn
        refine ⟨fun d hd hb => ?_, fun hi => ?_⟩
        · rcases List.mem_cons.1 hd with rfl | hd
          · rfl
          · exact ih.blanks d hd hb
        · rcases List.infix_cons_iff.1 hi with hp | hi
          · obtain ⟨v, hv⟩ := (List.cons_prefix_cons.1 hp).2
            exact hn (by rw [← hv]; rfl)
          · exact ih.runs hi
    · rename_i hc
      refine ⟨fun d hd hb => ?_, fun hi => ?_⟩
      · rcases List.mem_cons.1 hd with rfl | hd
        · exact absurd hb hc
        · exact ih.blanks d hd hb
      · rcases List.infix_cons_iff.1 hi with hp | hi
        · rw [← (List.cons_prefix_cons.1 hp).1] at hc
          exact hc (by decide)
        · exact ih.runs hi

theorem Spaced.of_cons (h : Spaced (c :: s)) : Spaced s :=
  ⟨fun d hd => h.blanks d (List.mem_cons_of_mem c hd), fun hi => h.runs (List.infix_cons hi)⟩

/-- After a blank there is none. -/
theorem Spaced.head_ne (h : Spaced (c :: s)) (hc : isBlank c = true) (hb : s.head? = some b) : isBlank b = false := by
  obtain ⟨r, rfl⟩ := List.head?_eq_some_iff.1 hb
  cases hbb : isBlank b with
  | false => rfl
  | true =>
    have h1 := h.blanks c List.mem_cons_self hc
    have h2 := h.blanks b (List.mem_cons_of_mem c List.mem_cons_self) hbb
    subst h1 h2
    exact absurd ⟨[], r, rfl⟩ h.runs

theorem collapseBlanks_eq_self (h : Spaced s) : collapseBlanks s = s := by
  induction s with
  | nil => rfl
  | cons c s ih =>
    rw [collapseBlanks_cons, ih h.of_cons]
    split
    · rename_i hc
      rw [if_neg, h.blanks c List.mem_cons_self hc]
      intro hs
      exact absurd (h.head_ne hc hs) (by decide)
    · rfl

theorem not_infix_collapseBlanks (h : Tight s) : ¬ [' ', '/', '>'] <:+: collapseBlanks s := by
  induction s with
  | nil => decide
  | cons c s ih =>
    have hs : ¬ [' ', '/', '>'] <:+: collapseBlanks s := ih fun b hb hi => h b hb (List.infix_cons hi)
    rw [collapseBlanks_cons]
    split
    · rename_i hc
      split
      · exact hs
      · intro hi
        rcases List.infix_cons_iff.1 hi with hp | hi
        · have hr : ['/'] ++ ['>'] <+: s :=
            (respaces_collapseBlanks.prefix_iff (solid_of_all (by decide)) (by decide)).1 (List.cons_prefix_cons.1 hp).2
          exact h c hc (List.cons_prefix_cons.2 ⟨rfl, hr⟩).isInfix
        · exact hs hi
    · rename_i hc
      intro hi
      rcases List.infix_cons_iff.1 hi with hp | hi
      · rw [← (List.cons_prefix_cons.1 hp).1] at hc
        exact hc (by decide)
      · exact hs hi

theorem length_collapseBlanks_le (s : List Char) : (collapseBlanks s).length ≤ s.length := by
  induction s with
  | nil => exact Nat.le_refl 0
  | cons c s ih =>
    rw [collapseBlanks_cons]
    split
    · split <;> simp only [List.length_cons] <;> omega
    · simp only [List.length_cons]
      omega

/-! ## Gaps between tags -/

theorem closeGaps_cons : closeGaps (c :: s) =
    c :: if c = '>' ∧ ((closeGaps s).dropWhile isBlank).head? = some '<' then (closeGaps s).dropWhile isBlank
      else closeGaps s := by
  simp only [closeGaps, List.foldr_cons, Bool.and_eq_true, beq_iff_eq]
  split
  · rename_i h
    rw [h.1]
  · rfl

/-- After its first character a text goes on with an end of what becomes of the rest. -/
theorem closeGaps_cons_suffix (c : Char) (s : List Char) :
    ∃ t, closeGaps (c :: s) = c :: t ∧ t <:+ closeGaps s ∧ (c ≠ '>' → t = closeGaps s) := by
  rw [closeGaps_cons]
  refine ⟨_, rfl, ?_, fun hc => if_neg fun h => hc h.1⟩
  split
  · exact List.dropWhile_suffix _
  · exact List.suffix_refl _

theorem respaces_closeGaps : Respaces closeGaps where
  ends := by
    intro s t ht
    induction s with
    | nil => exact ⟨[], List.suffix_refl _, (List.suffix_nil.1 ht).symm⟩
    | cons c s ih =>
      obtain ⟨u, hu, hs, -⟩ := closeGaps_cons_suffix c s
      rw [hu] at ht
      rcases List.suffix_cons_iff.1 ht with rfl | ht
      · exact ⟨c :: s, List.suffix_refl _, hu⟩
      · obtain ⟨r, hr, he⟩ := ih (ht.trans hs)
        exact ⟨r, hr.trans (List.suffix_cons c s), he⟩
  solid := by
    intro c s hc
    obtain ⟨u, hu, -, he⟩ := closeGaps_cons_suffix c s
    rw [hu, he hc.2]
  head := by
    intro c s _
    cases s with
    | nil => exact Iff.rfl
    | cons d s =>
      obtain ⟨u, hu, -⟩ := closeGaps_cons_suffix d s
      rw [hu, List.head?_cons, List.head?_cons]
  suffix := by
    intro c r s hc hh hr
    induction s with
    | nil => rw [List.suffix_nil.1 hr]
    | cons d s ih =>
      rcases List.suffix_cons_iff.1 hr with rfl | hr
      · exact List.suffix_refl _
      · rw [closeGaps_cons]
        split
        · exact (suffix_dropWhile (ih hr) hh hc).trans (List.suffix_cons _ _)
        · exact (ih hr).trans (List.suffix_cons _ _)

theorem prefix_of_prefix_closeGaps (hx : '>' ∉ x.dropLast) (h : x <+: closeGaps s) : x <+: s := by
  induction x generalizing s with
  | nil => exact List.nil_prefix
  | cons e x ih =>
    cases s with
    | nil => exact h
    | cons c s =>
      obtain ⟨u, hu, -, he⟩ := closeGaps_cons_suffix c s
      rw [hu] at h
      obtain ⟨rfl, hr⟩ := List.cons_prefix_cons.1 h
      refine List.cons_prefix_cons.2 ⟨rfl, ?_⟩
      cases x with
      | nil => exact List.nil_prefix
      | cons d x =>
        rw [List.dropLast_cons_cons, List.mem_cons, not_or] at hx
        rw [he (Ne.symm hx.1)] at hr
        exact ih hx.2 hr

theorem infix_of_infix_closeGaps (hx : '>' ∉ x.dropLast) (h : x <:+: closeGaps s) : x <:+: s := by
  obtain ⟨t, hp, ht⟩ := List.infix_iff_prefix_suffix.1 h
  obtain ⟨r, hr, rfl⟩ := respaces_closeGaps.ends ht
  exact (prefix_of_prefix_closeGaps hx hp).isInfix.trans hr.isInfix

theorem mem_of_mem_closeGaps (h : c ∈ closeGaps s) : c ∈ s :=
  (List.singleton_infix_iff c s).1 (infix_of_infix_closeGaps (by simp) ((List.singleton_infix_iff c _).2 h))

theorem spaced_closeGaps (h : Spaced s) : Spaced (closeGaps s) :=
  ⟨fun c hc => h.blanks c (mem_of_mem_closeGaps hc), fun hi => h.runs (infix_of_infix_closeGaps (by decide) hi)⟩

/-- No gap between tags is left. -/
theorem not_infix_closeGaps (s : List Char) : ¬ ['>', ' ', '<'] <:+: closeGaps s := by
  induction s with
  | nil => decide
  | cons c s ih =>
    rw [closeGaps_cons]
    intro hi
    rcases List.infix_cons_iff.1 hi with hp | hi
    · obtain ⟨rfl, v, hv⟩ := List.cons_prefix_cons.1 hp
      split at hv
      · rename_i h
        rw [← hv] at h
        cases h.2
      · rename_i h
        exact h ⟨rfl, by rw [← hv]; rfl⟩
    · split at hi
      · exact ih (hi.trans (List.dropWhile_suffix _).isInfix)
      · exact ih hi

theorem closeGaps_eq_self (h : Spaced s) (hg : ¬ ['>', ' ', '<'] <:+: s) : closeGaps s = s := by
  induction s with
  | nil => rfl
  | cons c s ih =>
    rw [closeGaps_cons, ih h.of_cons fun hi => hg (List.infix_cons hi)]
    split
    · rename_i hc
      obtain ⟨rfl, hd⟩ := hc
      cases s with
      | nil => cases hd
      | cons d s =>
        cases hb : isBlank d with
        | false => rw [List.dropWhile_cons, hb]; rfl
        | true =>
          -- A gap of one space would stand between the two tags.
          have hs := h.of_cons.blanks d List.mem_cons_self hb
          rw [List.dropWhile_cons, if_pos hb] at hd
          have hn : s.dropWhile isBlank = s := by
            cases s with
            | nil => rfl
            | cons e s => rw [List.dropWhile_cons, h.of_cons.head_ne hb rfl]; rfl
          rw [hn] at hd
          obtain ⟨r, rfl⟩ := List.head?_eq_some_iff.1 hd
          rw [hs] at hg
          exact absurd ⟨[], r, rfl⟩ hg
    · rfl

theorem closeGaps_sublist (s : List Char) : (closeGaps s).Sublist s := by
  induction s with
  | nil => exact .slnil
  | cons c s ih =>
    obtain ⟨u, hu, hs, -⟩ := closeGaps_cons_suffix c s
    rw [hu]
    exact (hs.sublist.trans ih).cons_cons c

end PageBundle.Minify
