import Mathlib.Data.List.Infix
import PageBundle.Proofs.Markup.Comment
import PageBundle.Minify

/-! What each pass of the minifier brings about, what it leaves as it is, and what it does not disturb. The two
passes over blanks in the middle of a text share a shape: they move blanks, and no mark of a comment can
come about or be lost by that. -/

namespace PageBundle.Minify

open Text Markup

variable {b c : Char} {l s t x : List Char}

/-! ## Blanks before the end of a tag -/

/-- Whether no blank stands right before `/>`. -/
def Tight (s : List Char) : Prop := ∀ b, isBlank b = true → ¬ [b, '/', '>'] <:+: s

theorem tightenSelfClosing_cons : tightenSelfClosing (c :: s) =
    if isBlank c && ['/', '>'].isPrefixOf (tightenSelfClosing s) then tightenSelfClosing s
    else c :: tightenSelfClosing s := by
  have hl : "/>".toList = ['/', '>'] := by decide +kernel
  simp only [tightenSelfClosing, List.foldr_cons, hl]

theorem tightenSelfClosing_cons_of_not_isBlank (hc : isBlank c = false) (s : List Char) :
    tightenSelfClosing (c :: s) = c :: tightenSelfClosing s := by
  rw [tightenSelfClosing_cons, hc, Bool.false_and, if_neg Bool.false_ne_true]

/-- What goes at the start of a text goes in front of `/>`. -/
theorem head?_tightenSelfClosing (s : List Char) :
    (tightenSelfClosing s).head? = s.head? ∨ ['/', '>'] <+: tightenSelfClosing s := by
  cases s with
  | nil => exact .inl rfl
  | cons c s =>
    rw [tightenSelfClosing_cons]
    split
    · rename_i hc
      exact .inr (List.isPrefixOf_iff_prefix.1 (Bool.and_eq_true_iff.1 hc).2)
    · exact .inl rfl

/-- What does not begin with a blank begins after the blanks. -/
theorem cons_prefix_append_iff (hc : isBlank c = false) (hl : ∀ d ∈ l, isBlank d = true) :
    c :: x <+: l ++ s ↔ l = [] ∧ c :: x <+: s := by
  cases l with
  | nil => simp
  | cons d l =>
    have hd := hl d List.mem_cons_self
    constructor
    · intro h
      rw [(List.cons_prefix_cons.1 h).1, hd] at hc
      cases hc
    · rintro ⟨h, -⟩
      cases h

theorem tightenSelfClosing_append (hl : ∀ c ∈ l, isBlank c = true) (s : List Char) :
    tightenSelfClosing (l ++ s) =
      (if ['/', '>'] <+: tightenSelfClosing s then [] else l) ++ tightenSelfClosing s := by
  induction l with
  | nil => simp
  | cons c l ih =>
    obtain ⟨hc, hl⟩ := List.forall_mem_cons.1 hl
    have hprefix := cons_prefix_append_iff (c := '/') (x := ['>']) (s := tightenSelfClosing s) (by decide) hl
    rw [List.cons_append, tightenSelfClosing_cons, ih hl, hc]
    by_cases hs : ['/', '>'] <+: tightenSelfClosing s
    · simp [hs]
    · simp [hs, hprefix]

theorem tightenSelfClosing_append_closing (hl : ∀ c ∈ l, isBlank c = true) (s : List Char) :
    tightenSelfClosing (l ++ '/' :: '>' :: s) = '/' :: '>' :: tightenSelfClosing s := by
  have hs : tightenSelfClosing ('/' :: '>' :: s) = '/' :: '>' :: tightenSelfClosing s := by
    rw [tightenSelfClosing_cons_of_not_isBlank (by decide), tightenSelfClosing_cons_of_not_isBlank (by decide)]
  rw [tightenSelfClosing_append hl, hs, if_pos ⟨_, rfl⟩, List.nil_append]

/-- No blank is left before `/>`. -/
theorem tight_tightenSelfClosing (s : List Char) : Tight (tightenSelfClosing s) := by
  intro b hb
  induction s with
  | nil => exact fun h => absurd (List.infix_nil.1 h) (List.cons_ne_nil _ _)
  | cons c s ih =>
    rw [tightenSelfClosing_cons]
    split
    · exact ih
    · rename_i hc
      intro h
      rcases List.infix_cons_iff.1 h with hp | hi
      · obtain ⟨rfl, hr⟩ := List.cons_prefix_cons.1 hp
        exact hc (Bool.and_eq_true_iff.2 ⟨hb, List.isPrefixOf_iff_prefix.2 hr⟩)
      · exact ih hi

theorem tightenSelfClosing_eq_self (h : Tight s) : tightenSelfClosing s = s := by
  induction s with
  | nil => rfl
  | cons c s ih =>
    have hs : Tight s := fun b hb hi => h b hb (List.infix_cons hi)
    rw [tightenSelfClosing_cons, ih hs]
    split
    · rename_i hc
      obtain ⟨hb, hp⟩ := Bool.and_eq_true_iff.1 hc
      have : [c, '/', '>'] <+: c :: s := List.cons_prefix_cons.2 ⟨rfl, List.isPrefixOf_iff_prefix.1 hp⟩
      exact absurd this.isInfix (h c hb)
    · rfl

theorem tightenSelfClosing_sublist (s : List Char) : (tightenSelfClosing s).Sublist s := by
  induction s with
  | nil => exact .slnil
  | cons c s ih =>
    rw [tightenSelfClosing_cons]
    split
    · exact ih.cons c
    · exact ih.cons_cons c

/-- What goes is followed by a slash, so a beginning without one is as it was. -/
theorem prefix_of_prefix_tightenSelfClosing (hx : '/' ∉ x) (h : x <+: tightenSelfClosing s) : x <+: s := by
  induction s generalizing x with
  | nil => exact h
  | cons c s ih =>
    cases x with
    | nil => exact List.nil_prefix
    | cons d x =>
      rw [tightenSelfClosing_cons] at h
      split at h
      · rename_i hc
        obtain ⟨v, hv⟩ := List.isPrefixOf_iff_prefix.1 (Bool.and_eq_true_iff.1 hc).2
        rw [← hv] at h
        rw [(List.cons_prefix_cons.1 h).1] at hx
        exact absurd List.mem_cons_self hx
      · obtain ⟨rfl, hr⟩ := List.cons_prefix_cons.1 h
        exact List.cons_prefix_cons.2 ⟨rfl, ih (fun hm => hx (List.mem_cons_of_mem d hm)) hr⟩

theorem infix_of_infix_tightenSelfClosing (hx : '/' ∉ x.tail) (h : x <:+: tightenSelfClosing s) : x <:+: s := by
  induction s with
  | nil => exact h
  | cons c s ih =>
    rw [tightenSelfClosing_cons] at h
    split at h
    · exact List.infix_cons (ih h)
    · rcases List.infix_cons_iff.1 h with hp | hi
      · cases x with
        | nil => exact List.nil_infix
        | cons d x =>
          obtain ⟨rfl, hr⟩ := List.cons_prefix_cons.1 hp
          exact (List.cons_prefix_cons.2 ⟨rfl, prefix_of_prefix_tightenSelfClosing hx hr⟩).isInfix
      · exact List.infix_cons (ih hi)

/-! ## Comments that end with their line -/

theorem lineCommentsFrom_eq (skipping : Bool) (kept s : List Char) :
    lineCommentsFrom skipping kept s = kept.reverse ++ lineCommentsFrom skipping [] s := by
  induction s generalizing skipping kept with
  | nil => simp [lineCommentsFrom]
  | cons c s ih =>
    simp only [lineCommentsFrom]
    split
    · exact ih true kept
    · split
      · exact ih true kept
      · rw [ih false (c :: kept), ih false [c]]
        simp

theorem lineCommentsFrom_true (s : List Char) :
    lineCommentsFrom true [] s = eraseLineComments (s.dropWhile (· ≠ '\n')) := by
  induction s with
  | nil => rfl
  | cons c s ih =>
    by_cases hc : c = '\n'
    · subst hc
      rfl
    · simp only [lineCommentsFrom, List.dropWhile_cons, hc, ne_eq, not_false_eq_true, decide_true, Bool.and_self,
        if_true]
      exact ih

theorem eraseLineComments_cons : eraseLineComments (c :: s) =
    if c = '/' ∧ s.head? = some '/' then eraseLineComments (s.dropWhile (· ≠ '\n'))
    else c :: eraseLineComments s := by
  rw [eraseLineComments]
  simp only [lineCommentsFrom, Bool.false_and, Bool.false_eq_true, if_false, Bool.and_eq_true, beq_iff_eq]
  split
  · exact lineCommentsFrom_true s
  · rw [lineCommentsFrom_eq]
    rfl

/-- Where a comment was, the text goes on at the end of a line. -/
theorem eraseLineComments_dropWhile_cons (h : eraseLineComments (s.dropWhile (· ≠ '\n')) = c :: t) : c = '\n' := by
  cases hd : s.dropWhile (· ≠ '\n') with
  | nil =>
    rw [hd] at h
    cases h
  | cons d r =>
    have hn : d = '\n' := by
      have := List.head?_dropWhile_not (fun x : Char => decide (x ≠ '\n')) s
      rw [hd] at this
      simpa using this
    rw [hd, hn, eraseLineComments_cons, if_neg (by simp)] at h
    exact (List.cons.inj h).1.symm

theorem eq_cons_of_eraseLineComments (hc : c ≠ '\n') (h : eraseLineComments s = c :: t) :
    ∃ r, s = c :: r ∧ eraseLineComments r = t := by
  cases s with
  | nil => cases h
  | cons d s =>
    rw [eraseLineComments_cons] at h
    split at h
    · exact absurd (eraseLineComments_dropWhile_cons h) hc
    · obtain ⟨rfl, rfl⟩ := List.cons.inj h
      exact ⟨s, rfl, rfl⟩

/-- A character that is kept does not begin a comment, and the text goes on as what follows it is kept. -/
theorem suffix_of_eraseLineComments (h : c :: t <:+ eraseLineComments s) :
    ∃ r, c :: r <:+ s ∧ ¬ (c = '/' ∧ r.head? = some '/') ∧ eraseLineComments r = t := by
  induction hn : s.length using Nat.strongRecOn generalizing s with
  | ind n ih =>
    cases s with
    | nil => exact absurd (List.suffix_nil.1 h) (List.cons_ne_nil _ _)
    | cons d s =>
      rw [List.length_cons] at hn
      rw [eraseLineComments_cons] at h
      split at h
      · have hd : s.dropWhile (· ≠ '\n') <:+ s := List.dropWhile_suffix _
        obtain ⟨r, hr, ht⟩ := ih _ (Nat.lt_of_le_of_lt hd.length_le (by omega)) h rfl
        exact ⟨r, hr.trans (hd.trans (List.suffix_cons d s)), ht⟩
      · rename_i hd
        rcases List.suffix_cons_iff.1 h with h | h
        · obtain ⟨rfl, rfl⟩ := List.cons.inj h
          exact ⟨s, List.suffix_refl _, hd, rfl⟩
        · obtain ⟨r, hr, ht⟩ := ih s.length (by omega) h rfl
          exact ⟨r, hr.trans (List.suffix_cons d s), ht⟩

/-- No line comment is left. -/
theorem not_infix_eraseLineComments (s : List Char) : ¬ ['/', '/'] <:+: eraseLineComments s := by
  intro h
  obtain ⟨_, ⟨v, rfl⟩, hu⟩ := List.infix_iff_prefix_suffix.1 h
  obtain ⟨r, -, hn, hr⟩ := suffix_of_eraseLineComments hu
  obtain ⟨_, rfl, -⟩ := eq_cons_of_eraseLineComments (by decide) hr
  exact hn ⟨rfl, rfl⟩

theorem tight_eraseLineComments (h : Tight s) : Tight (eraseLineComments s) := by
  intro b hb hi
  obtain ⟨_, ⟨v, rfl⟩, hu⟩ := List.infix_iff_prefix_suffix.1 hi
  obtain ⟨_, hr, -, hv⟩ := suffix_of_eraseLineComments hu
  obtain ⟨_, rfl, hw⟩ := eq_cons_of_eraseLineComments (by decide) hv
  obtain ⟨r, rfl, -⟩ := eq_cons_of_eraseLineComments (by decide) hw
  exact h b hb (List.IsInfix.trans ⟨[], r, rfl⟩ hr.isInfix)

theorem eraseLineComments_eq_self (h : ¬ ['/', '/'] <:+: s) : eraseLineComments s = s := by
  induction s with
  | nil => rfl
  | cons c s ih =>
    rw [eraseLineComments_cons, ih fun hi => h (List.infix_cons hi), if_neg]
    rintro ⟨rfl, hs⟩
    obtain ⟨r, rfl⟩ := List.head?_eq_some_iff.1 hs
    exact h ⟨[], r, rfl⟩

theorem eraseLineComments_sublist (s : List Char) : (eraseLineComments s).Sublist s := by
  induction hn : s.length using Nat.strongRecOn generalizing s with
  | ind n ih =>
    cases s with
    | nil => exact .slnil
    | cons c s =>
      rw [List.length_cons] at hn
      rw [eraseLineComments_cons]
      split
      · have hd : s.dropWhile (· ≠ '\n') <:+ s := List.dropWhile_suffix _
        have hle := hd.length_le
        exact ((ih _ (by omega) _ rfl).trans hd.sublist).cons c
      · exact (ih s.length (by omega) s rfl).cons_cons c

end PageBundle.Minify
