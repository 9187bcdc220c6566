import Mathlib.Data.List.Infix
import PageBundle.Text.Blank

/-! What trimming leaves of a text: a part of it that neither begins nor ends with a blank, and every part that
neither begins nor ends with one. -/

namespace PageBundle.Text

variable {b c : Char} {s t x : List Char} {p : Char → Bool}

theorem not_of_head?_dropWhile (h : (s.dropWhile p).head? = some c) : p c = false := by
  have := List.head?_dropWhile_not p s
  rw [h] at this
  exact this

theorem dropWhile_eq_self (h : ∀ c, s.head? = some c → p c = false) : s.dropWhile p = s := by
  cases s with
  | nil => rfl
  | cons c s => rw [List.dropWhile_cons, h c rfl]; rfl

/-- A run of characters of a kind goes as far as the first character that is not of it. -/
theorem dropWhile_append_eq {l : List Char} (hl : ∀ c ∈ l, p c = true) (hs : ∀ c, s.head? = some c → p c = false) :
    (l ++ s).dropWhile p = s := by
  rw [List.dropWhile_append_of_pos hl, dropWhile_eq_self hs]

theorem takeWhile_append_eq {l : List Char} (hl : ∀ c ∈ l, p c = true) (hs : ∀ c, s.head? = some c → p c = false) :
    (l ++ s).takeWhile p = l := by
  have hstop : s.takeWhile p = [] := by
    cases s with
    | nil => rfl
    | cons c s =>
      rw [List.takeWhile_cons, hs c rfl]
      rfl
  rw [List.takeWhile_append_of_pos hl, hstop, List.append_nil]

theorem suffix_dropWhile (h : t <:+ s) (hc : t.head? = some c) (hp : p c = false) :
    t <:+ s.dropWhile p := by
  induction s with
  | nil =>
    rw [List.suffix_nil.1 h] at hc
    cases hc
  | cons a s ih =>
    rw [List.dropWhile_cons]
    split
    · rename_i ha
      rcases List.suffix_cons_iff.1 h with rfl | h
      · cases hc
        rw [hp] at ha
        cases ha
      · exact ih h
    · exact h

theorem infix_dropWhile (h : x <:+: s) (hc : x.head? = some c) (hp : p c = false) :
    x <:+: s.dropWhile p := by
  obtain ⟨_, ⟨v, rfl⟩, ht⟩ := List.infix_iff_prefix_suffix.1 h
  have hv : (x ++ v).head? = some c := by rw [List.head?_append, hc]; rfl
  exact List.infix_iff_prefix_suffix.2 ⟨_, List.prefix_append x v, suffix_dropWhile ht hv hp⟩

theorem trim_isPrefix (s : List Char) : trim s <+: trimStart s := by
  have := List.reverse_prefix.2 (List.dropWhile_suffix (l := (trimStart s).reverse) isBlank)
  rwa [List.reverse_reverse] at this

theorem trim_isInfix (s : List Char) : trim s <:+: s :=
  (trim_isPrefix s).isInfix.trans (List.dropWhile_suffix _).isInfix

theorem head?_trim (h : (trim s).head? = some c) : isBlank c = false := by
  obtain ⟨v, hv⟩ := trim_isPrefix s
  obtain ⟨t, ht⟩ := List.head?_eq_some_iff.1 h
  exact not_of_head?_dropWhile (s := s) (by rw [← trimStart, ← hv, ht]; rfl)

theorem getLast?_trim (h : (trim s).getLast? = some c) : isBlank c = false := by
  rw [trim, trimEnd, List.getLast?_reverse] at h
  exact not_of_head?_dropWhile h

theorem trim_eq_self (hs : ∀ c, s.head? = some c → isBlank c = false)
    (hl : ∀ c, s.getLast? = some c → isBlank c = false) : trim s = s := by
  rw [trim, trimStart, dropWhile_eq_self hs, trimEnd, dropWhile_eq_self, List.reverse_reverse]
  intro c hc
  exact hl c (by rwa [List.head?_reverse] at hc)

@[simp] theorem trim_trim (s : List Char) : trim (trim s) = trim s :=
  trim_eq_self (fun _ => head?_trim) fun _ => getLast?_trim

/-- What neither begins nor ends with a blank is not trimmed off. -/
theorem isInfix_trim (h : x <:+: s) (hb : x.head? = some b) (hb' : isBlank b = false) (hc : x.getLast? = some c)
    (hc' : isBlank c = false) : x <:+: trim s := by
  have hs : x <:+: trimStart s := infix_dropWhile h hb hb'
  have hr : x.reverse <:+: (trimStart s).reverse.dropWhile isBlank :=
    infix_dropWhile (List.reverse_infix.2 hs) (by rw [List.head?_reverse, hc]) hc'
  have := List.reverse_infix.2 hr
  rwa [List.reverse_reverse] at this

end PageBundle.Text
