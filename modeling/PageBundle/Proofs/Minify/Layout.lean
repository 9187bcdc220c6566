import PageBundle.Proofs.Minify.Fixpoint

/-! What the milder minifier makes of a text, all told. A text is a row of characters that are no blanks, each with the
blanks after it. The passes keep the characters and say anew, one after the other, what stands after each of them; a
pass looks at no more than the character before a gap and the two after it. So one rule says what becomes of a gap. -/

namespace PageBundle.Minify

open Text Markup

/-- A character that is no blank, with the blanks after it. -/
structure Glyph where
  char : Char
  gap : List Char
  not_isBlank : isBlank char = false
  isBlank_of_mem : ∀ c ∈ gap, isBlank c = true

namespace Glyph

def text (g : Glyph) : List Char := g.char :: g.gap

/-- What the milder minifier puts between a character and those after it: nothing at the end, in place of nothing,
between two tags and before the end of a tag that closes itself, and one space else. -/
def space (g : Glyph) : List Glyph → List Char
  | [] => []
  | h :: gs =>
    if g.gap = [] ∨ g.char = '>' ∧ h.char = '<' ∨ h.char = '/' ∧ h.gap = [] ∧ gs.head?.map char = some '>' then []
    else [' ']

end Glyph

/-- What stands after each character of a row, which depends on the character and on the row after it. -/
abbrev Gaps := Glyph → List Glyph → List Char

/-- The characters of a row, with such gaps. -/
def typeset (f : Gaps) : List Glyph → List Char
  | [] => []
  | g :: gs => g.char :: (f g gs ++ typeset f gs)

def Gaps.given : Gaps := fun g _ => g.gap

def Gaps.IsBlank (f : Gaps) : Prop := ∀ g gs, ∀ c ∈ f g gs, isBlank c = true

theorem Gaps.isBlank_given : given.IsBlank := fun g _ => g.isBlank_of_mem

variable {b s : List Char} {f : Gaps} {gs : List Glyph}

/-- Every text is a row of characters with the blanks after each, behind the blanks that it begins with. -/
theorem exists_glyphs (s : List Char) : ∃ (lead : List Char) (gs : List Glyph),
    (∀ c ∈ lead, isBlank c = true) ∧ s = lead ++ gs.flatMap Glyph.text := by
  induction s with
  | nil => exact ⟨[], [], List.forall_mem_nil _, rfl⟩
  | cons c s ih =>
    obtain ⟨lead, gs, hlead, rfl⟩ := ih
    cases hc : isBlank c with
    | true => exact ⟨c :: lead, gs, List.forall_mem_cons.2 ⟨hc, hlead⟩, rfl⟩
    | false => exact ⟨[], ⟨c, lead, hc, hlead⟩ :: gs, List.forall_mem_nil _, rfl⟩

theorem flatMap_text (gs : List Glyph) : gs.flatMap Glyph.text = typeset .given gs := by
  induction gs with
  | nil => rfl
  | cons g gs ih =>
    rw [List.flatMap_cons, ih, Glyph.text, List.cons_append]
    rfl

theorem head?_typeset (f : Gaps) (gs : List Glyph) : (typeset f gs).head? = gs.head?.map Glyph.char := by
  cases gs <;> rfl

theorem not_isBlank_head_typeset : ∀ c, (typeset f gs).head? = some c → isBlank c = false := by
  intro c hc
  rw [head?_typeset] at hc
  obtain ⟨g, -, rfl⟩ := Option.map_eq_some_iff.1 hc
  exact g.not_isBlank

theorem typeset_congr {f' : Gaps} (h : ∀ g gs, f g gs = f' g gs) (gs : List Glyph) : typeset f gs = typeset f' gs := by
  rw [funext fun g => funext (h g)]

theorem isBlank_of_mem_ite {p : Prop} [Decidable p] (hb : ∀ c ∈ b, isBlank c = true) :
    ∀ c ∈ (if p then [] else b), isBlank c = true := by
  split
  · exact List.forall_mem_nil _
  · exact hb

/-! ## Runs of blanks -/

/-- What is left of a gap: one space, if it is one. -/
def oneSpace (b : List Char) : List Char := if b = [] then [] else [' ']

theorem isBlank_of_mem_oneSpace : ∀ c ∈ oneSpace b, isBlank c = true :=
  isBlank_of_mem_ite (List.forall_mem_singleton.2 (by decide))

theorem collapseBlanks_append (hb : ∀ c ∈ b, isBlank c = true) (hs : ∀ c, s.head? = some c → isBlank c = false) :
    collapseBlanks (b ++ s) = oneSpace b ++ collapseBlanks s := by
  induction b with
  | nil => rfl
  | cons c b ih =>
    obtain ⟨hc, hb⟩ := List.forall_mem_cons.1 hb
    rw [List.cons_append, collapseBlanks_cons, if_pos hc, ih hb]
    cases b with
    | cons d b => rfl
    | nil =>
      have hhead : (collapseBlanks s).head? ≠ some ' ' := by
        intro h
        cases s with
        | nil => cases h
        | cons d s =>
          have hd := hs d rfl
          rw [(respaces_collapseBlanks.head hd).2 rfl] at h
          cases h
          cases hd
      exact if_neg hhead

/-- The gaps that are left of runs of blanks. -/
def Gaps.collapsed (f : Gaps) : Gaps := fun g gs => oneSpace (f g gs)

theorem Gaps.isBlank_collapsed (f : Gaps) : f.collapsed.IsBlank := fun _ _ => isBlank_of_mem_oneSpace

/-- To collapse blanks is to change the gaps. -/
theorem collapseBlanks_typeset (hf : f.IsBlank) (gs : List Glyph) :
    collapseBlanks (typeset f gs) = typeset f.collapsed gs := by
  induction gs with
  | nil => rfl
  | cons g gs ih =>
    rw [typeset, collapseBlanks_cons, if_neg (by rw [g.not_isBlank]; decide),
      collapseBlanks_append (hf g gs) not_isBlank_head_typeset, ih]
    rfl

/-! ## Gaps between tags -/

theorem closeGaps_append (hb : ∀ c ∈ b, isBlank c = true) (s : List Char) : closeGaps (b ++ s) = b ++ closeGaps s := by
  induction b with
  | nil => rfl
  | cons c b ih =>
    obtain ⟨hc, hb⟩ := List.forall_mem_cons.1 hb
    have hne : c ≠ '>' := by
      rintro rfl
      cases hc
    rw [List.cons_append, closeGaps_cons, if_neg fun h => hne h.1, ih hb, List.cons_append]

def Gaps.closed (f : Gaps) : Gaps := fun g gs =>
  if g.char = '>' ∧ gs.head?.map Glyph.char = some '<' then [] else f g gs

theorem Gaps.IsBlank.closed (hf : f.IsBlank) : f.closed.IsBlank := fun g gs => isBlank_of_mem_ite (hf g gs)

/-- To close gaps between tags is to change the gaps. -/
theorem closeGaps_typeset (hf : f.IsBlank) (gs : List Glyph) : closeGaps (typeset f gs) = typeset f.closed gs := by
  induction gs with
  | nil => rfl
  | cons g gs ih =>
    have hdrop : (f g gs ++ typeset f.closed gs).dropWhile isBlank = typeset f.closed gs :=
      dropWhile_append_eq (hf g gs) not_isBlank_head_typeset
    rw [typeset, closeGaps_cons, closeGaps_append (hf g gs), ih, hdrop, head?_typeset, typeset, Gaps.closed]
    split <;> rfl

/-! ## Blanks before the end of a tag -/

/-- Whether a row begins with the end of a tag that closes itself. -/
def Gaps.Closes (f : Gaps) : List Glyph → Prop
  | h :: k :: gs => h.char = '/' ∧ f h (k :: gs) = [] ∧ k.char = '>'
  | _ => False

theorem Gaps.Closes.head (h : f.Closes gs) : gs.head?.map Glyph.char = some '/' := by
  unfold Gaps.Closes at h
  split at h
  · rw [List.head?_cons, Option.map_some, h.1]
  · exact h.elim

instance : DecidablePred f.Closes := fun gs => by unfold Gaps.Closes; split <;> infer_instance

/-- The gaps that are left when those before the end of a tag that closes itself are closed. -/
def Gaps.tightened (f : Gaps) : Gaps := fun g gs => if f.Closes gs then [] else f g gs

theorem Gaps.IsBlank.tightened (hf : f.IsBlank) : f.tightened.IsBlank := fun g gs => isBlank_of_mem_ite (hf g gs)

theorem prefix_typeset_tightened_iff (hf : f.IsBlank) : ['/', '>'] <+: typeset f.tightened gs ↔ f.Closes gs := by
  match gs with
  | [] => simp [typeset, Gaps.Closes]
  | [h] =>
    rw [typeset, List.cons_prefix_cons, cons_prefix_append_iff (by decide) (hf.tightened h [])]
    simp [typeset, Gaps.Closes]
  | h :: k :: gs =>
    rw [typeset, List.cons_prefix_cons, cons_prefix_append_iff (by decide) (hf.tightened h (k :: gs)), typeset,
      List.cons_prefix_cons]
    -- The end of a tag that closes itself begins with a slash, so the gap before a `>` is not before such an end.
    have hgap : k.char = '>' → f.tightened h (k :: gs) = f h (k :: gs) := by
      intro hk
      refine if_neg fun hc => ?_
      have := hc.head
      rw [List.head?_cons, Option.map_some, hk] at this
      cases this
    constructor
    · rintro ⟨hh, hb, hk, -⟩
      exact ⟨hh.symm, hgap hk.symm ▸ hb, hk.symm⟩
    · rintro ⟨hh, hb, hk⟩
      exact ⟨hh.symm, (hgap hk).trans hb, hk.symm, List.nil_prefix⟩

theorem tightenSelfClosing_typeset (hf : f.IsBlank) (gs : List Glyph) :
    tightenSelfClosing (typeset f gs) = typeset f.tightened gs := by
  induction gs with
  | nil => rfl
  | cons g gs ih =>
    rw [typeset, tightenSelfClosing_cons_of_not_isBlank g.not_isBlank, tightenSelfClosing_append (hf g gs), ih, typeset,
      Gaps.tightened]
    simp only [prefix_typeset_tightened_iff hf]

/-! ## Ends of the text -/

theorem trimEnd_append (h : trimEnd s ≠ []) (x : List Char) : trimEnd (x ++ s) = x ++ trimEnd s := by
  rw [trimEnd, ne_eq, List.reverse_eq_nil_iff] at h
  rw [trimEnd, List.reverse_append, List.dropWhile_append, if_neg (by simpa using h), List.reverse_append,
    List.reverse_reverse, trimEnd]

def Gaps.trimmed (f : Gaps) : Gaps := fun g gs => if gs = [] then [] else f g gs

theorem trimEnd_typeset (hf : f.IsBlank) (gs : List Glyph) : trimEnd (typeset f gs) = typeset f.trimmed gs := by
  induction gs with
  | nil => rfl
  | cons g gs ih =>
    cases gs with
    | nil =>
      have hgap : ∀ c ∈ (f g []).reverse, isBlank c = true := fun c hc => hf g [] c (List.mem_reverse.1 hc)
      have hchar : ∀ c, [g.char].head? = some c → isBlank c = false := by
        rintro c ⟨⟩
        exact g.not_isBlank
      rw [typeset, typeset, List.append_nil, trimEnd, List.reverse_cons, dropWhile_append_eq hgap hchar]
      rfl
    | cons h gs =>
      have hne : trimEnd (typeset f (h :: gs)) ≠ [] := by
        rw [ih]
        exact List.cons_ne_nil _ _
      rw [typeset, ← List.cons_append, trimEnd_append hne, ih]
      rfl

theorem trim_append_typeset (hb : ∀ c ∈ b, isBlank c = true) (hf : f.IsBlank) (gs : List Glyph) :
    trim (b ++ typeset f gs) = typeset f.trimmed gs := by
  rw [trim, trimStart, dropWhile_append_eq hb not_isBlank_head_typeset, trimEnd_typeset hf]

/-! ## All passes -/

theorem oneSpace_eq_nil_iff : oneSpace b = [] ↔ b = [] := by
  cases b <;> simp [oneSpace]

theorem closes_collapsed_closed_iff {h : Glyph} : Gaps.given.collapsed.closed.Closes (h :: gs) ↔
    h.char = '/' ∧ h.gap = [] ∧ gs.head?.map Glyph.char = some '>' := by
  cases gs with
  | nil => simp [Gaps.Closes]
  | cons k gs =>
    rw [Gaps.Closes, List.head?_cons, Option.map_some, Option.some_inj, and_congr_right_iff]
    intro hh
    have hne : h.char ≠ '>' := by
      rw [hh]
      decide
    rw [Gaps.closed, if_neg fun hc => hne hc.1, Gaps.collapsed, oneSpace_eq_nil_iff, Gaps.given]

/-- What the passes make of a gap, one after the other, is what the rule says. -/
theorem space_eq (g : Glyph) (gs : List Glyph) : Gaps.given.collapsed.closed.tightened.trimmed g gs = g.space gs := by
  cases gs with
  | nil => rfl
  | cons h gs =>
    rw [Gaps.trimmed, if_neg (List.cons_ne_nil h gs), Gaps.tightened, Glyph.space]
    simp only [closes_collapsed_closed_iff, Gaps.closed, Gaps.collapsed, Gaps.given, oneSpace, List.head?_cons,
      Option.map_some, Option.some_inj]
    grind

/-- What all passes together make of a row of characters. -/
theorem markup_eq_typeset {lead : List Char} (hlead : ∀ c ∈ lead, isBlank c = true)
    (hs : htmlComments.erase s = lead ++ gs.flatMap Glyph.text) :
    markup s = (typeset Glyph.space gs).map singleQuote := by
  have hcollapsed : Gaps.given.collapsed.IsBlank := Gaps.isBlank_collapsed _
  have hlead' : ∀ c ∈ oneSpace lead, isBlank c = true := isBlank_of_mem_oneSpace
  rw [markup, hs, flatMap_text, collapseBlanks_append hlead not_isBlank_head_typeset,
    collapseBlanks_typeset Gaps.isBlank_given, closeGaps_append hlead', closeGaps_typeset hcollapsed,
    tightenSelfClosing_append hlead', tightenSelfClosing_typeset hcollapsed.closed,
    trim_append_typeset (isBlank_of_mem_ite hlead') hcollapsed.closed.tightened, typeset_congr space_eq]
  rfl

end PageBundle.Minify

namespace PageBundle

open Text Markup Minify

/-- The milder minifier keeps all but comments, blanks and the form of quotes: of the text without its comments it writes
the characters that are no blanks in their order, with nothing before the first and after the last of them, and between
two of them one space unless they stood together, are the marks between two tags, or the second begins the end of a tag
that closes itself. -/
theorem minifyMarkup_eq_typeset (x : String) :
    ∃ u : List Char, (∀ v, Uncommented "<!--".toList "-->".toList x.toList v ↔ v = u) ∧
      ∃ (lead : List Char) (gs : List Glyph), (∀ c ∈ lead, isBlank c = true) ∧ u = lead ++ gs.flatMap Glyph.text ∧
        minifyMarkup x = String.ofList ((typeset Glyph.space gs).map singleQuote) := by
  obtain ⟨lead, gs, hlead, hs⟩ := exists_glyphs (htmlComments.erase x.toList)
  exact ⟨_, fun v => uncommented_iff (by decide) (by decide), lead, gs, hlead, hs,
    congrArg String.ofList (markup_eq_typeset hlead hs)⟩

end PageBundle
