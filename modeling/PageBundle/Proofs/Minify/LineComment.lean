import Mathlib.Data.List.TakeWhile
import PageBundle.Proofs.Minify.Fixpoint

/-! What the minifier loses to comments that end with their line. The blanks in front of `/>` are deleted before these
comments are, and with them ends of lines may go. So a `/>` may get into a comment that was open on a line before it,
and a slash in front of it may become the beginning of a comment. Then it is lost, with all that follows it on its
line. Everywhere else the two passes might as well stand in the other order. -/

namespace PageBundle.Minify

open Text Markup

variable {c : Char} {b p s t : List Char} {j k : Bool} {m n : Option Char}

/-! ## Characters that are no blanks -/

def ink (s : List Char) : List Char := s.filter fun c => !isBlank c

theorem ink_cons_of_isBlank (h : isBlank c = true) (s : List Char) : ink (c :: s) = ink s :=
  List.filter_cons_of_neg (by simp [h])

theorem ink_append (s t : List Char) : ink (s ++ t) = ink s ++ ink t := List.filter_append _ _

theorem ink_cons_congr (h : ink s = ink t) : ink (c :: s) = ink (c :: t) := by
  rw [← List.singleton_append, ink_append, h, ← ink_append, List.singleton_append]

theorem ink_eq_nil (h : ∀ c ∈ s, isBlank c = true) : ink s = [] :=
  List.filter_eq_nil_iff.2 fun c hc => by simp [h c hc]

theorem ink_dropWhile (s : List Char) : ink (s.dropWhile isBlank) = ink s := by
  have h : ink (s.takeWhile isBlank) = [] := ink_eq_nil fun c hc => List.mem_takeWhile_imp hc
  conv_rhs => rw [← List.takeWhile_append_dropWhile (p := isBlank) (l := s), ink_append, h, List.nil_append]

theorem ink_reverse (s : List Char) : ink s.reverse = (ink s).reverse := List.filter_reverse

/-- Trimming keeps all that is not blank. -/
theorem ink_trim (s : List Char) : ink (trim s) = ink s := by
  rw [trim, trimEnd, ink_reverse, ink_dropWhile, ink_reverse, List.reverse_reverse, trimStart, ink_dropWhile]

theorem ink_collapseBlanks (s : List Char) : ink (collapseBlanks s) = ink s := by
  induction s with
  | nil => rfl
  | cons c s ih =>
    rw [collapseBlanks_cons]
    split
    · rename_i hc
      rw [ink_cons_of_isBlank hc]
      split
      · exact ih
      · rw [ink_cons_of_isBlank (by decide), ih]
    · exact ink_cons_congr ih

theorem ink_closeGaps (s : List Char) : ink (closeGaps s) = ink s := by
  induction s with
  | nil => rfl
  | cons c s ih =>
    rw [closeGaps_cons]
    split
    · exact ink_cons_congr ((ink_dropWhile _).trans ih)
    · exact ink_cons_congr ih

theorem ink_singleQuotes (s : List Char) : ink (singleQuotes s) = (ink s).map singleQuote := by
  rw [singleQuotes_eq, ink, List.filter_map]
  simp only [Function.comp_def, isBlank_singleQuote]
  rfl

/-- After the last comments have gone nothing is lost. -/
theorem ink_document (s : List Char) : ink (document s) = (ink (withoutComments s)).map singleQuote := by
  rw [document_eq, ink_singleQuotes, ink_trim, ink_closeGaps, ink_collapseBlanks]

/-! ## Open comments -/

/-- Whether a text ends in a comment that ends with its line: no line has ended since a `//`. -/
def EndsInComment (p : List Char) : Prop := ∃ l, '/' :: '/' :: l <:+ p ∧ '\n' ∉ l

/-- The same of a text that begins in such a comment if `k`. -/
def OpenAfter (k : Bool) (p : List Char) : Prop := EndsInComment p ∨ (k = true ∧ '\n' ∉ p)

/-- Whether a character is in a comment, given whether the one before it is, and what comes next. -/
def inComment (k : Bool) (c : Char) (next : Option Char) : Bool := (k && c ≠ '\n') || (c == '/' && next == some '/')

/-- Inside of a comment, or in front of a slash, a character is in a comment all the more. -/
theorem inComment_mono (hk : k = true → j = true) (hn : n = some '/' → m = some '/') (h : inComment k c n = true) :
    inComment j c m = true := by
  simp only [inComment, Bool.or_eq_true, Bool.and_eq_true, beq_iff_eq] at h ⊢
  exact h.imp (And.imp_left hk) (And.imp_right hn)

theorem inComment_of_ne (h : c ≠ '/') : inComment k c n = (k && c ≠ '\n') := by
  rw [inComment, beq_false_of_ne h, Bool.false_and, Bool.or_false]

theorem ne_slash_of_isBlank (h : isBlank c = true) : c ≠ '/' := by
  rintro rfl
  cases h

theorem lineCommentsFrom_cons : lineCommentsFrom k [] (c :: s) =
    (if inComment k c s.head? then [] else [c]) ++ lineCommentsFrom (inComment k c s.head?) [] s := by
  rw [lineCommentsFrom, inComment]
  split
  · rename_i h
    rw [h, Bool.true_or]
    rfl
  · rename_i h
    rw [Bool.not_eq_true] at h
    rw [h, Bool.false_or]
    split
    · rename_i h
      rw [h]
      rfl
    · rename_i h
      rw [Bool.not_eq_true] at h
      rw [lineCommentsFrom_eq, h]
      rfl

theorem endsInComment_cons : EndsInComment (c :: p) ↔ EndsInComment p ∨ (c = '/' ∧ p.head? = some '/' ∧ '\n' ∉ p) := by
  constructor
  · rintro ⟨l, hl, hn⟩
    rcases List.suffix_cons_iff.1 hl with h | h
    · cases h
      refine .inr ⟨rfl, rfl, ?_⟩
      simpa using hn
    · exact .inl ⟨l, h, hn⟩
  · rintro (⟨l, hl, hn⟩ | ⟨rfl, hp, hn⟩)
    · exact ⟨l, hl.trans (List.suffix_cons c p), hn⟩
    · obtain ⟨l, rfl⟩ := List.head?_eq_some_iff.1 hp
      exact ⟨l, List.suffix_refl _, fun h => hn (List.mem_cons_of_mem _ h)⟩

theorem openAfter_cons : OpenAfter k (c :: p) ↔ OpenAfter (inComment k c p.head?) p := by
  rw [OpenAfter, OpenAfter, endsInComment_cons, inComment]
  simp only [List.mem_cons, not_or, Bool.or_eq_true, Bool.and_eq_true, decide_eq_true_eq, beq_iff_eq]
  grind

theorem OpenAfter.mono (h : OpenAfter k p) (hk : k = true → j = true) : OpenAfter j p := h.imp_right (And.imp_left hk)

theorem openAfter_slash : OpenAfter k ['/'] ↔ k = true := by
  rw [openAfter_cons, OpenAfter]
  simp [EndsInComment, inComment]

theorem openAfter_append_slash (hb : ∀ c ∈ b, isBlank c = true) :
    OpenAfter k (b ++ ['/']) ↔ k = true ∧ '\n' ∉ b := by
  induction b generalizing k with
  | nil => simp [openAfter_slash]
  | cons c b ih =>
    obtain ⟨hc, hb⟩ := List.forall_mem_cons.1 hb
    rw [List.cons_append, openAfter_cons, ih hb, inComment_of_ne (ne_slash_of_isBlank hc), List.mem_cons, not_or,
      Bool.and_eq_true, decide_eq_true_eq, ne_comm, and_assoc]

/-- The characters of a text that are neither blanks nor in a comment, if the text begins in one exactly if `k`. -/
def visible (k : Bool) (s : List Char) : List Char := ink (lineCommentsFrom k [] s)

theorem visible_cons (k : Bool) (c : Char) (s : List Char) : visible k (c :: s) =
    (if inComment k c s.head? then [] else ink [c]) ++ visible (inComment k c s.head?) s := by
  rw [visible, lineCommentsFrom_cons, ink_append]
  split <;> rfl

theorem visible_cons_of_isBlank (hc : isBlank c = true) (k : Bool) (s : List Char) :
    visible k (c :: s) = visible (k && c ≠ '\n') s := by
  have hink : ink [c] = [] := ink_eq_nil (List.forall_mem_singleton.2 hc)
  rw [visible_cons, inComment_of_ne (ne_slash_of_isBlank hc), hink, ite_self, List.nil_append]

/-- Blanks neither show nor open a comment. -/
theorem visible_append_of_isBlank (hb : ∀ c ∈ b, isBlank c = true) (s : List Char) :
    visible false (b ++ s) = visible false s := by
  induction b with
  | nil => rfl
  | cons c b ih =>
    obtain ⟨hc, hb⟩ := List.forall_mem_cons.1 hb
    rw [List.cons_append, visible_cons_of_isBlank hc, Bool.false_and, ih hb]

/-! ## Ends of tags that get into a comment -/

theorem prefix_tightenSelfClosing_iff : ['/', '>'] <+: tightenSelfClosing s ↔
    ∃ b q, s = b ++ '/' :: '>' :: q ∧ ∀ c ∈ b, isBlank c = true := by
  constructor
  · intro h
    induction s with
    | nil => cases List.prefix_nil.1 h
    | cons c s ih =>
      rw [tightenSelfClosing_cons] at h
      split at h
      · rename_i hc
        obtain ⟨b, q, rfl, hb⟩ := ih h
        exact ⟨c :: b, q, rfl, List.forall_mem_cons.2 ⟨(Bool.and_eq_true_iff.1 hc).1, hb⟩⟩
      · obtain ⟨rfl, hp⟩ := List.cons_prefix_cons.1 h
        obtain ⟨q, rfl⟩ := prefix_of_prefix_tightenSelfClosing (by decide) hp
        exact ⟨[], q, rfl, List.forall_mem_nil _⟩
  · rintro ⟨b, q, rfl, hb⟩
    rw [tightenSelfClosing_append_closing hb]
    exact ⟨_, rfl⟩

/-- Whether the slash of some `/>` is in no comment with the blanks in front of it, and in one without them, if the text
begins in a comment exactly if `k`. -/
def SwallowsAfter (k : Bool) (s : List Char) : Prop :=
  ∃ p b q, s = p ++ (b ++ '/' :: '>' :: q) ∧ (∀ c ∈ b, isBlank c = true) ∧ OpenAfter k (p ++ ['/']) ∧
    ¬ OpenAfter k (p ++ (b ++ ['/']))

/-- Whether that is so of a `/>` with nothing but blanks in front of it, and it is the character before these that makes
it so: the end of the line of a comment, or a slash. -/
def SwallowsAt (k : Bool) (c : Char) (s : List Char) : Prop :=
  ['/', '>'] <+: tightenSelfClosing s ∧ (k = true ∧ c = '\n' ∨ k = false ∧ c = '/' ∧ s.head? ≠ some '/')

theorem swallowsAfter_of_at (h : SwallowsAt k c s) : SwallowsAfter k (c :: s) := by
  obtain ⟨hp, hc⟩ := h
  obtain ⟨b, q, rfl, hb⟩ := prefix_tightenSelfClosing_iff.1 hp
  rcases hc with ⟨rfl, rfl⟩ | ⟨rfl, rfl, hs⟩
  · have hb' : ∀ c ∈ '\n' :: b, isBlank c = true := List.forall_mem_cons.2 ⟨by decide, hb⟩
    refine ⟨[], '\n' :: b, q, rfl, hb', openAfter_slash.2 rfl, fun ho => ?_⟩
    exact ((openAfter_append_slash hb').1 ho).2 List.mem_cons_self
  · refine ⟨['/'], b, q, rfl, hb, .inl ⟨[], List.suffix_refl _, List.not_mem_nil⟩, fun ho => ?_⟩
    -- The slash and the `/>` do not stand together, so no comment begins there.
    have hhead : (b ++ ['/']).head? ≠ some '/' := by
      rwa [List.head?_append] at hs ⊢
    rw [List.singleton_append, openAfter_cons, inComment, Bool.false_and, Bool.false_or, beq_false_of_ne hhead,
      Bool.and_false, openAfter_append_slash hb] at ho
    cases ho.1

/-- Where a character makes no difference, whether a slash is swallowed is a matter of the text behind it. -/
theorem swallowsAfter_cons (h : ¬ SwallowsAt k c s) :
    SwallowsAfter k (c :: s) ↔ SwallowsAfter (inComment k c s.head?) s := by
  have hhead : ∀ p b q : List Char, (p ++ (b ++ '/' :: '>' :: q)).head? = (p ++ (b ++ ['/'])).head? := by simp
  constructor
  · rintro ⟨p, b, q, hs, hb, ho, hn⟩
    cases p with
    | nil =>
      -- The blanks begin here, so that they go on behind this one, which is no end of a line.
      rcases b with - | ⟨d, b⟩
      · exact absurd ho hn
      obtain ⟨rfl, rfl⟩ := List.cons.inj hs
      obtain ⟨hc, hb⟩ := List.forall_mem_cons.1 hb
      have hk : k = true := openAfter_slash.1 ho
      have hline : c ≠ '\n' := fun hc => h ⟨prefix_tightenSelfClosing_iff.2 ⟨b, q, rfl, hb⟩, .inl ⟨hk, hc⟩⟩
      have hin : inComment k c (b ++ '/' :: '>' :: q).head? = true := by
        rw [inComment_of_ne (ne_slash_of_isBlank hc), hk, Bool.true_and, decide_eq_true hline]
      refine ⟨[], b, q, rfl, hb, openAfter_slash.2 hin, ?_⟩
      rwa [List.nil_append, List.cons_append, openAfter_cons, ← List.nil_append (b ++ ['/']), ← hhead] at hn
    | cons d p =>
      obtain ⟨rfl, rfl⟩ := List.cons.inj hs
      have hin : inComment k c (p ++ ['/']).head? = true →
          inComment k c (p ++ (b ++ '/' :: '>' :: q)).head? = true := by
        cases p with
        | cons e p => exact id
        | nil =>
          intro hin
          by_contra hout
          refine h ⟨prefix_tightenSelfClosing_iff.2 ⟨b, q, rfl, hb⟩, .inr ?_⟩
          simp only [inComment, Bool.or_eq_true, Bool.and_eq_true, beq_iff_eq, decide_eq_true_eq, not_or] at hin hout
          grind
      rw [List.cons_append, openAfter_cons] at ho hn
      rw [← hhead] at hn
      exact ⟨p, b, q, rfl, hb, ho.mono hin, hn⟩
  · rintro ⟨p, b, q, rfl, hb, ho, hn⟩
    have hnext : (p ++ (b ++ '/' :: '>' :: q)).head? = some '/' → (p ++ ['/']).head? = some '/' := by
      cases p with
      | nil => exact fun _ => rfl
      | cons e p => exact id
    refine ⟨c :: p, b, q, rfl, hb, ?_, ?_⟩
    · rw [List.cons_append, openAfter_cons]
      exact ho.mono (inComment_mono id hnext)
    · rwa [List.cons_append, openAfter_cons, ← hhead]

/-! ## What is lost -/

/-- Without the blanks nothing comes to light, be a comment open or not. -/
theorem visible_sublist (h : k = true → j = true) (s : List Char) :
    (visible j (tightenSelfClosing s)).Sublist (visible k s) := by
  induction s generalizing j k with
  | nil => exact List.Sublist.refl _
  | cons c s ih =>
    rw [tightenSelfClosing_cons]
    split
    · rename_i hc
      have hb := (Bool.and_eq_true_iff.1 hc).1
      rw [visible_cons_of_isBlank hb]
      exact ih fun hk => h (Bool.and_eq_true_iff.1 hk).1
    · have hnext : s.head? = some '/' → (tightenSelfClosing s).head? = some '/' := by
        intro hs
        obtain ⟨s, rfl⟩ := List.head?_eq_some_iff.1 hs
        rw [tightenSelfClosing_cons_of_not_isBlank (by decide), List.head?_cons]
      have hin : inComment k c s.head? = true → inComment j c (tightenSelfClosing s).head? = true :=
        inComment_mono h hnext
      rw [visible_cons, visible_cons]
      refine List.Sublist.append ?_ (ih hin)
      split
      · exact List.nil_sublist _
      · rename_i hout
        rw [if_neg fun hk => hout (hin hk)]

/-- What follows the blanks in front of `/>` is lost to an open comment, `/>` and all, if the blanks go. -/
theorem length_visible_lt (h : ['/', '>'] <+: tightenSelfClosing s) :
    (visible true (tightenSelfClosing s)).length < (visible false s).length := by
  obtain ⟨b, q, rfl, hb⟩ := prefix_tightenSelfClosing_iff.1 h
  have hlost : visible true ('/' :: '>' :: tightenSelfClosing q) = visible true (tightenSelfClosing q) := by
    rw [visible_cons, visible_cons]
    rfl
  have hkept : visible false ('/' :: '>' :: q) = '/' :: '>' :: visible false q := by
    rw [visible_cons, visible_cons]
    rfl
  have hle := (visible_sublist (j := true) (k := false) (fun _ => rfl) q).length_le
  rw [tightenSelfClosing_append_closing hb, hlost, visible_append_of_isBlank hb, hkept, List.length_cons,
    List.length_cons]
  omega

/-- Where no `/>` gets into a comment, a character is in one after the blanks go if it was in one before. -/
theorem inComment_head?_tightenSelfClosing (h : ¬ SwallowsAt k c s) :
    inComment k c (tightenSelfClosing s).head? = inComment k c s.head? := by
  rcases head?_tightenSelfClosing s with hs | hp
  · rw [hs]
  · by_cases hc : c = '/'
    · subst hc
      cases k with
      | true => rfl
      | false =>
        have hs : s.head? = some '/' := by
          by_contra hs
          exact h ⟨hp, .inr ⟨rfl, rfl, hs⟩⟩
        obtain ⟨t, ht⟩ := hp
        rw [hs, ← ht]
        rfl
    · rw [inComment_of_ne hc, inComment_of_ne hc]

theorem visible_cons_eq_append (h : ¬ SwallowsAt k c s) : ∃ e,
    visible k (tightenSelfClosing (c :: s)) = e ++ visible (inComment k c s.head?) (tightenSelfClosing s) ∧
      visible k (c :: s) = e ++ visible (inComment k c s.head?) s := by
  cases hc : isBlank c && ['/', '>'].isPrefixOf (tightenSelfClosing s) with
  | true =>
    obtain ⟨hb, hp⟩ := Bool.and_eq_true_iff.1 hc
    have hline : (k && c ≠ '\n') = k := by
      cases k with
      | false => rfl
      | true => exact decide_eq_true fun hn => h ⟨List.isPrefixOf_iff_prefix.1 hp, .inl ⟨rfl, hn⟩⟩
    refine ⟨[], ?_, ?_⟩
    · rw [tightenSelfClosing_cons, if_pos hc, inComment_of_ne (ne_slash_of_isBlank hb), hline, List.nil_append]
    · rw [visible_cons_of_isBlank hb, inComment_of_ne (ne_slash_of_isBlank hb), List.nil_append]
  | false =>
    refine ⟨if inComment k c s.head? then [] else ink [c], ?_, visible_cons k c s⟩
    rw [tightenSelfClosing_cons, hc, if_neg Bool.false_ne_true, visible_cons, inComment_head?_tightenSelfClosing h]

/-- A text loses something to its line comments when the blanks in front of `/>` go exactly if one of these `/>` gets
into a comment. -/
theorem visible_cases (k : Bool) (s : List Char) :
    SwallowsAfter k s ∧ (visible k (tightenSelfClosing s)).length < (visible k s).length ∨
      ¬ SwallowsAfter k s ∧ visible k (tightenSelfClosing s) = visible k s := by
  induction s generalizing k with
  | nil =>
    refine .inr ⟨?_, rfl⟩
    rintro ⟨p, b, q, hs, -⟩
    simp at hs
  | cons c s ih =>
    by_cases hat : SwallowsAt k c s
    · refine .inl ⟨swallowsAfter_of_at hat, ?_⟩
      obtain ⟨hp, hc⟩ := hat
      have hlt := length_visible_lt hp
      rcases hc with ⟨rfl, rfl⟩ | ⟨rfl, rfl, hs⟩
      · have hgo : tightenSelfClosing ('\n' :: s) = tightenSelfClosing s := by
          rw [tightenSelfClosing_cons, List.isPrefixOf_iff_prefix.2 hp]
          exact if_pos (by decide)
        rwa [hgo, visible_cons_of_isBlank (by decide)]
      · have hin : inComment false '/' (tightenSelfClosing s).head? = true := by
          obtain ⟨t, ht⟩ := hp
          rw [← ht]
          rfl
        have hout : inComment false '/' s.head? = false := by
          rw [inComment, beq_false_of_ne hs, Bool.and_false]
          rfl
        rw [tightenSelfClosing_cons_of_not_isBlank (by decide), visible_cons, hin, if_pos rfl, List.nil_append,
          visible_cons, hout, List.length_append]
        exact Nat.lt_add_left _ hlt
    · obtain ⟨e, htight, hgiven⟩ := visible_cons_eq_append hat
      rw [swallowsAfter_cons hat, htight, hgiven, List.length_append, List.length_append, Nat.add_lt_add_iff_left,
        List.append_cancel_left_eq]
      exact ih _

/-- Whether the slash of some `/>` is in no line comment with the blanks in front of it, and in one without them. -/
def SwallowsClosing (s : List Char) : Prop :=
  ∃ p b q, s = p ++ (b ++ '/' :: '>' :: q) ∧ (∀ c ∈ b, isBlank c = true) ∧ EndsInComment (p ++ ['/']) ∧
    ¬ EndsInComment (p ++ (b ++ ['/']))

theorem swallowsAfter_false : SwallowsAfter false s ↔ SwallowsClosing s := by
  simp only [SwallowsAfter, SwallowsClosing, OpenAfter, Bool.false_eq_true, false_and, or_false]

end PageBundle.Minify

namespace PageBundle

open Text Markup Minify

/-- What the minifier should keep of a text: the characters that are no blanks when the comments of markup, then those
over several lines, then those that end with their line are gone. -/
def inkWithoutComments (x : String) : List Char :=
  (ink (eraseLineComments (blockComments.erase (htmlComments.erase x.toList)))).map singleQuote

/-- The minifier keeps all characters that are neither blanks nor in a comment, exactly if no `/>` gets into a line
comment when the blanks in front of it go. It never keeps any others. -/
theorem ink_minify_eq_iff (x : String) :
    (ink (minify x).toList = inkWithoutComments x ↔
        ¬ SwallowsClosing (blockComments.erase (htmlComments.erase x.toList))) ∧
      (ink (minify x).toList).Sublist (inkWithoutComments x) := by
  rw [minify, String.toList_ofList, ink_document, withoutComments, inkWithoutComments, ← swallowsAfter_false]
  generalize blockComments.erase (htmlComments.erase x.toList) = t
  have hsub : (visible false (tightenSelfClosing t)).Sublist (visible false t) := visible_sublist id t
  refine ⟨?_, hsub.map singleQuote⟩
  rcases visible_cases false t with ⟨hs, hlt⟩ | ⟨hs, he⟩
  · refine iff_of_false (fun h => ?_) (not_not_intro hs)
    have hlen := congrArg List.length h
    rw [List.length_map, List.length_map] at hlen
    exact absurd hlen (Nat.ne_of_lt hlt)
  · exact iff_of_true (congrArg (List.map singleQuote) he) hs

/-- A `/>` on the line after a comment gets into the comment. -/
theorem ink_minify_ne_tagAfterComment :
    ink (minify "<img // note\n/>").toList ≠ inkWithoutComments "<img // note\n/>" := by decide +kernel

end PageBundle
