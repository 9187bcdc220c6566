import PageBundle.Proofs.Markup.Local
import PageBundle.Proofs.Text.Mention

/-! Stretches of a page in which a scan finds nothing, whatever comes after them: text without `<`, tags of another name,
and texts that mention no opening tag and end with a character that none has. -/

namespace PageBundle.Text

variable {name s u w : List Char}

theorem spells_self (h : readName? name name = some (name, [])) : Spells name name := (readName?_eq_some_iff.1 h).1

/-- A text that does not spell a name, as far as it goes, does not when it goes on. -/
theorem readName?_append_eq_none (h : readName? (name.take s.length) s = none) : readName? name (s ++ u) = none := by
  induction name generalizing s with
  | nil =>
    rw [List.take_nil] at h
    cases h
  | cons l name ih =>
    cases s with
    | nil => cases h
    | cons c s =>
      rw [List.length_cons, List.take_succ_cons, readName?] at h
      rw [List.cons_append, readName?]
      split
      · rename_i hc
        rw [if_pos hc, Option.map_eq_none_iff] at h
        rw [ih h]
        rfl
      · rfl

theorem not_mentionsOpening_cons (hlt : '<' ∉ s) (h : readName? name s = none) : ¬ MentionsOpening name ('<' :: s) := by
  rintro ⟨w, hw, hi⟩
  rcases List.infix_cons_iff.1 hi with hp | hi
  · obtain ⟨r, rfl⟩ := (List.cons_prefix_cons.1 hp).2
    rw [readName?_eq_some_iff.2 ⟨hw, rfl⟩] at h
    cases h
  · exact hlt (hi.mem List.mem_cons_self)

namespace Recogniser

variable {α : Type} {R : Recogniser α} {x y : List Char}

/-- Whether all that is found begins with an opening tag of a name. -/
def Opens (R : Recogniser α) (name : List Char) : Prop :=
  ∀ {s r}, R.read s = some r → ∃ w, Spells name w ∧ '<' :: w <+: s

/-- Whether nothing is found in a text, whatever comes after it. -/
def IsPlain (R : Recogniser α) (x : List Char) : Prop := R.Scans x (x.map .plain)

theorem IsPlain.append (hx : R.IsPlain x) (hy : R.IsPlain y) : R.IsPlain (x ++ y) := by
  rw [IsPlain, List.map_append]
  exact Scans.append hx hy

theorem Opens.isPlain (hR : R.Opens name)
    (h : ∀ t, t <:+ x → t ≠ [] → ∀ y w, Spells name w → ¬ '<' :: w <+: t ++ y) : R.IsPlain x := by
  refine scans_plain fun t ht hne y => ?_
  cases hr : R.read (t ++ y) with
  | none => rfl
  | some r =>
    obtain ⟨w, hw, hp⟩ := hR hr
    exact absurd hp (h t ht hne y w hw)

theorem Opens.isPlain_of_notMem (hR : R.Opens name) (h : '<' ∉ x) : R.IsPlain x := by
  refine hR.isPlain fun t ht hne y w _ hp => ?_
  cases t with
  | nil => exact hne rfl
  | cons c t =>
    obtain ⟨rfl, -⟩ := List.cons_prefix_cons.1 hp
    exact h (ht.mem List.mem_cons_self)

theorem Opens.isPlain_of_not_mentionsOpening (hR : R.Opens name) {c : Char} (hc : Parts name c)
    (h : ¬ MentionsOpening name x) : R.IsPlain (x ++ [c]) := by
  refine hR.isPlain fun t ht hne y w hw hp => ?_
  exact h ⟨w, hw, infix_of_prefix_append ht hne hp (hc.notMem ⟨w, hw, .inl rfl⟩)⟩

/-- A tag of another name. -/
theorem Opens.isPlain_tag (hR : R.Opens name) (hgt : Parts name '>') (hlt : '<' ∉ s) (h : readName? name s = none) :
    R.IsPlain ('<' :: (s ++ ['>'])) :=
  hR.isPlain_of_not_mentionsOpening hgt (not_mentionsOpening_cons hlt h)

end Recogniser

end PageBundle.Text

namespace PageBundle.Markup

open Text

variable {e : NameEnd} {name b s x : List Char}

theorem parts_gt (hn : HasNoAngle name) : Parts name '>' := ⟨by decide, by decide, fun l hl => (hn l hl).2⟩

theorem prefix_of_openTag? {o : Reading (List Char)} (h : openTag? e name s = some o) :
    ∃ w, Spells name w ∧ '<' :: w <+: s := by
  obtain ⟨w, hw, -, -, ht, rfl⟩ := openTag?_eq_some_iff.1 h
  refine ⟨w, hw, o.value ++ ['>'] ++ o.rest, ?_⟩
  rw [ht]
  simp

theorem openTags_opens : (openTags e name).Opens name := prefix_of_openTag?

theorem elements_opens : (elements e name).Opens name := by
  intro s r h
  obtain ⟨o, c, ho, -⟩ := element?_eq_some_iff.1 h
  exact prefix_of_openTag? ho

/-! ## Tags as they are written -/

def opening (name attrs : List Char) : List Char := '<' :: (name ++ attrs ++ ['>'])

def closing (name : List Char) : List Char := '<' :: ('/' :: name ++ ['>'])

theorem openTag?_opening {attrs : List Char} (hname : Spells name name) (hgt : '>' ∉ attrs)
    (he : e.holds (attrs ++ ['>']) = true) :
    openTag? e name (opening name attrs ++ x) = some ⟨attrs, opening name attrs, x⟩ :=
  openTag?_eq_some_iff.2 ⟨name, hname, hgt, he, rfl, rfl⟩

theorem closeTag?_closing (hname : Spells name name) : closeTag? name (closing name) = some ⟨(), closing name, []⟩ :=
  closeTag?_eq_some_iff.2 ⟨name, [], hname, List.forall_mem_nil _, by simp [closing], by simp⟩

/-- The first closing tag comes after all text without `<`. -/
theorem breakAt_closeTag?_of_notMem {c : Reading Unit} (hb : '<' ∉ b) (hx : closeTag? name x = some c) :
    breakAt (closeTag? name) (b ++ x) = some (b, c) := by
  induction b with
  | nil =>
    cases x with
    | nil => cases hx
    | cons d x =>
      rw [List.nil_append, breakAt_cons, hx]
  | cons d b ih =>
    rw [List.mem_cons, not_or] at hb
    have hnone : closeTag? name (d :: (b ++ x)) = none := by
      unfold closeTag?
      split
      · rename_i heq
        exact absurd (List.cons.inj heq).1.symm hb.1
      · rfl
    rw [List.cons_append, breakAt_cons, hnone, ih hb.2]
    rfl

theorem element?_opening {attrs : List Char} (hname : Spells name name) (hgt : '>' ∉ attrs)
    (he : e.holds (attrs ++ ['>']) = true) (hb : '<' ∉ b) :
    element? e name (opening name attrs ++ b ++ closing name) =
      some ⟨⟨attrs, b⟩, opening name attrs ++ b ++ closing name, []⟩ := by
  refine element?_eq_some_iff.2 ⟨⟨attrs, opening name attrs, b ++ closing name⟩, ⟨(), closing name, []⟩, ?_, ?_, rfl,
    rfl, rfl⟩
  · rw [List.append_assoc]
    exact openTag?_opening hname hgt he
  · exact breakAt_closeTag?_of_notMem hb (closeTag?_closing hname)

end PageBundle.Markup
