import Mathlib.Data.List.Infix
import PageBundle.Proofs.Markup.Shape

/-! Where the beginning of a tag stands in a text. A character that no tag begins with parts a text in two, and
a tag begins in the whole only if one begins in a part. -/

namespace PageBundle.Text

variable {name a b s u x : List Char} {c : Char}

/-- What the tags of a name begin with. -/
def IsTagStart (name x : List Char) : Prop := ∃ w, Spells name w ∧ (x = '<' :: w ∨ x = '<' :: '/' :: w)

/-- Whether a tag of a name begins somewhere in a text. -/
def MentionsTag (name u : List Char) : Prop := ∃ x, IsTagStart name x ∧ x <:+: u

def namesTag (name s : List Char) : Bool :=
  [['<'], ['<', '/']].any fun l => (dropLiteral? l s).any fun r => (readName? name r).isSome

theorem namesTag_iff : namesTag name s = true ↔ ∃ x, IsTagStart name x ∧ x <+: s := by
  have hl : ∀ l, (dropLiteral? l s).any (fun r => (readName? name r).isSome) = true ↔
      ∃ w, Spells name w ∧ l ++ w <+: s := by
    intro l
    rw [Option.any_eq_true]
    constructor
    · rintro ⟨r, hr, hn⟩
      obtain ⟨⟨w, q⟩, hq⟩ := Option.isSome_iff_exists.1 hn
      obtain ⟨hw, rfl⟩ := readName?_eq_some_iff.1 hq
      exact ⟨w, hw, q, by rw [List.append_assoc, dropLiteral?_eq_some_iff.1 hr]⟩
    · rintro ⟨w, hw, q, rfl⟩
      refine ⟨w ++ q, dropLiteral?_eq_some_iff.2 (List.append_assoc _ _ _).symm, ?_⟩
      rw [readName?_eq_some_iff.2 ⟨hw, rfl⟩]
      rfl
  simp only [namesTag, List.any_cons, List.any_nil, Bool.or_false, Bool.or_eq_true, hl]
  constructor
  · rintro (⟨w, hw, hx⟩ | ⟨w, hw, hx⟩)
    · exact ⟨_, ⟨w, hw, .inl rfl⟩, hx⟩
    · exact ⟨_, ⟨w, hw, .inr rfl⟩, hx⟩
  · rintro ⟨_, ⟨w, hw, rfl | rfl⟩, hx⟩
    · exact .inl ⟨w, hw, hx⟩
    · exact .inr ⟨w, hw, hx⟩

instance (name u : List Char) : Decidable (MentionsTag name u) :=
  decidable_of_iff (∃ t ∈ u.tails, namesTag name t = true) <| by
    simp only [List.mem_tails, namesTag_iff, MentionsTag, List.infix_iff_prefix_suffix]
    constructor
    · rintro ⟨t, ht, x, hx, hp⟩
      exact ⟨x, hx, t, hp, ht⟩
    · rintro ⟨x, hx, t, hp, ht⟩
      exact ⟨t, ht, x, hx, hp⟩

/-- Whether an opening tag of a name begins somewhere in a text. -/
def MentionsOpening (name u : List Char) : Prop := ∃ w, Spells name w ∧ '<' :: w <:+: u

def namesOpening (name : List Char) : List Char → Bool
  | '<' :: s => (readName? name s).isSome
  | _ => false

theorem namesOpening_iff : namesOpening name s = true ↔ ∃ w, Spells name w ∧ '<' :: w <+: s := by
  constructor
  · intro h
    unfold namesOpening at h
    split at h
    · obtain ⟨⟨w, r⟩, hr⟩ := Option.isSome_iff_exists.1 h
      obtain ⟨hw, rfl⟩ := readName?_eq_some_iff.1 hr
      exact ⟨w, hw, List.prefix_append ('<' :: w) r⟩
    · cases h
  · rintro ⟨w, hw, r, rfl⟩
    rw [List.cons_append, namesOpening, readName?_eq_some_iff.2 ⟨hw, rfl⟩]
    rfl

instance (name u : List Char) : Decidable (MentionsOpening name u) :=
  decidable_of_iff (∃ t ∈ u.tails, namesOpening name t = true) <| by
    simp only [List.mem_tails, namesOpening_iff, MentionsOpening, List.infix_iff_prefix_suffix]
    constructor
    · rintro ⟨t, ht, w, hw, hp⟩
      exact ⟨w, hw, t, hp, ht⟩
    · rintro ⟨w, hw, t, hp, ht⟩
      exact ⟨t, ht, w, hw, hp⟩

/-- A character that no tag of a name begins with. -/
def Parts (name : List Char) (c : Char) : Prop := c ≠ '<' ∧ c ≠ '/' ∧ ∀ l ∈ name, foldsTo l c = false

instance (name : List Char) (c : Char) : Decidable (Parts name c) :=
  have : Decidable (∀ l ∈ name, foldsTo l c = false) := List.decidableBAll (fun l => foldsTo l c = false) name
  inferInstanceAs (Decidable (c ≠ '<' ∧ c ≠ '/' ∧ ∀ l ∈ name, foldsTo l c = false))

theorem Parts.notMem (hc : Parts name c) (hx : IsTagStart name x) : c ∉ x := by
  obtain ⟨w, hw, hx⟩ := hx
  have hcw : c ∉ w := by
    intro hm
    obtain ⟨l, hl, hf⟩ := hw.exists_foldsTo hm
    rw [hc.2.2 l hl] at hf
    cases hf
  rcases hx with rfl | rfl
  · simp [hcw, hc.1]
  · simp [hcw, hc.1, hc.2.1]

/-- What stands before a character is found without what follows it. -/
theorem prefix_of_prefix_append_cons (h : x <+: a ++ c :: b) (hc : c ∉ x) : x <+: a := by
  rcases List.prefix_or_prefix_of_prefix h (List.prefix_append a (c :: b)) with hx | ⟨y, rfl⟩
  · exact hx
  · rw [List.prefix_append_right_inj] at h
    rcases List.prefix_cons_iff.1 h with rfl | ⟨y', rfl, -⟩
    · rw [List.append_nil]
    · simp at hc

theorem infix_of_infix_append_cons (h : x <:+: a ++ c :: b) (hc : c ∉ x) : x <:+: a ∨ x <:+: b := by
  induction a with
  | nil =>
    rcases List.infix_cons_iff.1 h with h | h
    · exact .inl (prefix_of_prefix_append_cons (a := []) h hc).isInfix
    · exact .inr h
  | cons d a ih =>
    rcases List.infix_cons_iff.1 h with h | h
    · exact .inl (prefix_of_prefix_append_cons (a := d :: a) h hc).isInfix
    · exact (ih h).imp_left fun hi => hi.trans (List.infix_cons List.infix_rfl)

/-- What begins in a text and does not hold its last character ends before it. -/
theorem infix_of_prefix_append {t v : List Char} (ht : t <:+ u ++ [c]) (hne : t ≠ []) (h : x <+: t ++ v) (hc : c ∉ x) :
    x <:+: u := by
  rcases List.suffix_concat_iff.1 ht with rfl | ⟨t', rfl, ht'⟩
  · exact absurd rfl hne
  · rw [List.append_assoc, List.singleton_append] at h
    exact (prefix_of_prefix_append_cons h hc).isInfix.trans ht'.isInfix

/-- No tag begins across a character that no beginning of a tag has. -/
theorem mentionsTag_append_cons (hc : Parts name c) (h : MentionsTag name (a ++ c :: b)) :
    MentionsTag name a ∨ MentionsTag name b := by
  obtain ⟨x, hx, hi⟩ := h
  rcases infix_of_infix_append_cons hi (hc.notMem hx) with hi | hi
  · exact .inl ⟨x, hx, hi⟩
  · exact .inr ⟨x, hx, hi⟩

theorem not_mentionsTag_of_notMem (h : '<' ∉ u) : ¬ MentionsTag name u := by
  rintro ⟨_, ⟨w, -, rfl | rfl⟩, hi⟩
  · exact h (hi.mem List.mem_cons_self)
  · exact h (hi.mem List.mem_cons_self)

end PageBundle.Text
