import Mathlib.Data.List.Flatten
import PageBundle.Proofs.Markup.Comment
import PageBundle.Proofs.Markup.Extraction
import PageBundle.Proofs.Markup.Structure
import PageBundle.Proofs.Text.Word

/-! The removal of structural tags from markup that is made of text and tags. A name ends for it where its word characters
end, so of a name with hyphens it sees the part before the first one. All other tags stay as they are. -/

namespace PageBundle.Text

variable {w x y : List Char} {c : Char}

/-- A capital letter is a word character as the small one is. -/
theorem isWord_of_toLower (h : isWord c.toLower = true) : isWord c = true := by
  unfold Char.toLower at h
  split at h
  · rename_i hc
    have hupper : c.isUpper = true := decide_eq_true hc
    have hlt : c.toNat < 128 := by
      have hZ : c.val.toNat ≤ 90 := UInt32.le_iff_toNat_le.1 hc.2
      exact Nat.lt_of_le_of_lt hZ (by decide)
    rw [isWord, if_pos hlt]
    show ((c.isUpper || c.isLower) || c.isDigit || c == '_') = true
    rw [hupper, Bool.true_or, Bool.true_or, Bool.true_or]
  · exact h

theorem takeWhile_isWord (hw : ∀ c ∈ w, isWord c = true) (hx : startsWithWord x = false) :
    (w ++ x).takeWhile isWord = w := by
  rw [List.takeWhile_append_of_pos hw]
  cases x with
  | nil => simp
  | cons c x =>
    rw [List.takeWhile_cons_of_neg, List.append_nil]
    rw [show isWord c = false from hx]
    exact Bool.false_ne_true

/-- Removing occurrences leaves a text in which none begins in its place. -/
theorem Recogniser.IsPlain.erase_append {α : Type} {R : Recogniser α} (h : R.IsPlain x) : R.erase (x ++ y) = x ++ R.erase y := by
  rw [erase, h y, List.flatMap_append, List.flatMap_map, List.flatMap_singleton']
  rfl

/-- Two selections of texts in a row, of which one is a part of the other, give the same text only if they are the same. -/
theorem flatMap_filter_eq_iff {α : Type} {p q : α → Bool} {f : α → List Char} (hpq : ∀ a, p a = true → q a = true)
    (hf : ∀ a, q a = true → ¬ p a = true → f a ≠ []) (l : List α) :
    (l.filter p).flatMap f = (l.filter q).flatMap f ↔ ∀ a ∈ l, q a = true → p a = true := by
  induction l with
  | nil => simp
  | cons a l ih =>
    rw [List.forall_mem_cons, ← ih]
    by_cases hp : p a = true
    · rw [List.filter_cons_of_pos hp, List.filter_cons_of_pos (hpq a hp)]
      simp [hp]
    · rw [List.filter_cons_of_neg hp]
      by_cases hq : q a = true
      · have hle := ((List.monotone_filter_right l hpq).flatMap f).length_le
        have hpos := List.length_pos_iff.2 (hf a hq hp)
        rw [List.filter_cons_of_pos hq, List.flatMap_cons]
        constructor
        · intro heq
          rw [heq, List.length_append] at hle
          omega
        · intro h
          exact absurd (h.1 hq) hp
      · rw [List.filter_cons_of_neg hq]
        simp [hq]

end PageBundle.Text

namespace PageBundle.Markup

open Text

variable {s w y u : List Char}

/-! ## Tags as they are written -/

structure Tag where
  /-- Whether it is a closing tag. -/
  closes : Bool
  name : List Char
  /-- All between name and `>`. -/
  rest : List Char
  name_word : ∀ c ∈ name, isWord c = true ∨ c = '-'
  rest_blank : ∀ c, rest.head? = some c → isBlank c = true
  lt_notMem : '<' ∉ rest
  gt_notMem : '>' ∉ rest

namespace Tag

variable {t : Tag}

def start (t : Tag) : List Char := if t.closes then ['<', '/'] else ['<']

def markup (t : Tag) : List Char := t.start ++ t.name ++ t.rest ++ ['>']

/-- The name up to its first hyphen. -/
def stem (t : Tag) : List Char := t.name.takeWhile (· ≠ '-')

def tail (t : Tag) : List Char := t.name.dropWhile (· ≠ '-') ++ t.rest

theorem stem_append_tail (t : Tag) (x : List Char) : t.stem ++ (t.tail ++ x) = t.name ++ (t.rest ++ x) := by
  have hname : t.stem ++ t.name.dropWhile (· ≠ '-') = t.name := List.takeWhile_append_dropWhile
  rw [tail, List.append_assoc, ← List.append_assoc, hname]

theorem markup_eq (t : Tag) : t.markup = t.start ++ t.stem ++ t.tail ++ ['>'] := by
  rw [markup, List.append_assoc, List.append_assoc, ← stem_append_tail, List.append_assoc, List.append_assoc]

theorem stem_isWord (t : Tag) : ∀ c ∈ t.stem, isWord c = true := by
  intro c hc
  have hne : c ≠ '-' := by simpa using List.mem_takeWhile_imp hc
  exact (t.name_word c ((List.takeWhile_sublist _).mem hc)).resolve_right hne

theorem startsWithWord_rest (t : Tag) : startsWithWord t.rest = false := by
  cases h : t.rest with
  | nil => rfl
  | cons c r => exact isWord_eq_false (t.rest_blank c (by rw [h]; rfl))

theorem startsWithWord_tail (t : Tag) : startsWithWord t.tail = false := by
  rw [tail]
  cases h : t.name.dropWhile (· ≠ '-') with
  | nil => exact t.startsWithWord_rest
  | cons c r =>
    have hc := List.head?_dropWhile_not (fun c : Char => decide (c ≠ '-')) t.name
    rw [h] at hc
    rw [show c = '-' by simpa using hc]
    rfl

theorem notMem_name (t : Tag) {c : Char} (hc : isWord c = false) (hne : c ≠ '-') : c ∉ t.name := by
  intro h
  rcases t.name_word c h with h | h
  · rw [hc] at h
    cases h
  · exact hne h

theorem gt_notMem_tail (t : Tag) : '>' ∉ t.tail := by
  rw [tail, List.mem_append, not_or]
  exact ⟨fun h => t.notMem_name isWord_gt (by decide) ((List.dropWhile_sublist _).mem h), t.gt_notMem⟩

/-- A tag has no `<` but its first character. -/
theorem exists_markup (t : Tag) : ∃ v, t.markup = '<' :: v ∧ '<' ∉ v := by
  have hname := t.notMem_name isWord_lt (by decide)
  have hrest := t.lt_notMem
  cases h : t.closes with
  | true => exact ⟨'/' :: (t.name ++ t.rest ++ ['>']), by simp [markup, start, h], by simp [hname, hrest]⟩
  | false => exact ⟨t.name ++ t.rest ++ ['>'], by simp [markup, start, h], by simp [hname, hrest]⟩

/-- An opening tag does not look like a closing one. -/
theorem name_append_ne_slash_cons (t : Tag) : t.name ++ (t.rest ++ '>' :: u) ≠ '/' :: y := by
  intro heq
  cases hname : t.name with
  | cons c v =>
    rw [hname] at heq
    refine t.notMem_name (c := '/') (by decide) (by decide) ?_
    rw [hname, (List.cons.inj heq).1]
    exact List.mem_cons_self
  | nil =>
    cases hrest : t.rest with
    | nil => simp [hname, hrest] at heq
    | cons c v =>
      have hc := t.rest_blank c (by rw [hrest]; rfl)
      rw [hname, hrest] at heq
      rw [show c = '/' from (List.cons.inj heq).1] at hc
      cases hc

end Tag

/-! ## Which of them are removed -/

/-- Whether a name is that of a tag of document structure, in any letter case. -/
def isStructuralName (name : List Char) : Bool := structuralNames.any fun n => lower name == n.toList

theorem isStructuralName_iff : isStructuralName w = true ↔ ∃ name ∈ structuralNames, lower w = name.toList := by
  simp [isStructuralName]

theorem spells_iff_of_mem {name : String} (h : name ∈ structuralNames) :
    Spells name.toList w ↔ lower w = name.toList := by
  have hks : ∀ name ∈ structuralNames, 'k' ∉ name.toList ∧ 's' ∉ name.toList := by decide +kernel
  exact spells_iff_lower (hks name h).1 (hks name h).2

theorem isWord_of_spells {name : String} (h : name ∈ structuralNames) (hw : Spells name.toList w) :
    ∀ c ∈ w, isWord c = true := by
  have hname : ∀ name ∈ structuralNames, name.toList.all isWord = true := by decide +kernel
  intro c hc
  have hl : c.toLower ∈ name.toList := by
    rw [← (spells_iff_of_mem h).1 hw]
    exact List.mem_map_of_mem hc
  exact isWord_of_toLower (List.all_eq_true.1 (hname name h) _ hl)

/-- A tag is removed, whatever comes after it, if the stem of its name is structural. -/
theorem structuralTag?_markup_append {t : Tag} (h : isStructuralName t.stem = true) :
    structuralTag? (t.markup ++ u) = some ⟨(), t.markup, u⟩ := by
  obtain ⟨name, hname, hw⟩ := isStructuralName_iff.1 h
  have hstart : IsStructureStart (t.start ++ t.stem) := by
    refine ⟨name, hname, t.stem, (spells_iff_of_mem hname).2 hw, ?_⟩
    cases hc : t.closes <;> simp [Tag.start, hc]
  exact structuralTag?_eq_some_iff.2 ⟨_, t.tail, hstart, t.startsWithWord_tail, t.gt_notMem_tail, t.markup_eq, rfl⟩

/-- No other tag is. -/
theorem isStructuralName_stem {t : Tag} (h : (structuralTag? (t.markup ++ u)).isSome = true) :
    isStructuralName t.stem = true := by
  obtain ⟨z, y, ⟨name, hname, w, hw, hz⟩, happ, hend, -⟩ := structuralTag?_isSome_iff.1 h
  have hword := isWord_of_spells hname hw
  have htail : startsWithWord (t.tail ++ '>' :: u) = false := by
    rw [startsWithWord_append_cons isWord_gt, t.startsWithWord_tail]
  -- what is read as the name and the stem are both the word characters behind the start of the tag
  have hstem : w ++ y = t.stem ++ (t.tail ++ '>' :: u) → isStructuralName t.stem = true := by
    intro heq
    have : w = t.stem := by
      rw [← takeWhile_isWord hword hend, heq, takeWhile_isWord t.stem_isWord htail]
    exact isStructuralName_iff.2 ⟨name, hname, (spells_iff_of_mem hname).1 (this ▸ hw)⟩
  rw [t.markup_eq] at happ
  cases hc : t.closes with
  | true =>
    simp only [Tag.start, hc, if_true, List.append_assoc, List.cons_append, List.nil_append] at happ
    rcases hz with rfl | rfl
    · exact absurd (List.cons.inj happ).2.symm (append_ne_slash_cons hname hw)
    · exact hstem (List.cons.inj (List.cons.inj happ).2).2.symm
  | false =>
    simp only [Tag.start, hc, Bool.false_eq_true, if_false, List.append_assoc, List.cons_append, List.nil_append] at happ
    rcases hz with rfl | rfl
    · exact hstem (List.cons.inj happ).2.symm
    · rw [t.stem_append_tail, List.cons_append, List.cons_append] at happ
      exact absurd (List.cons.inj happ).2 t.name_append_ne_slash_cons

theorem isPlain_of_lt_notMem (h : '<' ∉ s) : structuralTags.IsPlain s := by
  refine Recogniser.scans_plain fun t ht hne y => ?_
  cases t with
  | nil => exact absurd rfl hne
  | cons c t => exact structuralTag?_cons_of_ne fun hc => h (hc ▸ ht.mem List.mem_cons_self)

/-! ## Markup -/

inductive Stretch where
  /-- Text in which no tag begins. -/
  | text (s : List Char) (h : '<' ∉ s)
  | tag (t : Tag)

namespace Stretch

def markup : Stretch → List Char
  | text s _ => s
  | tag t => t.markup

/-- Whether it is a tag whose whole name is structural. -/
def isStructural : Stretch → Bool
  | text _ _ => false
  | tag t => isStructuralName t.name

/-- Whether it is a tag whose name is structural up to its first hyphen. -/
def isRemoved : Stretch → Bool
  | text _ _ => false
  | tag t => isStructuralName t.stem

variable {b : Stretch} {doc : List Stretch}

/-- A tag that is removed leaves nothing behind, whatever comes after it. -/
theorem erase_append_of_isRemoved (h : b.isRemoved = true) :
    structuralTags.erase (b.markup ++ y) = structuralTags.erase y := by
  cases b with
  | text s hs => cases h
  | tag t => exact Recogniser.erase_of_read (R := structuralTags) (structuralTag?_markup_append h)

/-- Nothing is removed from any other stretch, whatever comes after it. -/
theorem isPlain_of_not_isRemoved (h : ¬ b.isRemoved = true) : structuralTags.IsPlain b.markup := by
  cases b with
  | text s hs => exact isPlain_of_lt_notMem hs
  | tag t =>
    intro y
    have hnone : structuralTag? (t.markup ++ y) = none := by
      cases hr : structuralTag? (t.markup ++ y) with
      | none => rfl
      | some r => exact absurd (isStructuralName_stem (Option.isSome_iff_exists.2 ⟨r, hr⟩)) h
    obtain ⟨v, hv, hlt⟩ := t.exists_markup
    rw [hv, List.cons_append] at hnone
    rw [markup, hv, List.cons_append, structuralTags.pieces_cons_of_none hnone, isPlain_of_lt_notMem hlt y]
    rfl

theorem markup_ne_nil (h : b.isRemoved = true) : b.markup ≠ [] := by
  cases b with
  | text s hs => cases h
  | tag t => simp [markup, Tag.markup]

/-- Of markup the removal leaves all stretches but the tags with a structural stem. -/
theorem erase_flatMap_markup (doc : List Stretch) :
    structuralTags.erase (doc.flatMap markup) = (doc.filter fun b => !b.isRemoved).flatMap markup := by
  induction doc with
  | nil => exact Recogniser.erase_nil
  | cons b doc ih =>
    rw [List.flatMap_cons]
    by_cases h : b.isRemoved = true
    · rw [erase_append_of_isRemoved h, ih, List.filter_cons_of_neg (by simp [h])]
    · rw [(isPlain_of_not_isRemoved h).erase_append, ih, List.filter_cons_of_pos (by simp [h]), List.flatMap_cons]

/-- A structural name has no hyphen. -/
theorem isRemoved_of_isStructural (h : b.isStructural = true) : b.isRemoved = true := by
  cases b with
  | text s hs => cases h
  | tag t =>
    obtain ⟨name, hname, hw⟩ := isStructuralName_iff.1 h
    have hword := isWord_of_spells hname ((spells_iff_of_mem hname).2 hw)
    have hstem : t.stem = t.name := by
      refine List.takeWhile_eq_self_iff.2 fun c hc => decide_eq_true fun he => ?_
      have := hword c hc
      rw [he] at this
      cases this
    rw [isRemoved, hstem]
    exact h

end Stretch

/-- From markup made of text and tags the removal takes exactly the tags whose name is structural up to its first hyphen. Those
are the tags whose whole name is structural exactly if no name goes on after such a hyphen. -/
theorem stripStructure_flatMap_markup (doc : List Stretch) :
    stripStructure (String.ofList (doc.flatMap Stretch.markup)) =
      String.ofList ((doc.filter fun b => !b.isRemoved).flatMap Stretch.markup) ∧
    (stripStructure (String.ofList (doc.flatMap Stretch.markup)) =
      String.ofList ((doc.filter fun b => !b.isStructural).flatMap Stretch.markup) ↔
        ∀ b ∈ doc, b.isRemoved = true → b.isStructural = true) := by
  have herase : stripStructure (String.ofList (doc.flatMap Stretch.markup)) =
      String.ofList ((doc.filter fun b => !b.isRemoved).flatMap Stretch.markup) := by
    rw [stripStructure, String.toList_ofList, Stretch.erase_flatMap_markup]
  have hpart : ∀ b : Stretch, (!b.isRemoved) = true → (!b.isStructural) = true := by
    intro b h
    by_contra hs
    rw [Stretch.isRemoved_of_isStructural (by simpa using hs)] at h
    cases h
  have htext : ∀ b : Stretch, (!b.isStructural) = true → ¬ (!b.isRemoved) = true → b.markup ≠ [] := by
    intro b _ h
    exact Stretch.markup_ne_nil (by simpa using h)
  refine ⟨herase, ?_⟩
  rw [herase, String.ofList_inj, flatMap_filter_eq_iff hpart htext]
  simp only [Bool.not_eq_true', ← Bool.not_eq_true, not_imp_not]

def headLine (closes : Bool) : Tag where
  closes := closes
  name := "head-line".toList
  rest := []
  name_word := by
    have hall : ("head-line".toList.all fun c => isWord c || c == '-') = true := by decide +kernel
    simpa using hall
  rest_blank := by simp
  lt_notMem := by simp
  gt_notMem := by simp

/-- A custom element, of which the removal of structural tags leaves the text alone. -/
theorem stripStructure_ne_headLine :
    let doc := [.tag (headLine false), .text ['x'] (by decide), .tag (headLine true)]
    String.ofList (doc.flatMap Stretch.markup) = "<head-line>x</head-line>" ∧
    (doc.filter fun b => !b.isStructural) = doc ∧
    stripStructure (String.ofList (doc.flatMap Stretch.markup)) = "x" := by
  refine ⟨by decide +kernel, ?_, by decide +kernel⟩
  exact List.filter_eq_self.2 (by decide +kernel)

end PageBundle.Markup
