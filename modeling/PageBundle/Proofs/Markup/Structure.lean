import PageBundle.Markup.Section
import PageBundle.Proofs.Markup.Plain

/-! The tags of document structure. Such a tag is the beginning of one, `<` or `</` and the name, and all up to the first
`>` after it, if the name ends there at a word boundary. So the scan for them ends at `>` like that for opening tags. -/

namespace PageBundle.Markup

open Text

variable {s t u x y z : List Char} {c : Char} {r : Reading Unit}

/-- What the tags of document structure begin with. -/
def IsStructureStart (z : List Char) : Prop := ∃ name ∈ structuralNames, IsTagStart name.toList z

/-- Whether a text begins with such a tag: its beginning, no word character next, and some `>` behind. -/
def StructureAhead (s : List Char) : Prop :=
  ∃ z y, IsStructureStart z ∧ s = z ++ y ∧ startsWithWord y = false ∧ '>' ∈ y

/-! ## Their beginnings -/

theorem hasNoAngle_of_mem : ∀ name ∈ structuralNames, HasNoAngle name.toList := by decide +kernel

theorem foldsTo_slash_of_mem {name : String} (h : name ∈ structuralNames) : ∀ l ∈ name.toList, foldsTo l '/' = false := by
  have hall : ∀ name ∈ structuralNames, (name.toList.all fun l => !foldsTo l '/') = true := by decide +kernel
  simpa using hall name h

theorem toList_ne_nil_of_mem : ∀ name ∈ structuralNames, name.toList ≠ [] := by decide +kernel

/-- The name of an opening tag does not look like that of a closing one. -/
theorem append_ne_slash_cons {name : String} {w : List Char} (h : name ∈ structuralNames) (hw : Spells name.toList w) :
    w ++ y ≠ '/' :: x := by
  intro heq
  cases w with
  | nil => exact toList_ne_nil_of_mem name h (List.length_eq_zero_iff.1 hw.length_eq.symm)
  | cons c w =>
    obtain ⟨l, hl, hf⟩ := hw.exists_foldsTo List.mem_cons_self
    rw [(List.cons.inj heq).1, foldsTo_slash_of_mem h l hl] at hf
    cases hf

theorem IsStructureStart.exists_cons (h : IsStructureStart z) : ∃ v, z = '<' :: v := by
  obtain ⟨_, _, w, _, rfl | rfl⟩ := h
  · exact ⟨w, rfl⟩
  · exact ⟨'/' :: w, rfl⟩

theorem IsStructureStart.gt_notMem (h : IsStructureStart z) : '>' ∉ z := by
  obtain ⟨name, hname, w, hw, hz⟩ := h
  have hgt := hw.gt_notMem (hasNoAngle_of_mem name hname)
  rcases hz with rfl | rfl <;> simp [hgt]

/-! ## Reading one -/

/-- Whether a name ends is told by the character after it. -/
theorem startsWithWord_append_cons (hc : isWord c = false) : startsWithWord (x ++ c :: y) = startsWithWord x := by
  cases x with
  | nil => exact hc
  | cons d x => rfl

theorem isWord_gt : isWord '>' = false := by decide

theorem isWord_lt : isWord '<' = false := by decide

/-- What is read as a structural tag: its beginning, no word character next, and all up to the first `>`. -/
theorem structure_of_structuralTag? (h : structuralTag? s = some r) : ∃ z attrs, IsStructureStart z ∧
    startsWithWord attrs = false ∧ '>' ∉ attrs ∧ r.text = z ++ attrs ++ ['>'] ∧ s = r.text ++ r.rest := by
  have happ := (append_of_structuralTag? h).1.symm
  have hword : ∀ attrs, NameEnd.word.holds (attrs ++ ['>']) = true → startsWithWord attrs = false := by
    intro attrs hend
    simpa [NameEnd.holds, startsWithWord_append_cons isWord_gt] using hend
  obtain ⟨name, hname, h⟩ := List.exists_of_findSome?_eq_some h
  split at h
  · obtain ⟨o, ho, rfl⟩ := Option.map_eq_some_iff.1 h
    obtain ⟨w, hw, hgt, hend, ht, -⟩ := openTag?_eq_some_iff.1 ho
    exact ⟨'<' :: '/' :: w, o.value, ⟨name, hname, w, hw, .inr rfl⟩, hword _ hend, hgt, by simp [ht], happ⟩
  · obtain ⟨o, ho, rfl⟩ := Option.map_eq_some_iff.1 h
    obtain ⟨w, hw, hgt, hend, ht, -⟩ := openTag?_eq_some_iff.1 ho
    exact ⟨'<' :: w, o.value, ⟨name, hname, w, hw, .inl rfl⟩, hword _ hend, hgt, ht, happ⟩

/-- One is read exactly where the text begins with one. -/
theorem structuralTag?_isSome_iff : (structuralTag? s).isSome = true ↔ StructureAhead s := by
  constructor
  · intro h
    obtain ⟨r, hr⟩ := Option.isSome_iff_exists.1 h
    obtain ⟨z, attrs, hz, hend, -, ht, hs⟩ := structure_of_structuralTag? hr
    refine ⟨z, attrs ++ '>' :: r.rest, hz, ?_, ?_, by simp⟩
    · rw [hs, ht]
      simp
    · rw [startsWithWord_append_cons isWord_gt, hend]
  · intro h
    obtain ⟨z, y, ⟨name, hname, w, hw, hz⟩, rfl, hend, hgt⟩ := h
    have hopen : (openTag? .word name.toList ('<' :: (w ++ y))).isSome = true := by
      obtain ⟨attrs, rest, rfl, hattrs⟩ := List.eq_append_cons_of_mem hgt
      refine Option.isSome_iff_exists.2 ⟨⟨attrs, '<' :: (w ++ attrs ++ ['>']), rest⟩, ?_⟩
      refine openTag?_eq_some_iff.2 ⟨w, hw, hattrs, ?_, rfl, by simp⟩
      rw [← NameEnd.holds_append_cons (r := rest), NameEnd.holds, hend]
      rfl
    rw [structuralTag?, List.findSome?_isSome_iff]
    refine ⟨name, hname, ?_⟩
    rcases hz with rfl | rfl
    · split
      · rename_i heq
        exact absurd (List.cons.inj heq).2 (append_ne_slash_cons hname hw)
      · simpa using hopen
    · simpa using hopen

/-- What is read is told by the text up to its first `>`. -/
theorem structuralTag?_eq_some_iff : structuralTag? s = some r ↔ ∃ z attrs, IsStructureStart z ∧
    startsWithWord attrs = false ∧ '>' ∉ attrs ∧ r.text = z ++ attrs ++ ['>'] ∧ s = r.text ++ r.rest := by
  refine ⟨structure_of_structuralTag?, fun h => ?_⟩
  obtain ⟨z, attrs, hz, hend, hgt, ht, hs⟩ := h
  rw [ht, List.append_assoc, List.singleton_append] at hs
  have hsome : (structuralTag? s).isSome = true := by
    refine structuralTag?_isSome_iff.2 ⟨z, attrs ++ '>' :: r.rest, hz, by rw [hs, List.append_assoc], ?_, by simp⟩
    rw [startsWithWord_append_cons isWord_gt, hend]
  obtain ⟨r', hr'⟩ := Option.isSome_iff_exists.1 hsome
  obtain ⟨z', attrs', hz', -, hgt', ht', hs'⟩ := structure_of_structuralTag? hr'
  rw [ht', List.append_assoc, List.singleton_append, hs] at hs'
  have hn : '>' ∉ z ++ attrs := by simp [hz.gt_notMem, hgt]
  have hn' : '>' ∉ z' ++ attrs' := by simp [hz'.gt_notMem, hgt']
  have hfirst := toAngle?_eq_some_iff.2 ⟨hn', hs'⟩
  rw [toAngle?_eq_some_iff.2 ⟨hn, rfl⟩, Option.some.injEq, Prod.mk.injEq] at hfirst
  obtain ⟨htext, hrest⟩ := hfirst
  rw [← htext, ← ht] at ht'
  rw [hr']
  obtain ⟨_, text, rest⟩ := r
  obtain ⟨_, text', rest'⟩ := r'
  simp only at ht' hrest
  rw [ht', hrest]

theorem structuralTags_endsAt : structuralTags.EndsAt '>' where
  extend := by
    intro s u r h
    obtain ⟨z, attrs, hz, hend, hgt, ht, hs⟩ := structuralTag?_eq_some_iff.1 h
    exact structuralTag?_eq_some_iff.2 ⟨z, attrs, hz, hend, hgt, ht, by rw [hs, List.append_assoc]⟩
  mem := by
    intro s r h
    obtain ⟨z, attrs, -, -, -, ht, hs⟩ := structuralTag?_eq_some_iff.1 h
    rw [hs, ht]
    simp
  isSome := by
    intro s u r h hs
    obtain ⟨z, y, hz, happ, hend, -⟩ := structuralTag?_isSome_iff.1 (Option.isSome_iff_exists.2 ⟨r, h⟩)
    obtain ⟨a, b, rfl, -⟩ := List.eq_append_cons_of_mem hs
    rw [List.append_assoc, List.cons_append] at happ
    have hpre : z <+: a := prefix_of_prefix_append_cons ⟨y, happ.symm⟩ hz.gt_notMem
    obtain ⟨v, rfl⟩ := hpre
    rw [List.append_assoc, List.append_cancel_left_eq] at happ
    refine structuralTag?_isSome_iff.2 ⟨z, v ++ '>' :: b, hz, List.append_assoc _ _ _, ?_, by simp⟩
    rwa [← happ, startsWithWord_append_cons isWord_gt, ← startsWithWord_append_cons (y := b) isWord_gt] at hend

theorem structuralTag?_cons_of_ne (hc : c ≠ '<') : structuralTag? (c :: s) = none := by
  cases h : structuralTag? (c :: s) with
  | none => rfl
  | some r =>
    obtain ⟨z, y, hz, hs, -⟩ := structuralTag?_isSome_iff.1 (Option.isSome_iff_exists.2 ⟨r, h⟩)
    obtain ⟨v, rfl⟩ := hz.exists_cons
    exact absurd (List.cons.inj hs).1 hc

theorem pieces_cons_of_ne (hc : c ≠ '<') : structuralTags.pieces (c :: s) = .plain c :: structuralTags.pieces s :=
  structuralTags.pieces_cons_of_none (structuralTag?_cons_of_ne hc)

end PageBundle.Markup
