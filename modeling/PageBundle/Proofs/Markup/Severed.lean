import PageBundle.Proofs.Markup.Comment
import PageBundle.Proofs.Markup.Structure

/-! When one pass over a text leaves tags of document structure in it. A tag of the text that is left was no tag before: a
tag that was removed stood in it. It cannot have stood behind the name, for the name and the first `>` after it would have
been a tag. So it stood in the beginning, and what is left of the text behind it completes this beginning to a tag. -/

namespace PageBundle.Text.Recogniser

variable {α : Type} {R : Recogniser α} {s t : List Char}

/-- The scan of a text comes to no occurrence, or to a first one. -/
theorem pieces_cases (R : Recogniser α) (s : List Char) : R.pieces s = s.map .plain ∨
    ∃ x r, R.read (r.text ++ r.rest) = some r ∧ s = x ++ (r.text ++ r.rest) ∧
      R.pieces s = x.map .plain ++ .found r.text r.value :: R.pieces r.rest := by
  induction s with
  | nil => exact .inl R.pieces_nil
  | cons c s ih =>
    cases h : R.read (c :: s) with
    | some r =>
      have happ := R.append_of_read h
      exact .inr ⟨[], r, by rw [happ, h], happ.symm, R.pieces_of_read h⟩
    | none =>
      rw [R.pieces_cons_of_none h]
      rcases ih with ih | ⟨x, r, hr, hs, hp⟩
      · exact .inl (by rw [ih]; rfl)
      · exact .inr ⟨c :: x, r, hr, by rw [hs]; rfl, by rw [hp]; rfl⟩

/-- In a text that is scanned as plain nothing begins. -/
theorem read_eq_none_of_pieces (h : R.pieces s = s.map .plain) (ht : t <:+ s) : R.read t = none := by
  induction s with
  | nil =>
    rw [List.suffix_nil.1 ht]
    exact R.read_nil
  | cons c s ih =>
    cases hr : R.read (c :: s) with
    | some r =>
      rw [R.pieces_of_read hr] at h
      cases h
    | none =>
      rw [R.pieces_cons_of_none hr] at h
      rcases List.suffix_cons_iff.1 ht with rfl | ht
      · exact hr
      · exact ih (List.cons.inj h).2 ht

end PageBundle.Text.Recogniser

namespace PageBundle.Markup

open Text

variable {s t u x y z : List Char}

/-- Whether a tag of document structure stands somewhere in a text. -/
def HasStructure (s : List Char) : Prop := ∃ t, t <:+ s ∧ StructureAhead t

/-- Whether a tag of document structure begins somewhere in a text and does not end in it. -/
def LeavesOpen (s : List Char) : Prop :=
  ∃ z attrs, IsStructureStart z ∧ startsWithWord attrs = false ∧ '>' ∉ attrs ∧ z ++ attrs <:+ s

/-- Whether some characters are the beginning of a structural tag's `<` or `</` and name, cut off before its end. -/
def IsStub (x : List Char) : Prop := x ≠ [] ∧ ∃ z, IsStructureStart z ∧ x <+: z ∧ x ≠ z

/-- A place where the removal of tags puts one together: a tag that is removed stands right behind a stub, and the stub
makes a tag with what is left of the text behind the one that is removed. -/
structure SeveredAt (s x : List Char) (r : Reading Unit) : Prop where
  stub : IsStub x
  removed : ∃ ps, structuralTags.pieces s = ps ++ (x.map .plain ++ .found r.text r.value :: structuralTags.pieces r.rest)
  completed : StructureAhead (x ++ structuralTags.erase r.rest)

/-- Whether the removal of tags puts one together somewhere. -/
def Severed (s : List Char) : Prop := ∃ x r, SeveredAt s x r

variable {r : Reading Unit} {c : Char}

theorem Severed.of_pieces (h : Severed t) (ps : List (Piece Unit))
    (hs : structuralTags.pieces s = ps ++ structuralTags.pieces t) : Severed s := by
  obtain ⟨x, r, h⟩ := h
  obtain ⟨qs, hp⟩ := h.removed
  exact ⟨x, r, h.stub, ⟨ps ++ qs, by rw [hs, hp, List.append_assoc]⟩, h.completed⟩

theorem erase_eq_append (h : structuralTags.pieces s = x.map .plain ++ .found r.text r.value :: structuralTags.pieces r.rest) :
    structuralTags.erase s = x ++ structuralTags.erase r.rest := by
  simp [Recogniser.erase, h, List.flatMap_map]

theorem SeveredAt.suffix_erase (h : SeveredAt s x r) : x ++ structuralTags.erase r.rest <:+ structuralTags.erase s := by
  obtain ⟨ps, hp⟩ := h.removed
  simp [Recogniser.erase, hp, List.flatMap_map]

/-- A removed tag stands in the name of one that the removal makes: behind the name it would have ended the tag itself. -/
theorem isStub_of_structuralTag? (hx : x ≠ []) (hs : structuralTag? (x ++ (r.text ++ r.rest)) = none)
    (hr : structuralTag? (r.text ++ r.rest) = some r) (h : StructureAhead (x ++ y)) : IsStub x := by
  obtain ⟨z, u, hz, happ, hend, -⟩ := h
  obtain ⟨z', attrs, hz', -, -, htext, -⟩ := structuralTag?_eq_some_iff.1 hr
  obtain ⟨v, rfl⟩ := hz'.exists_cons
  by_cases hzx : z <+: x
  · obtain ⟨b, rfl⟩ := hzx
    rw [List.append_assoc, List.append_cancel_left_eq] at happ
    have hsome : (structuralTag? (z ++ b ++ (r.text ++ r.rest))).isSome = true := by
      refine structuralTag?_isSome_iff.2 ⟨z, b ++ (r.text ++ r.rest), hz, List.append_assoc _ _ _, ?_, ?_⟩
      · cases b with
        | nil =>
          rw [htext]
          exact isWord_lt
        | cons c b =>
          rw [← happ] at hend
          exact hend
      · rw [htext]
        simp
    rw [hs] at hsome
    cases hsome
  · refine ⟨hx, z, hz, ?_, fun he => hzx (he ▸ List.prefix_rfl)⟩
    rcases List.prefix_or_prefix_of_prefix ⟨y, happ⟩ (List.prefix_append z u) with hp | hp
    · exact hp
    · exact absurd hp hzx

/-- A tag with which the text begins only after the removal is put together by it. -/
theorem severed_of_structuralTag? (hs : structuralTag? s = none)
    (h : StructureAhead (structuralTags.erase s)) : Severed s := by
  rcases structuralTags.pieces_cases s with hp | ⟨x, r, hr, happ, hp⟩
  · have heq := Recogniser.erase_eq_self fun t ht => Recogniser.read_eq_none_of_pieces hp ht
    rw [heq, ← structuralTag?_isSome_iff, hs] at h
    cases h
  · rw [erase_eq_append hp] at h
    rw [happ] at hs
    have hx : x ≠ [] := by
      rintro rfl
      rw [List.nil_append, show structuralTag? (r.text ++ r.rest) = some r from hr] at hs
      cases hs
    exact ⟨x, r, isStub_of_structuralTag? hx hs hr h, ⟨[], hp⟩, h⟩

theorem severed_of_hasStructure_erase (h : HasStructure (structuralTags.erase s)) : Severed s := by
  induction hn : s.length using Nat.strongRecOn generalizing s with
  | ind n ih =>
    cases hr : structuralTags.read s with
    | some r =>
      rw [Recogniser.erase_of_read hr] at h
      have hrest := ih _ (hn ▸ structuralTags.length_rest_lt hr) h rfl
      exact hrest.of_pieces [.found r.text r.value] (structuralTags.pieces_of_read hr)
    | none =>
      obtain ⟨t, ht, htag⟩ := h
      cases s with
      | nil =>
        rw [Recogniser.erase_nil] at ht
        rw [List.suffix_nil.1 ht, ← structuralTag?_isSome_iff] at htag
        cases htag
      | cons c s =>
        have herase : structuralTags.erase (c :: s) = c :: structuralTags.erase s := Recogniser.erase_cons_of_none hr
        rw [herase] at ht
        rcases List.suffix_cons_iff.1 ht with rfl | ht
        · rw [← herase] at htag
          exact severed_of_structuralTag? hr htag
        · have hrest := ih s.length (by rw [← hn]; exact Nat.lt_succ_self _) ⟨t, ht, htag⟩ rfl
          exact hrest.of_pieces [.plain c] (structuralTags.pieces_cons_of_none hr)

/-- One pass leaves a tag in the text exactly if it puts one together. -/
theorem hasStructure_erase_iff : HasStructure (structuralTags.erase s) ↔ Severed s := by
  refine ⟨severed_of_hasStructure_erase, fun h => ?_⟩
  obtain ⟨x, r, h⟩ := h
  exact ⟨_, h.suffix_erase, h.completed⟩

theorem length_erase_structure_lt (h : HasStructure s) : (structuralTags.erase s).length < s.length := by
  obtain ⟨t, ht, htag⟩ := h
  obtain ⟨r, hr⟩ := Option.isSome_iff_exists.1 (structuralTag?_isSome_iff.2 htag)
  exact Recogniser.length_erase_lt (R := structuralTags) ht hr

/-- A pass changes the text exactly if there is a tag in it. -/
theorem erase_eq_self_iff : structuralTags.erase s = s ↔ ¬ HasStructure s := by
  constructor
  · intro h hs
    have := length_erase_structure_lt hs
    rw [h] at this
    exact Nat.lt_irrefl _ this
  · intro h
    refine Recogniser.erase_eq_self fun t ht => ?_
    cases hr : structuralTags.read t with
    | none => rfl
    | some r => exact absurd ⟨t, ht, structuralTag?_isSome_iff.1 (Option.isSome_iff_exists.2 ⟨r, hr⟩)⟩ h

/-! ## In front of more text -/

/-- Whether a tag of document structure begins somewhere in a text, whether it ends there or not. -/
def BeginsStructure (s : List Char) : Prop :=
  ∃ z y, IsStructureStart z ∧ startsWithWord y = false ∧ z ++ y <:+ s

theorem beginsStructure_iff : BeginsStructure s ↔ HasStructure s ∨ LeavesOpen s := by
  constructor
  · intro h
    obtain ⟨z, y, hz, hend, hs⟩ := h
    by_cases hy : '>' ∈ y
    · exact .inl ⟨_, hs, z, y, hz, rfl, hend, hy⟩
    · exact .inr ⟨z, y, hz, hend, hy, hs⟩
  · intro h
    rcases h with ⟨_, hs, z, y, hz, rfl, hend, -⟩ | ⟨z, y, hz, hend, -, hs⟩ <;> exact ⟨z, y, hz, hend, hs⟩

/-- A `>` behind a text shows the tags that begin in it. -/
theorem hasStructure_append_gt_iff : HasStructure (s ++ ['>']) ↔ BeginsStructure s := by
  constructor
  · intro h
    obtain ⟨t, ht, z, y, hz, rfl, hend, hgt⟩ := h
    rcases List.eq_nil_or_concat y with rfl | ⟨v, c, hy⟩
    · cases hgt
    · rw [List.concat_eq_append] at hy
      subst hy
      rw [← List.append_assoc] at ht
      rcases List.suffix_concat_iff.1 ht with hnil | ⟨t, happ, hs⟩
      · exact absurd hnil (by simp)
      · obtain ⟨rfl, hc⟩ := List.append_inj' happ rfl
        rw [hc, startsWithWord_append_cons isWord_gt] at hend
        exact ⟨z, v, hz, hend, hs⟩
  · intro h
    obtain ⟨z, y, hz, hend, v, rfl⟩ := h
    refine ⟨z ++ (y ++ ['>']), ⟨v, by simp⟩, z, y ++ ['>'], hz, rfl, ?_, by simp⟩
    rw [startsWithWord_append_cons isWord_gt, hend]

theorem IsStructureStart.notMem_newline (h : IsStructureStart z) : '\n' ∉ z := by
  obtain ⟨name, hname, hz⟩ := h
  have hparts : ∀ name ∈ structuralNames, Parts name.toList '\n' := by decide +kernel
  exact (hparts name hname).notMem hz

/-- A text opens and closes nothing in front of a line break, whatever comes behind it, exactly if no tag begins in it. -/
theorem isPlain_newline_iff : structuralTags.IsPlain (s ++ ['\n']) ↔ ¬ BeginsStructure s := by
  have hnl : isWord '\n' = false := by decide
  constructor
  · intro h hs
    obtain ⟨z, y, hz, hend, v, rfl⟩ := hs
    have hplain : structuralTags.pieces (v ++ (z ++ y) ++ ['\n'] ++ ['>']) =
        (v ++ (z ++ y) ++ ['\n'] ++ ['>']).map .plain := by
      rw [h ['>'], pieces_cons_of_ne (by decide), structuralTags.pieces_nil]
      simp
    -- the line break ends the name, and a `>` behind it ends the tag
    have hsome : (structuralTag? (z ++ (y ++ '\n' :: ['>']))).isSome = true := by
      refine structuralTag?_isSome_iff.2 ⟨z, _, hz, rfl, ?_, by simp⟩
      rw [startsWithWord_append_cons hnl, hend]
    rw [show structuralTag? _ = none from Recogniser.read_eq_none_of_pieces hplain ⟨v, by simp⟩] at hsome
    cases hsome
  · intro h
    refine Recogniser.scans_plain fun t ht hne y => ?_
    cases hr : structuralTags.read (t ++ y) with
    | none => rfl
    | some r =>
      exfalso
      obtain ⟨z, u, hz, happ, hend, -⟩ := structuralTag?_isSome_iff.1 (Option.isSome_iff_exists.2 ⟨r, hr⟩)
      rcases List.suffix_concat_iff.1 ht with rfl | ⟨t, rfl, hs⟩
      · exact hne rfl
      · rw [List.append_assoc, List.singleton_append] at happ
        obtain ⟨v, rfl⟩ := prefix_of_prefix_append_cons ⟨u, happ.symm⟩ hz.notMem_newline
        rw [List.append_assoc, List.append_cancel_left_eq] at happ
        rw [← happ, startsWithWord_append_cons hnl] at hend
        exact h ⟨z, v, hz, hend, hs⟩

end PageBundle.Markup
