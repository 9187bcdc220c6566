import PageBundle.Proofs.Asset.Log
import PageBundle.Proofs.Markup.Patch
import PageBundle.Proofs.Markup.Plain

/-! When style sheets that are put in leave the scripts of a text alone. A link that is replaced and the
element that replaces it are patches for the search for scripts, if the sheet has no beginning of a script tag
in its path or content and no tag holds a `<`. Then the text makes the same references to scripts as before. -/

namespace PageBundle.Markup

open Text

variable {e : NameEnd} {name s u : List Char}

theorem exists_isTagStart_of_openTag? {o : Reading (List Char)} (hn : HasNoAngle name)
    (h : openTag? e name s = some o) : ∃ x, IsTagStart name x ∧ '>' ∉ x ∧ x <+: s := by
  obtain ⟨w, hw, hp⟩ := prefix_of_openTag? h
  refine ⟨'<' :: w, ⟨w, hw, .inl rfl⟩, ?_, hp⟩
  simp [hw.gt_notMem hn]

theorem exists_isTagStart_of_closeTag? {c : Reading Unit} (hn : HasNoAngle name)
    (h : closeTag? name s = some c) : ∃ x, IsTagStart name x ∧ '>' ∉ x ∧ x <+: s := by
  obtain ⟨w, b, hw, -, ht, rfl⟩ := closeTag?_eq_some_iff.1 h
  refine ⟨'<' :: '/' :: w, ⟨w, hw, .inr rfl⟩, ?_, ?_⟩
  · simp [hw.gt_notMem hn]
  · rw [ht]
    exact ⟨b ++ ['>'] ++ c.rest, by simp⟩

/-- A text that ends with `>` and mentions no tag of a name has none begin in it, whatever comes after it. -/
theorem inert_of_not_mentionsTag (hn : HasNoAngle name) (h : ¬ MentionsTag name (u ++ ['>'])) :
    Inert e name (u ++ ['>']) := by
  intro t ht hne v
  have hx : ∀ x, IsTagStart name x → '>' ∉ x → ¬ x <+: t ++ v := by
    intro x hx hgt hp
    have hxu := infix_of_prefix_append ht hne hp hgt
    exact h ⟨x, hx, hxu.trans (List.prefix_append u _).isInfix⟩
  constructor
  · cases ho : openTag? e name (t ++ v) with
    | none => rfl
    | some o =>
      obtain ⟨x, hs, hgt, hp⟩ := exists_isTagStart_of_openTag? hn ho
      exact absurd hp (hx x hs hgt)
  · cases hc : closeTag? name (t ++ v) with
    | none => rfl
    | some c =>
      obtain ⟨x, hs, hgt, hp⟩ := exists_isTagStart_of_closeTag? hn hc
      exact absurd hp (hx x hs hgt)

theorem isPatch_of_not_mentionsTag (hn : HasNoAngle name) (h : ¬ MentionsTag name ('<' :: u ++ ['>'])) :
    IsPatch e name ('<' :: u ++ ['>']) :=
  ⟨⟨_, rfl⟩, by simp, inert_of_not_mentionsTag hn h⟩

end PageBundle.Markup

namespace PageBundle.Asset

open Text Markup

/-- Whether a tag of a name begins in the path or in the content of a file. -/
def Mentions (name : String) (f : File) : Prop :=
  MentionsTag name.toList f.path.toList ∨ MentionsTag name.toList f.content.toList

instance (name : String) (f : File) : Decidable (Mentions name f) :=
  inferInstanceAs (Decidable (_ ∨ _))

/-- A link tag and a script tag differ in their first letters. -/
theorem not_isTagStart_of_spells {w r x : List Char} (hw : Spells "link".toList w)
    (hp : x <+: '<' :: (w ++ r)) : ¬ IsTagStart "script".toList x := by
  rw [show "link".toList = ['l', 'i', 'n', 'k'] by decide +kernel] at hw
  cases hw with
  | @cons _ c _ w hc hw =>
    have hl : c.toLower = 'l' := by simpa [foldsTo] using hc
    rintro ⟨w', hw', rfl | rfl⟩
    · rw [show "script".toList = ['s', 'c', 'r', 'i', 'p', 't'] by decide +kernel] at hw'
      cases hw' with
      | @cons _ d _ w' hd hw' =>
        obtain ⟨rfl, -⟩ := List.cons_prefix_cons.1 (List.cons_prefix_cons.1 hp).2
        have hs : d.toLower = 's' ∨ d = '\u017F' := by simpa [foldsTo] using hd
        rcases hs with hs | rfl
        · rw [hl] at hs
          cases hs
        · exact absurd hl (by decide)
    · obtain ⟨rfl, -⟩ := List.cons_prefix_cons.1 (List.cons_prefix_cons.1 hp).2
      exact absurd hl (by decide)

theorem isPatch_linkTag {e e' : NameEnd} {s : List Char} {o : Reading (List Char)}
    (h : openTag? e' "link".toList s = some o) (hv : '<' ∉ o.value) : IsPatch e "script".toList o.text := by
  obtain ⟨w, hw, -, -, ht, -⟩ := openTag?_eq_some_iff.1 h
  rw [ht, ← List.cons_append]
  refine isPatch_of_not_mentionsTag hasNoAngle_script ?_
  rintro ⟨x, hx, hi⟩
  rw [List.cons_append, List.append_assoc] at hi
  rcases List.infix_cons_iff.1 hi with hp | hi
  · exact not_isTagStart_of_spells hw hp hx
  · have hlt : '<' ∉ w ++ (o.value ++ ['>']) := by simp [hw.lt_notMem hasNoAngle_link, hv]
    exact not_mentionsTag_of_notMem hlt ⟨x, hx, hi⟩

theorem toList_styleElement (f : File) : (styleElement f).toList =
    "<style>".toList ++ '\n' :: ("/*".toList ++ ' ' :: (f.path.toList ++ ' ' :: ("*/".toList ++
      '\n' :: (f.content.toList ++ '\n' :: "</style>".toList)))) := by
  simp [styleElement]

theorem isPatch_styleElement {e : NameEnd} {f : File} (h : ¬ Mentions "script" f) :
    IsPatch e "script".toList (styleElement f).toList := by
  have hm : ¬ MentionsTag "script".toList (styleElement f).toList := by
    have hb : Parts "script".toList ' ' := by decide +kernel
    have hn : Parts "script".toList '\n' := by decide +kernel
    rw [toList_styleElement]
    intro hm
    rcases mentionsTag_append_cons hn hm with hm | hm
    · exact absurd hm (by decide +kernel)
    rcases mentionsTag_append_cons hb hm with hm | hm
    · exact absurd hm (by decide +kernel)
    rcases mentionsTag_append_cons hb hm with hm | hm
    · exact h (.inl hm)
    rcases mentionsTag_append_cons hn hm with hm | hm
    · exact absurd hm (by decide +kernel)
    rcases mentionsTag_append_cons hn hm with hm | hm
    · exact h (.inr hm)
    · exact absurd hm (by decide +kernel)
  have hu : ∃ u, (styleElement f).toList = '<' :: u ++ ['>'] := by
    refine ⟨"style>".toList ++ '\n' :: ("/*".toList ++ ' ' :: (f.path.toList ++ ' ' :: ("*/".toList ++
      '\n' :: (f.content.toList ++ '\n' :: "</style".toList)))), ?_⟩
    rw [toList_styleElement]
    simp
  obtain ⟨u, hu⟩ := hu
  rw [hu] at hm ⊢
  exact isPatch_of_not_mentionsTag hasNoAngle_script hm

variable {F : FileSet} {s t u : List Char} {o : Reading (List Char)} {c : Char}

theorem sheetsIn_of_read (h : linkTags.read s = some o) :
    sheetsIn s = (ofLink? o.value).toList ++ sheetsIn o.rest := by
  rw [sheetsIn, Recogniser.findAll_of_read h, List.filterMap_cons]
  cases ofLink? o.value <;> rfl

theorem sheetsIn_cons_of_none (h : linkTags.read (c :: s) = none) : sheetsIn (c :: s) = sheetsIn s := by
  rw [sheetsIn, Recogniser.findAll_cons_of_none h]
  rfl

/-- Whether no sheet that a link of the text leads to mentions a script tag. -/
def SheetsQuiet (F : FileSet) (s : List Char) : Prop :=
  ∀ r ∈ sheetsIn s, ∀ f ∈ resolve? F r.locator, ¬ Mentions "script" f

instance (F : FileSet) (s : List Char) : Decidable (SheetsQuiet F s) :=
  inferInstanceAs (Decidable (∀ r ∈ sheetsIn s, ∀ f ∈ resolve? F r.locator, ¬ Mentions "script" f))

/-- A link that is written anew is a patch, or the text that it was. -/
theorem patched_writeLink (hp : Patched .word "script".toList s t)
    (ho : openTag? .word "link".toList u = some o) (hv : '<' ∉ o.value)
    (hF : ∀ r ∈ ofLink? o.value, ∀ f ∈ resolve? F r.locator, ¬ Mentions "script" f) :
    Patched .word "script".toList (o.text ++ s) ((writeLink F (.found o.text o.value)).text ++ t) := by
  simp only [writeLink]
  cases hr : ofLink? o.value with
  | none => exact hp.keep_append o.text
  | some r =>
    simp only [writeReference]
    cases hf : resolve? F r.locator with
    | none => exact hp.keep_append o.text
    | some f => exact .patch (isPatch_linkTag ho hv) (isPatch_styleElement (hF r hr f hf)) hp

/-- A text with its sheets put in differs from the text in patches only. -/
theorem patched_flatMap_writeLink (hs : Tidy .word "link".toList s) (hF : SheetsQuiet F s) :
    Patched .word "script".toList s ((linkTags.pieces s).flatMap fun q => (writeLink F q).text) := by
  induction hn : s.length using Nat.strongRecOn generalizing s with
  | ind n ih =>
    cases hr : linkTags.read s with
    | some o =>
      have happ := linkTags.append_of_read hr
      rw [SheetsQuiet, sheetsIn_of_read hr] at hF
      have hrest := ih _ (hn ▸ linkTags.length_rest_lt hr) (hs.of_suffix ⟨o.text, happ⟩)
        (fun r hm => hF r (List.mem_append_right _ hm)) rfl
      have hp := patched_writeLink hrest hr (hs s (List.suffix_refl s) o hr)
        fun r hm => hF r (List.mem_append_left _ (Option.mem_toList.2 hm))
      rw [linkTags.pieces_of_read hr, List.flatMap_cons]
      rwa [happ] at hp
    | none =>
      cases s with
      | nil =>
        rw [linkTags.pieces_nil]
        exact .nil
      | cons c s =>
        rw [SheetsQuiet, sheetsIn_cons_of_none hr] at hF
        rw [linkTags.pieces_cons_of_none hr]
        exact .keep c (ih s.length (by rw [← hn]; exact Nat.lt_succ_self _)
          (hs.of_suffix (List.suffix_cons c s)) hF rfl)

theorem toList_styled (F : FileSet) (markup : String) :
    (styled F markup).toList = (linkTags.pieces markup.toList).flatMap fun q => (writeLink F q).text := by
  rw [styled, inlineStyles, Inlined.ofParts, String.toList_ofList, List.flatMap_map]

theorem scriptsIn_eq (s : List Char) : scriptsIn s = ((scriptElements.findAll s).map Element.attrs).filterMap
    fun attrs => (Attribute.lookup? attrs "src").map fun l => ⟨.script, String.ofList l⟩ := by
  rw [List.filterMap_map]
  rfl

/-- Sheets that mention no script tag leave the references to scripts alone. -/
theorem scriptsIn_styled {markup : String} (hl : Tidy .word "link".toList markup.toList)
    (hs : Tidy .word "script".toList markup.toList) (hF : SheetsQuiet F markup.toList) :
    scriptsIn (styled F markup).toList = scriptsIn markup.toList := by
  have hp := patched_flatMap_writeLink hl hF
  rw [toList_styled, scriptsIn_eq, scriptsIn_eq]
  exact congrArg _ (hp.map_attrs_findAll hasNoAngle_script hs).symm

end PageBundle.Asset
