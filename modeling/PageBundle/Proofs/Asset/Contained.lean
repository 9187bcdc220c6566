import PageBundle.Proofs.Asset.Fragment
import PageBundle.Proofs.Markup.Closing

/-! The element of a script that was put in, as the search for scripts finds it. It ends at the first closing tag of a
script, wherever this comes from: the content is not altered, so it can end the element itself, and what follows is markup.
The type is taken from a tag, so it cannot end the opening tag. -/

namespace PageBundle.Attribute

open Text

variable {q c : Char} {s v attrs : List Char} {name : String}

/-! ## Values stand in their tag -/

theorem subset_of_quotedValue? {r : Reading (List Char)} (h : quotedValue? q s = some r) : r.value ⊆ s := by
  unfold quotedValue? at h
  split at h
  · cases h
  · cases h
    exact (List.takeWhile_sublist _).subset

theorem subset_of_plainValue? {r : Reading (List Char)} (h : plainValue? s = some r) : r.value ⊆ s := by
  unfold plainValue? at h
  split at h
  · obtain ⟨v, hv, rfl⟩ := Option.map_eq_some_iff.1 h
    exact fun c hc => List.mem_cons_of_mem _ (subset_of_quotedValue? hv hc)
  · obtain ⟨v, hv, rfl⟩ := Option.map_eq_some_iff.1 h
    exact fun c hc => List.mem_cons_of_mem _ (subset_of_quotedValue? hv hc)
  · simp only at h
    split at h
    · cases h
    · cases h
      exact (List.takeWhile_sublist _).subset

theorem subset_of_value? {r : Reading (List Char)} (h : value? s = some r) : r.value ⊆ s := by
  unfold value? at h
  split at h
  · rename_i t hd
    obtain ⟨v, hv, rfl⟩ := Option.map_eq_some_iff.1 h
    intro c hc
    have hrest : c ∈ t := (List.dropWhile_sublist _).subset (subset_of_plainValue? hv hc)
    have hall : c ∈ s.dropWhile isBlank := hd ▸ List.mem_cons_of_mem '=' hrest
    exact (List.dropWhile_sublist _).subset hall
  · cases h

theorem subset_of_read? {r : Reading Attribute} (h : read? s = some r) : r.value.value ⊆ s := by
  simp only [read?] at h
  split at h
  · cases h
  · split at h
    · rename_i v hv
      cases h
      exact fun c hc => (List.dropWhile_sublist _).subset (subset_of_value? hv hc)
    · cases h
      exact List.nil_subset _

/-- The value of an attribute is made of characters of the tag. -/
theorem subset_of_lookup? (h : lookup? attrs name = some v) : v ⊆ attrs := by
  obtain ⟨a, ha, rfl⟩ := Option.map_eq_some_iff.1 h
  obtain ⟨t, r, ht, hr, rfl⟩ := Recogniser.exists_read_of_mem_findAll (List.mem_of_find?_eq_some ha)
  exact fun c hc => ht.subset (subset_of_read? hr hc)

/-- An attribute in double quotes, if nothing else is in the tag. -/
theorem findAll_quoted {n : List Char} (hne : n ≠ []) (hn : ∀ c ∈ n, isNameChar c = true) (hv : '"' ∉ v) :
    all.findAll (' ' :: (n ++ ('=' :: '"' :: (v ++ ['"'])))) = [⟨n, v⟩] := by
  have hgap : ∀ c ∈ [' '], isBlank c = true := by simp [isBlank]
  have hread : all.read (n ++ ('=' :: '"' :: (v ++ ['"']))) = some ⟨⟨n, v⟩, n ++ ('=' :: '"' :: (v ++ ['"'])), []⟩ := by
    have hend : ∀ c, ('=' :: '"' :: (v ++ ['"'])).head? = some c → isNameChar c = false := by
      intro c hc
      cases hc
      decide
    have hvalue := value?_quoted (s := []) (.inl rfl) hv
    rw [List.append_nil] at hvalue
    change read? _ = _
    have hempty : n.isEmpty = false := by simpa using hne
    rw [read?, takeWhile_append_eq hn hend, dropWhile_append_eq hn hend, hempty, hvalue]
    rfl
  rw [← List.singleton_append, findAll_gap hgap, Recogniser.findAll_of_read hread, Recogniser.findAll_nil]

end PageBundle.Attribute

namespace PageBundle.Asset

open Text Markup

variable {f : File} {type? : Option (List Char)} {c : List Char}

/-! ## The element of a file -/

def typeAttrs : Option (List Char) → List Char
  | some (c :: t) => ' ' :: ("type".toList ++ ('=' :: '"' :: (c :: t ++ ['"'])))
  | _ => []

/-- What stands in the element of a file. -/
def scriptBody (f : File) : List Char := ("\n// " ++ f.path ++ "\n" ++ f.content ++ "\n").toList

/-- The element of a file is an opening tag, its content behind a line with its path, and a closing tag. -/
theorem toList_scriptElement (f : File) (type? : Option (List Char)) : (scriptElement f type?).toList =
    opening "script".toList (typeAttrs type?) ++ (scriptBody f ++ closing "script".toList) := by
  have hbody : ∀ tag : String, (tag ++ "\n// " ++ f.path ++ "\n" ++ f.content ++ "\n</script>").toList =
      tag.toList ++ (scriptBody f ++ closing "script".toList) := by
    intro tag
    simp [scriptBody, closing]
  have hplain : "<script>".toList = opening "script".toList [] := by simp [opening]
  cases type? with
  | none =>
    change _ = opening "script".toList [] ++ _
    rw [← hplain]
    exact hbody _
  | some t =>
    cases t with
    | nil =>
      change _ = opening "script".toList [] ++ _
      rw [← hplain]
      exact hbody _
    | cons c t =>
      have htyped : ("<script type=\"" ++ String.ofList (c :: t) ++ "\">").toList =
          opening "script".toList (typeAttrs (some (c :: t))) := by simp [opening, typeAttrs]
      rw [← htyped]
      exact hbody _

theorem gt_notMem_typeAttrs (h : ∀ v, type? = some v → '>' ∉ v) : '>' ∉ typeAttrs type? := by
  unfold typeAttrs
  split
  · rename_i c t
    have htype : '>' ∉ "type".toList := by decide +kernel
    have hv : '>' ∉ c :: t := h (c :: t) rfl
    simp only [List.mem_cons, List.mem_append, List.not_mem_nil, or_false, not_or] at hv ⊢
    exact ⟨by decide, htype, by decide, by decide, hv, by decide⟩
  · exact List.not_mem_nil

theorem holds_typeAttrs (type? : Option (List Char)) : NameEnd.word.holds (typeAttrs type? ++ ['>']) = true := by
  unfold typeAttrs
  split <;> rfl

/-- The element has no attribute but the type that was given. -/
theorem name_eq_of_mem_typeAttrs {a : Attribute} (h : ∀ v, type? = some v → '"' ∉ v)
    (ha : a ∈ Attribute.all.findAll (typeAttrs type?)) : a.name = "type".toList := by
  unfold typeAttrs at ha
  split at ha
  · rename_i c t
    have hname : "type".toList.all Attribute.isNameChar = true := by decide +kernel
    rw [Attribute.findAll_quoted (by simp) (List.all_eq_true.1 hname) (h _ rfl)] at ha
    rw [List.mem_singleton.1 ha]
  · rw [Recogniser.findAll_nil] at ha
    cases ha

/-! ## Reading it -/

/-- A closing tag in the element of a file comes from the path and the content of the file. -/
theorem hasEndTag_scriptBody_iff {name : List Char} :
    HasEndTag name (scriptBody f) ↔ HasEndTag name (f.path ++ "\n" ++ f.content).toList := by
  have hbody : scriptBody f = "\n// ".toList ++ ((f.path ++ "\n" ++ f.content).toList ++ ['\n']) := by simp [scriptBody]
  have hfront : "\n// ".toList = ['\n', '/', '/', ' '] := by decide
  rw [hbody, hfront]
  constructor
  · intro h
    obtain ⟨c, hc, h⟩ := h
    refine ⟨c, hc, ?_⟩
    -- the tag begins with `<` and ends with `>`, so it takes nothing from what is around
    have hback : c <:+: (f.path ++ "\n" ++ f.content).toList ++ ['\n'] := by
      obtain ⟨v, rfl⟩ := hc.exists_cons
      simpa [List.infix_cons_iff] using h
    rcases List.infix_concat_iff.1 hback with ⟨u, hu⟩ | hi
    · obtain ⟨v, rfl⟩ := hc.exists_concat
      rw [← List.append_assoc] at hu
      cases (List.append_inj' hu rfl).2
    · exact hi
  · intro h
    obtain ⟨c, hc, h⟩ := h
    exact ⟨c, hc, h.trans ⟨_, ['\n'], List.append_assoc _ _ _⟩⟩

/-- The first closing tag ends the element. -/
theorem pieces_scriptElement (h : ∀ v, type? = some v → '>' ∉ v) : ∃ b r,
    breakAt (closeTag? "script".toList) (scriptBody f ++ closing "script".toList) = some (b, r) ∧
    scriptElements.pieces (scriptElement f type?).toList =
      .found (opening "script".toList (typeAttrs type?) ++ b ++ r.text) ⟨typeAttrs type?, b⟩ ::
        scriptElements.pieces r.rest := by
  have hopen := openTag?_opening (x := scriptBody f ++ closing "script".toList) spells_script (gt_notMem_typeAttrs h)
    (holds_typeAttrs type?)
  cases hb : breakAt (closeTag? "script".toList) (scriptBody f ++ closing "script".toList) with
  | none =>
    have hnone := breakAt_eq_none_of_suffix hb (List.suffix_append (scriptBody f) _)
    have hlast := breakAt_closeTag?_of_notMem (b := []) List.not_mem_nil (closeTag?_closing spells_script)
    rw [List.nil_append, hnone] at hlast
    cases hlast
  | some p =>
    obtain ⟨b, r⟩ := p
    have hread : scriptElements.read (scriptElement f type?).toList =
        some ⟨⟨typeAttrs type?, b⟩, opening "script".toList (typeAttrs type?) ++ b ++ r.text, r.rest⟩ := by
      rw [toList_scriptElement]
      exact element?_of_breakAt hopen hb
    exact ⟨b, r, rfl, scriptElements.pieces_of_read hread⟩

/-- A type that is taken from a script tag cannot end a tag. -/
theorem gt_notMem_type {page : String} {e : Element} (he : e ∈ scriptElements.findAll page.toList) :
    ∀ v, Attribute.lookup? e.attrs "type" = some v → '>' ∉ v := by
  intro v hv hgt
  obtain ⟨t, r, -, hr, rfl⟩ := Recogniser.exists_read_of_mem_findAll he
  obtain ⟨o, c, ho, -, hattrs, -⟩ := element?_eq_some_iff.1 hr
  obtain ⟨w, -, ho, -⟩ := openTag?_eq_some_iff.1 ho
  exact ho (hattrs ▸ Attribute.subset_of_lookup? hv hgt)

theorem lookup?_typeAttrs_src (h : ∀ v, type? = some v → '"' ∉ v) : Attribute.lookup? (typeAttrs type?) "src" = none := by
  have hsrc : eqIgnoringCase "type".toList "src".toList = false := by decide +kernel
  rw [Attribute.lookup?, Option.map_eq_none_iff, List.find?_eq_none]
  intro a ha
  rw [name_eq_of_mem_typeAttrs h ha, hsrc]
  exact Bool.false_ne_true

/-- The search for scripts finds in the element that replaces a script one element, which is all of it and holds the path and
the content of the file, exactly if no closing script tag stands in these. It has no `src` if the type has no double quote.
In any case the first element has the given tag and ends at the first closing tag, and the search goes on behind that. -/
theorem scriptElement_contained {page : String} {e : Element} (he : e ∈ scriptElements.findAll page.toList)
    {type? : Option (List Char)} (ht : Attribute.lookup? e.attrs "type" = type?) (f : File) :
    (scriptElements.pieces (scriptElement f type?).toList =
        [.found (scriptElement f type?).toList
          ⟨typeAttrs type?, ("\n// " ++ f.path ++ "\n" ++ f.content ++ "\n").toList⟩] ↔
      ¬ HasEndTag "script".toList (f.path ++ "\n" ++ f.content).toList) ∧
    ((∀ v, type? = some v → '"' ∉ v) → Attribute.lookup? (typeAttrs type?) "src" = none) ∧
    ∃ i c, IsFirst (IsEndTag "script".toList) (scriptBody f ++ closing "script".toList) 0 i c ∧
      scriptElements.pieces (scriptElement f type?).toList =
        .found (opening "script".toList (typeAttrs type?) ++ (scriptBody f ++ closing "script".toList).take i ++ c)
            ⟨typeAttrs type?, (scriptBody f ++ closing "script".toList).take i⟩ ::
          scriptElements.pieces ((scriptBody f ++ closing "script".toList).drop (i + c.length)) := by
  obtain ⟨b, r, hb, hp⟩ := pieces_scriptElement (f := f) (ht ▸ gt_notMem_type he)
  refine ⟨⟨fun h => ?_, fun h => ?_⟩, lookup?_typeAttrs_src, ?_⟩
  · rw [hp] at h
    have hbody : b = scriptBody f := congrArg Element.body (Piece.found.inj (List.cons.inj h).1).2
    rw [← hasEndTag_scriptBody_iff]
    exact not_hasEndTag_of_breakAt (hbody ▸ hb)
  · rw [breakAt_closing spells_script hasNoAngle_script (mt hasEndTag_scriptBody_iff.1 h)] at hb
    cases hb
    rw [hp, scriptElements.pieces_nil, toList_scriptElement, List.append_assoc]
    rfl
  · obtain ⟨i, -, rfl, hr, hleast⟩ := breakAt_eq_some_iff_drop.1 hb
    obtain ⟨hstands, hrest⟩ := (accepts_endTag _).standsAt hr
    refine ⟨i, r.text, ⟨Nat.zero_le i, hstands, fun j _ hj => (accepts_endTag _).eq_none_iff.1 (hleast j hj)⟩, ?_⟩
    rw [← hrest]
    exact hp

def modulePage : String := "<p>a</p><script type=module src=app.js></script>"

/-- Its file, which has what only looks like a closing tag. -/
def moduleFile : File := ⟨"app.js", "a('</scripts>')"⟩

theorem scriptElement_contained_modulePage : ∃ e ∈ scriptElements.findAll modulePage.toList,
    Attribute.lookup? e.attrs "type" = some "module".toList ∧
    ¬ HasEndTag "script".toList (moduleFile.path ++ "\n" ++ moduleFile.content).toList ∧
    scriptElements.pieces (scriptElement moduleFile (some "module".toList)).toList =
      [.found (scriptElement moduleFile (some "module".toList)).toList
        ⟨" type=\"module\"".toList, "\n// app.js\na('</scripts>')\n".toList⟩] ∧
    Attribute.lookup? " type=\"module\"".toList "src" = none := by
  have hfound : ∃ e ∈ scriptElements.findAll modulePage.toList,
      Attribute.lookup? e.attrs "type" = some "module".toList := by decide +kernel
  obtain ⟨e, he, ht⟩ := hfound
  obtain ⟨hone, hsrc, -⟩ := scriptElement_contained he ht moduleFile
  have hend : ¬ HasEndTag "script".toList (moduleFile.path ++ "\n" ++ moduleFile.content).toList := by decide +kernel
  have hattrs : typeAttrs (some "module".toList) = " type=\"module\"".toList := by decide +kernel
  have hbody : ("\n// " ++ moduleFile.path ++ "\n" ++ moduleFile.content ++ "\n").toList =
      "\n// app.js\na('</scripts>')\n".toList := by decide +kernel
  have hquote : ∀ v, some "module".toList = some v → '"' ∉ v := by
    intro v hv
    cases hv
    decide +kernel
  have hpieces := hone.2 hend
  rw [hattrs, hbody] at hpieces
  rw [hattrs] at hsrc
  exact ⟨e, he, ht, hend, hpieces, hsrc hquote⟩

/-- A script whose content closes its element, and one whose type in single quotes closes the quotes that it is put in. Both
blocks have a reference to a script in them. -/
theorem scriptElement_not_contained :
    (∃ e ∈ scriptElements.findAll "<script src=a.js></script>".toList,
      references (scriptElement ⟨"a.js", "</script><script src=b.js></script>"⟩ (Attribute.lookup? e.attrs "type")) =
        [⟨.script, "b.js"⟩]) ∧
    ∃ e ∈ scriptElements.findAll "<script src=a.js type='\" src=\"b.js'></script>".toList,
      references (scriptElement ⟨"a.js", "go()"⟩ (Attribute.lookup? e.attrs "type")) = [⟨.script, "b.js"⟩] := by
  decide +kernel

end PageBundle.Asset
