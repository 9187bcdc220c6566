import PageBundle.Markup.Section
import PageBundle.Proofs.Markup.Local
import PageBundle.Proofs.Text.First

/-! What a section of a page is. A section tag is its name in any letter case between its angle brackets; the section is
the text from the end of the first opening tag to the first closing tag from there on. A later opening tag never comes
into it: what closes it also closes the first one. -/

namespace PageBundle.Text

variable {name w : List Char} {l c : Char}

theorem foldsTo_iff (hk : l ≠ 'k') (hs : l ≠ 's') : foldsTo l c = true ↔ c.toLower = l := by simp [foldsTo, hk, hs]

/-- A name without `k` and `s` is spelled by its own letters alone, whatever their case. -/
theorem spells_iff_lower (hk : 'k' ∉ name) (hs : 's' ∉ name) : Spells name w ↔ lower w = name := by
  induction name generalizing w with
  | nil => simp [Spells, lower]
  | cons l name ih =>
    simp only [List.mem_cons, not_or] at hk hs
    cases w with
    | nil => simp [Spells, lower]
    | cons c w =>
      have := ih (w := w) hk.2 hs.2
      simp only [Spells, lower] at this
      simp only [Spells, lower, List.forall₂_cons, foldsTo_iff (Ne.symm hk.1) (Ne.symm hs.1), this, List.map_cons,
        List.cons.injEq]

end PageBundle.Text

namespace PageBundle.Markup

open Text

variable {t : Section} {page body s o c : List Char} {i j k : Nat}

/-- An opening tag of a name: the name as it may be spelled, where it ends any text, and `>`. -/
def IsStartTag (e : NameEnd) (name o : List Char) : Prop :=
  ∃ w attrs, Spells name w ∧ '>' ∉ attrs ∧ e.holds (attrs ++ ['>']) = true ∧ o = '<' :: (w ++ attrs ++ ['>'])

/-- An opening tag is read exactly where one stands. -/
theorem accepts_startTag (e : NameEnd) (name : List Char) : Accepts (openTag? e name) (IsStartTag e name) where
  sound := by
    intro s r h
    obtain ⟨w, hw, hgt, hend, ht, hs⟩ := openTag?_eq_some_iff.1 h
    exact ⟨⟨w, r.value, hw, hgt, hend, ht⟩, hs⟩
  complete := by
    intro o u h
    obtain ⟨w, attrs, hw, hgt, hend, rfl⟩ := h
    exact ⟨attrs, openTag?_eq_some_iff.2 ⟨w, hw, hgt, hend, rfl, rfl⟩⟩

/-- A closing tag of a name: the name as it may be spelled, blanks, and `>`. -/
def IsEndTag (name c : List Char) : Prop :=
  ∃ w blanks, Spells name w ∧ (∀ b ∈ blanks, isBlank b = true) ∧ c = '<' :: '/' :: (w ++ blanks ++ ['>'])

/-- A closing tag is read exactly where one stands. -/
theorem accepts_endTag (name : List Char) : Accepts (closeTag? name) (IsEndTag name) where
  sound := by
    intro s r h
    obtain ⟨w, b, hw, hb, ht, hs⟩ := closeTag?_eq_some_iff.1 h
    exact ⟨⟨w, b, hw, hb, ht⟩, hs⟩
  complete := by
    intro c u h
    obtain ⟨w, b, hw, hb, rfl⟩ := h
    exact ⟨(), closeTag?_eq_some_iff.2 ⟨w, b, hw, hb, rfl, rfl⟩⟩

/-- An opening tag of a section: the name in any letter case, nothing or a blank with any text after it, and `>`. -/
def Section.IsOpening (t : Section) (o : List Char) : Prop :=
  ∃ w attrs, lower w = t.name.toList ∧ (∀ c, attrs.head? = some c → isBlank c = true) ∧ '>' ∉ attrs ∧
    o = '<' :: (w ++ attrs ++ ['>'])

/-- A closing tag of a section: the name in any letter case, blanks, and `>`. -/
def Section.IsClosing (t : Section) (c : List Char) : Prop :=
  ∃ w blanks, lower w = t.name.toList ∧ (∀ b ∈ blanks, isBlank b = true) ∧ c = '<' :: '/' :: (w ++ blanks ++ ['>'])

theorem Section.hasNoAngle (t : Section) : HasNoAngle t.name.toList := by cases t <;> decide +kernel

theorem Section.spells_iff (t : Section) {w : List Char} : Spells t.name.toList w ↔ lower w = t.name.toList := by
  apply spells_iff_lower <;> cases t <;> decide +kernel

theorem holds_blank_iff {attrs : List Char} :
    NameEnd.blank.holds (attrs ++ ['>']) = true ↔ ∀ c, attrs.head? = some c → c = '>' ∨ isBlank c = true := by
  cases attrs <;> simp [NameEnd.holds]

theorem Section.isOpening_iff (t : Section) : t.IsOpening o ↔ IsStartTag .blank t.name.toList o := by
  constructor
  · intro h
    obtain ⟨w, attrs, hw, hblank, hgt, ho⟩ := h
    exact ⟨w, attrs, t.spells_iff.2 hw, hgt, holds_blank_iff.2 fun c hc => .inr (hblank c hc), ho⟩
  · intro h
    obtain ⟨w, attrs, hw, hgt, hend, ho⟩ := h
    refine ⟨w, attrs, t.spells_iff.1 hw, fun c hc => ?_, hgt, ho⟩
    rcases holds_blank_iff.1 hend c hc with rfl | hb
    · exact absurd (List.mem_of_mem_head? hc) hgt
    · exact hb

theorem accepts_opening (t : Section) : Accepts (openTag? .blank t.name.toList) t.IsOpening :=
  (accepts_startTag _ _).congr fun _ => t.isOpening_iff

theorem Section.isClosing_iff (t : Section) : t.IsClosing c ↔ IsEndTag t.name.toList c := by
  simp only [Section.IsClosing, IsEndTag, t.spells_iff]

theorem accepts_closing (t : Section) : Accepts (closeTag? t.name.toList) t.IsClosing :=
  (accepts_endTag _).congr fun _ => t.isClosing_iff

theorem Section.not_isClosing_nil (t : Section) : ¬ t.IsClosing [] := by simp [Section.IsClosing]

theorem Section.not_isOpening_nil (t : Section) : ¬ t.IsOpening [] := by simp [Section.IsOpening]

/-- Where an element is found, its opening tag is the first one of the page. -/
theorem isFirst_opening {r : Reading Element} (hr : element? .blank t.name.toList (page.drop i) = some r)
    (hleast : ∀ j, j < i → element? .blank t.name.toList (page.drop j) = none)
    (ho : StandsAt t.IsOpening page i o) : IsFirst t.IsOpening page 0 i o := by
  refine ⟨Nat.zero_le i, ho, fun j _ hj v hv => ?_⟩
  obtain ⟨attrs, hopen⟩ := (accepts_opening t).exists_eq_some hv
  have hclose : breakAt (closeTag? t.name.toList) (page.drop (j + v.length)) = none := by
    cases hb : breakAt (closeTag? t.name.toList) (page.drop (j + v.length)) with
    | none => rfl
    | some p =>
      have := element?_of_breakAt hopen hb
      rw [hleast j hj] at this
      cases this
  have hsuffix : page.drop i <:+ page.drop j := List.drop_suffix_drop_left page (Nat.le_of_lt hj)
  have := element?_of_isUnclosedElement (isUnclosedElement_of_openTag? t.hasNoAngle hopen hclose) hsuffix
  rw [hr] at this
  cases this

/-- A section is the text between the first opening tag and the first closing tag from its end on. -/
theorem section?_eq_some_iff : section? t page = some body ↔ ∃ i o j c, IsFirst t.IsOpening page 0 i o ∧
    IsFirst t.IsClosing page (i + o.length) j c ∧ body = page.extract (i + o.length) j := by
  rw [section?, Recogniser.first?_eq_breakAt]
  constructor
  · intro h
    obtain ⟨⟨before, r⟩, hf, rfl⟩ := Option.map_eq_some_iff.1 h
    obtain ⟨i, -, -, hr, hleast⟩ := breakAt_eq_some_iff_drop.1 hf
    obtain ⟨o, c, ho, hb, -⟩ := element?_eq_some_iff.1 hr
    obtain ⟨hstands, hrest⟩ := (accepts_opening t).standsAt ho
    rw [hrest] at hb
    obtain ⟨j, hj, hbody⟩ := ((accepts_closing t).breakAt_drop t.not_isClosing_nil).1 ⟨c, hb, rfl⟩
    exact ⟨i, o.text, j, c.text, isFirst_opening hr hleast hstands, hj, hbody⟩
  · intro h
    obtain ⟨i, o, j, c, ho, hc, rfl⟩ := h
    obtain ⟨attrs, hopen⟩ := (accepts_opening t).exists_eq_some ho.stands
    obtain ⟨cl, hclose, -⟩ := ((accepts_closing t).breakAt_drop t.not_isClosing_nil).2 ⟨j, hc, rfl⟩
    have hr := element?_of_breakAt hopen hclose
    have hlen : i ≤ page.length := by
      have hpos := List.length_pos_iff.2 fun he => t.not_isOpening_nil (he ▸ ho.stands.1)
      have := ho.stands.2.length_le
      simp only [List.length_drop] at this
      omega
    have hleast : ∀ j, j < i → element? .blank t.name.toList (page.drop j) = none := by
      intro j hj
      have hnone := (accepts_opening t).eq_none_iff.2 (ho.least j (Nat.zero_le j) hj)
      rw [element?, hnone]
      rfl
    have hbreak := breakAt_eq_some_iff_drop.2 ⟨i, hlen, rfl, hr, hleast⟩
    exact Option.map_eq_some_iff.2 ⟨_, hbreak, rfl⟩

/-- A section is found exactly if a closing tag stands behind its first opening tag. -/
theorem section?_isSome_iff : (section? t page).isSome = true ↔ ∃ i o, IsFirst t.IsOpening page 0 i o ∧
    ∃ j c, i + o.length ≤ j ∧ StandsAt t.IsClosing page j c := by
  rw [Option.isSome_iff_exists]
  constructor
  · intro h
    obtain ⟨body, h⟩ := h
    obtain ⟨i, o, j, c, ho, hc, -⟩ := section?_eq_some_iff.1 h
    exact ⟨i, o, ho, j, c, hc.le, hc.stands⟩
  · intro h
    obtain ⟨i, o, ho, j, c, hj, hc⟩ := h
    obtain ⟨j', c', hc'⟩ := exists_isFirst hj hc
    exact ⟨_, section?_eq_some_iff.2 ⟨i, o, j', c', ho, hc', rfl⟩⟩

/-- A section holds no closing tag of its own and is followed by one. -/
theorem section?_bounds (h : section? t page = some body) :
    (∀ c, t.IsClosing c → ¬ c <:+: body) ∧ ∃ c, t.IsClosing c ∧ body ++ c <:+: page := by
  obtain ⟨i, o, j, c, -, hc, rfl⟩ := section?_eq_some_iff.1 h
  constructor
  · intro v hv hi
    obtain ⟨k, hk, hkj, hstands⟩ := standsAt_of_infix hv (fun he => t.not_isClosing_nil (he ▸ hv)) hi
    exact hc.least k hk hkj v hstands
  · obtain ⟨hp, u, hu⟩ := hc.stands
    refine ⟨c, hp, page.take (i + o.length), u, ?_⟩
    rw [List.append_assoc, List.append_assoc, hu, extract_append_drop hc.le, List.take_append_drop]

/-- Extraction is exact. A section is there exactly if a closing tag stands at the end of the first opening tag or after it,
and then it is the text between the first opening tag and the first closing tag from there on. It holds no closing tag and
one follows it. -/
theorem extractSection?_exact (page : String) (t : Section) :
    ((extractSection? page t).isSome = true ↔ ∃ i o, IsFirst t.IsOpening page.toList 0 i o ∧
      ∃ j c, i + o.length ≤ j ∧ StandsAt t.IsClosing page.toList j c) ∧
    ∀ body,
      (extractSection? page t = some body ↔ ∃ i o j c, IsFirst t.IsOpening page.toList 0 i o ∧
        IsFirst t.IsClosing page.toList (i + o.length) j c ∧ body.toList = page.toList.extract (i + o.length) j) ∧
      (extractSection? page t = some body → (∀ c, t.IsClosing c → ¬ c <:+: body.toList) ∧
        ∃ c, t.IsClosing c ∧ body.toList ++ c <:+: page.toList) := by
  have hsome : ∀ body, extractSection? page t = some body ↔ section? t page.toList = some body.toList := by
    intro body
    rw [extractSection?, Option.map_eq_some_iff]
    constructor
    · intro h
      obtain ⟨b, hb, rfl⟩ := h
      rw [hb, String.toList_ofList]
    · intro h
      exact ⟨body.toList, h, String.ofList_toList⟩
  refine ⟨?_, fun body => ⟨?_, fun h => section?_bounds ((hsome body).1 h)⟩⟩
  · rw [extractSection?, Option.isSome_map, section?_isSome_iff]
  · rw [hsome, section?_eq_some_iff]

/-- A page with the beginnings of two tags in front of its head and in it. -/
def tornPage : String := "<header><head<HEAD\n>a</head<b></Head ></head>"

theorem extractSection?_exact_tornPage : extractSection? tornPage .head = some "a</head<b>" ∧
    ∀ c, Section.head.IsClosing c → ¬ c <:+: "a</head<b>".toList := by
  have h : extractSection? tornPage .head = some "a</head<b>" := by decide +kernel
  exact ⟨h, (((extractSection?_exact tornPage .head).2 "a</head<b>").2 h).1⟩

end PageBundle.Markup
