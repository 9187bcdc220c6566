import PageBundle.Proofs.Markup.Shape
import PageBundle.Proofs.Text.Cut

/-! Tags and elements are told by their own characters. An opening tag ends at its first `>` and an element at
its first closing tag, so a part of a page that has lost the end of one has no later one either. The scan for
opening tags always stops after a `>`, which only the end of a tag can be. -/

namespace PageBundle.Markup

open Text

variable {e : NameEnd} {name s u : List Char}

/-! ## Opening tags -/

theorem openTag?_append {o : Reading (List Char)} (h : openTag? e name s = some o) :
    openTag? e name (s ++ u) = some { o with rest := o.rest ++ u } := by
  obtain ⟨w, hw, hm, he, ht, rfl⟩ := openTag?_eq_some_iff.1 h
  exact openTag?_eq_some_iff.2 ⟨w, hw, hm, he, ht, List.append_assoc _ _ _⟩

/-- A tag in front of more text lies before the first `>` of the part, if the part has one. -/
theorem openTag?_of_append {o : Reading (List Char)} (hn : HasNoAngle name)
    (h : openTag? e name (s ++ u) = some o) (hs : '>' ∈ s) : (openTag? e name s).isSome = true := by
  obtain ⟨w, hw, hm, he, ht, happ⟩ := openTag?_eq_some_iff.1 h
  obtain ⟨a, r, rfl, ha⟩ := List.eq_append_cons_of_mem hs
  have hx : '>' ∉ '<' :: (w ++ o.value) := by
    intro hx
    rcases List.mem_cons.1 hx with hx | hx
    · cases hx
    · exact (List.mem_append.1 hx).elim (hw.gt_notMem hn) hm
  -- both are the text before the first angle bracket that closes
  have hfirst : toAngle? (a ++ '>' :: (r ++ u)) = toAngle? ('<' :: (w ++ o.value) ++ '>' :: o.rest) := by
    rw [ht, List.append_assoc, List.cons_append] at happ
    simpa using congrArg toAngle? happ
  rw [toAngle?_eq_some_iff.2 ⟨ha, rfl⟩, toAngle?_eq_some_iff.2 ⟨hx, rfl⟩, Option.some.injEq, Prod.mk.injEq] at hfirst
  obtain ⟨rfl, -⟩ := hfirst
  rw [Option.isSome_iff_exists]
  exact ⟨⟨o.value, o.text, r⟩, openTag?_eq_some_iff.2 ⟨w, hw, hm, he, ht, by simp [ht]⟩⟩

theorem gt_mem_of_openTag? {o : Reading (List Char)} (h : openTag? e name s = some o) : '>' ∈ s := by
  by_contra hgt
  rw [openTag?_of_not_mem hgt] at h
  cases h

/-- An opening tag ends at the first `>`, whatever comes after it. -/
theorem openTags_endsAt (hn : HasNoAngle name) : (openTags e name).EndsAt '>' where
  extend := openTag?_append
  mem := gt_mem_of_openTag?
  isSome := openTag?_of_append hn

theorem openTags_local (hn : HasNoAngle name) : (openTags e name).Local := (openTags_endsAt hn).local

/-- No tag runs over the end of another. -/
theorem openTags_cutsAt (hn : HasNoAngle name) (x y : List Char) : (openTags e name).CutsAt (x ++ ['>']) y :=
  (openTags_endsAt hn).cutsAt x y

/-! ## Elements -/

theorem closeTag?_append {c : Reading Unit} (h : closeTag? name s = some c) :
    closeTag? name (s ++ u) = some { c with rest := c.rest ++ u } := by
  obtain ⟨w, b, hw, hb, ht, rfl⟩ := closeTag?_eq_some_iff.1 h
  exact closeTag?_eq_some_iff.2 ⟨w, b, hw, hb, ht, List.append_assoc _ _ _⟩

/-- A closing tag has no `<` but its first character, so it cannot run into another one. -/
theorem closeTag?_of_append {c : Reading Unit} (hn : HasNoAngle name) {v : List Char}
    (h : closeTag? name (s ++ '<' :: v) = some c) (hs : s ≠ []) : (closeTag? name s).isSome = true := by
  obtain ⟨w, b, hw, hb, ht, happ⟩ := closeTag?_eq_some_iff.1 h
  have htail : '<' ∉ '/' :: (w ++ b ++ ['>']) := by
    intro hm
    simp only [List.mem_cons, List.mem_append, List.not_mem_nil, or_false] at hm
    rcases hm with hm | (hm | hm) | hm
    · cases hm
    · exact hw.lt_notMem hn hm
    · exact absurd (hb _ hm) (by decide)
    · cases hm
  rw [ht] at happ
  rcases List.append_eq_append_iff.1 happ with ⟨v', hv, hrest⟩ | ⟨v', hv, -⟩
  · -- the tag would reach beyond `s`, up to the `<` at least
    cases v' with
    | nil =>
      rw [List.append_nil] at hv
      rw [Option.isSome_iff_exists]
      exact ⟨⟨(), s, []⟩, closeTag?_eq_some_iff.2 ⟨w, b, hw, hb, hv.symm, (List.append_nil _).symm⟩⟩
    | cons d v' =>
      cases s with
      | nil => exact absurd rfl hs
      | cons d' s =>
        obtain ⟨rfl, -⟩ := List.cons.inj hrest
        rw [List.cons_append, List.cons.injEq] at hv
        exact absurd (hv.2 ▸ List.mem_append_right s List.mem_cons_self) htail
  · rw [Option.isSome_iff_exists]
    exact ⟨⟨(), _, v'⟩, closeTag?_eq_some_iff.2 ⟨w, b, hw, hb, rfl, hv⟩⟩

/-- What is put after a text does not change where its first closing tag is. -/
theorem breakAt_closeTag?_append {b : List Char} {c : Reading Unit} (hn : HasNoAngle name)
    (h : breakAt (closeTag? name) s = some (b, c)) :
    breakAt (closeTag? name) (s ++ u) = some (b, { c with rest := c.rest ++ u }) := by
  induction s generalizing b with
  | nil => cases h
  | cons d s ih =>
    rw [breakAt_cons] at h
    rw [List.cons_append, breakAt_cons, ← List.cons_append]
    cases hd : closeTag? name (d :: s) with
    | some c' =>
      rw [hd] at h
      cases h
      rw [closeTag?_append hd]
    | none =>
      rw [hd] at h
      obtain ⟨⟨b', c'⟩, hb, he⟩ := Option.map_eq_some_iff.1 h
      cases he
      have hnone : closeTag? name (d :: s ++ u) = none := by
        cases hx : closeTag? name (d :: s ++ u) with
        | none => rfl
        | some x =>
          obtain ⟨r, rfl, hr⟩ := of_breakAt hb
          obtain ⟨w, bl, -, -, ht, rfl⟩ := closeTag?_eq_some_iff.1 hr
          rw [ht, List.append_assoc, ← List.cons_append, List.append_assoc] at hx
          obtain ⟨x', hx'⟩ := Option.isSome_iff_exists.1 (closeTag?_of_append hn hx (List.cons_ne_nil d b'))
          rw [← List.cons_append, closeTag?_append hx'] at hd
          cases hd
      rw [hnone, ih hb]
      rfl

/-- An element is an opening tag and all up to the first closing tag. -/
theorem element?_eq_some_iff {r : Reading Element} : element? e name s = some r ↔
    ∃ o c, openTag? e name s = some o ∧ breakAt (closeTag? name) o.rest = some (r.value.body, c) ∧
      r.value.attrs = o.value ∧ r.text = o.text ++ r.value.body ++ c.text ∧ r.rest = c.rest := by
  simp only [element?, Option.bind_eq_bind, Option.bind_eq_some_iff]
  constructor
  · rintro ⟨o, ho, ⟨body, c⟩, hb, h⟩
    cases h
    exact ⟨o, c, ho, hb, rfl, rfl, rfl⟩
  · rintro ⟨o, c, ho, hb, ha, ht, hr⟩
    obtain ⟨⟨attrs, body⟩, text, rest⟩ := r
    simp only at ha hb ht hr
    subst ha ht hr
    exact ⟨o, ho, (body, c), hb, rfl⟩

theorem element?_of_breakAt {o : Reading (List Char)} {b : List Char} {c : Reading Unit} (ho : openTag? e name s = some o)
    (hb : breakAt (closeTag? name) o.rest = some (b, c)) :
    element? e name s = some ⟨⟨o.value, b⟩, o.text ++ b ++ c.text, c.rest⟩ :=
  element?_eq_some_iff.2 ⟨o, c, ho, hb, rfl, rfl, rfl⟩

theorem element?_append {r : Reading Element} (hn : HasNoAngle name) (h : element? e name s = some r) :
    element? e name (s ++ u) = some { r with rest := r.rest ++ u } := by
  obtain ⟨o, c, ho, hb, ha, ht, hr⟩ := element?_eq_some_iff.1 h
  exact element?_eq_some_iff.2 ⟨_, _, openTag?_append ho, breakAt_closeTag?_append hn hb, ha, ht, by rw [hr]⟩

theorem isUnclosedElement_of_openTag? {o : Reading (List Char)} (hn : HasNoAngle name)
    (h : openTag? e name s = some o) (hb : breakAt (closeTag? name) o.rest = none) :
    isUnclosedElement e name s = true := by
  obtain ⟨w, hw, hm, he, ht, rfl⟩ := openTag?_eq_some_iff.1 h
  have hname : readName? name (w ++ (o.value ++ '>' :: o.rest)) = some (w, o.value ++ '>' :: o.rest) :=
    readName?_eq_some_iff.2 ⟨hw, rfl⟩
  have hangle : toAngle? ('<' :: (w ++ (o.value ++ '>' :: o.rest))) = some ('<' :: (w ++ o.value), o.rest) := by
    refine toAngle?_eq_some_iff.2 ⟨fun hx => ?_, by simp⟩
    rcases List.mem_cons.1 hx with hx | hx
    · cases hx
    · exact (List.mem_append.1 hx).elim (hw.gt_notMem hn) hm
  rw [← NameEnd.holds_append_cons (r := o.rest)] at he
  rw [ht, List.cons_append, List.append_assoc, List.append_assoc, List.singleton_append, isUnclosedElement, hangle]
  simp [startsTag, hname, he, hb]

theorem elements_local (hn : HasNoAngle name) : (elements e name).Local where
  extend := element?_append hn
  cutOff := by
    intro s u r t h hs ht
    obtain ⟨o, c, ho, -⟩ := element?_eq_some_iff.1 h
    by_cases hm : '>' ∈ s
    · -- the opening tag is there in full, so the closing tag is missing
      obtain ⟨o', ho'⟩ := Option.isSome_iff_exists.1 (openTag?_of_append hn ho hm)
      have hb : breakAt (closeTag? name) o'.rest = none := by
        cases hb : breakAt (closeTag? name) o'.rest with
        | none => rfl
        | some p =>
          have := element?_of_breakAt ho' hb
          rw [show element? e name s = none from hs] at this
          cases this
      exact element?_of_isUnclosedElement (isUnclosedElement_of_openTag? hn ho' hb) ht
    · change element? e name t = none
      rw [element?, openTag?_of_not_mem fun hx => hm (ht.mem hx)]
      rfl

end PageBundle.Markup
