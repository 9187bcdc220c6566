import Mathlib.Data.List.Infix
import PageBundle.Proofs.Markup.Local

/-! Texts that differ in patches only. A patch looks like a tag of another name: it begins with `<`, has a `>`,
and no tag of the name in question begins in it. Where the opening tags of that name hold no `<`, a patch can
only stand between tags or in the body of an element, so two texts that differ in patches alone have elements
with the same attributes. -/

namespace PageBundle.Markup

open Text

variable {e : NameEnd} {name s t u v w r : List Char} {c : Char}

/-- Whether no tag of a name begins in a stretch of text, whatever comes after it. -/
def Inert (e : NameEnd) (name u : List Char) : Prop :=
  ∀ t, t <:+ u → t ≠ [] → ∀ v, openTag? e name (t ++ v) = none ∧ closeTag? name (t ++ v) = none

/-- A stretch of text in the form of a tag of another name. -/
structure IsPatch (e : NameEnd) (name u : List Char) : Prop where
  lt : ∃ v, u = '<' :: v
  gt : '>' ∈ u
  inert : Inert e name u

/-- Two texts that differ in patches only. -/
inductive Patched (e : NameEnd) (name : List Char) : List Char → List Char → Prop
  | nil : Patched e name [] []
  | keep {s t : List Char} (c : Char) : Patched e name s t → Patched e name (c :: s) (c :: t)
  | patch {u v s t : List Char} : IsPatch e name u → IsPatch e name v → Patched e name s t →
      Patched e name (u ++ s) (v ++ t)

/-- Whether no opening tag of a name holds a `<`, wherever in the text it begins. -/
def Tidy (e : NameEnd) (name s : List Char) : Prop :=
  ∀ t, t <:+ s → ∀ o, openTag? e name t = some o → '<' ∉ o.value

instance (e : NameEnd) (name s : List Char) : Decidable (Tidy e name s) :=
  decidable_of_iff (∀ t ∈ s.tails, ∀ o, openTag? e name t = some o → '<' ∉ o.value) <| by
    simp only [List.mem_tails, Tidy]

theorem Tidy.of_suffix (h : Tidy e name s) (ht : t <:+ s) : Tidy e name t := fun _ hu => h _ (hu.trans ht)

namespace Patched

theorem symm (h : Patched e name s t) : Patched e name t s := by
  induction h with
  | nil => exact .nil
  | keep c _ ih => exact .keep c ih
  | patch hu hv _ ih => exact .patch hv hu ih

theorem keep_append (w : List Char) (h : Patched e name s t) : Patched e name (w ++ s) (w ++ t) := by
  induction w with
  | nil => exact h
  | cons c w ih => exact .keep c ih

/-- A start without `<` has no patch in it. -/
theorem of_append (h : Patched e name (w ++ r) t) (hw : '<' ∉ w) : ∃ r', t = w ++ r' ∧ Patched e name r r' := by
  induction w generalizing t with
  | nil => exact ⟨t, rfl, h⟩
  | cons c w ih =>
    rw [List.mem_cons, not_or] at hw
    generalize hs : c :: w ++ r = s at h
    cases h with
    | nil => cases hs
    | keep d h =>
      obtain ⟨rfl, rfl⟩ := List.cons.inj hs
      obtain ⟨r', rfl, hr⟩ := ih h hw.2
      exact ⟨r', rfl, hr⟩
    | patch hu hv h =>
      obtain ⟨u', rfl⟩ := hu.lt
      exact absurd (List.cons.inj hs).1.symm hw.1

theorem mem_gt (h : Patched e name s t) (hs : '>' ∈ s) : '>' ∈ t := by
  induction h with
  | nil => exact hs
  | keep c _ ih =>
    rcases List.mem_cons.1 hs with rfl | hs
    · exact List.mem_cons_self
    · exact List.mem_cons_of_mem c (ih hs)
  | patch _ hv _ _ => exact List.mem_append_left _ hv.gt

/-- A text that begins with `<` begins with it on the other side. -/
theorem head_lt (h : Patched e name ('<' :: s) t) : ∃ t', t = '<' :: t' := by
  generalize hs : '<' :: s = x at h
  cases h with
  | nil => cases hs
  | keep d h =>
    obtain ⟨rfl, -⟩ := List.cons.inj hs
    exact ⟨_, rfl⟩
  | patch _ hv _ =>
    obtain ⟨v', rfl⟩ := hv.lt
    exact ⟨_, rfl⟩

/-! ## Tags -/

/-- An opening tag without a `<` is read in either of two texts that differ in patches. -/
theorem openTag?_cons {o : Reading (List Char)} (hn : HasNoAngle name) (h : Patched e name s t)
    (ho : openTag? e name (c :: s) = some o) (hv : '<' ∉ o.value) :
    ∃ r, openTag? e name (c :: t) = some { o with rest := r } ∧ Patched e name o.rest r := by
  obtain ⟨w, hw, hm, he, ht, happ⟩ := openTag?_eq_some_iff.1 ho
  rw [ht, List.cons_append] at happ
  obtain ⟨rfl, rfl⟩ := List.cons.inj happ
  obtain ⟨r, rfl, hr⟩ := h.of_append (w := w ++ o.value ++ ['>']) (by simp [hw.lt_notMem hn, hv])
  exact ⟨r, openTag?_eq_some_iff.2 ⟨w, hw, hm, he, ht, by rw [ht]; rfl⟩, hr⟩

/-- If the tags of one text hold no `<`, those of the other hold none. -/
theorem lt_notMem_value {o : Reading (List Char)} (hn : HasNoAngle name) (h : Patched e name s t)
    (ho : openTag? e name (c :: t) = some o) (hs : Tidy e name (c :: s)) : '<' ∉ o.value := by
  intro hlt
  obtain ⟨w, hw, hm, he, ht, happ⟩ := openTag?_eq_some_iff.1 ho
  obtain ⟨p, q, hpq, hp⟩ := List.eq_append_cons_of_mem hlt
  rw [ht, hpq] at happ
  obtain ⟨rfl, rfl⟩ := List.cons.inj happ
  -- up to the `<` the texts are the same, and there is a `>` after it on both sides
  have hside : Patched e name (w ++ p ++ '<' :: (q ++ '>' :: o.rest)) s := by simpa using h.symm
  obtain ⟨r, rfl, hr⟩ := hside.of_append (by simp [hw.lt_notMem hn, hp])
  obtain ⟨r', rfl⟩ := hr.head_lt
  have hgt : '>' ∈ '<' :: r' := hr.mem_gt (by simp)
  obtain ⟨a, rest, ha, hna⟩ := List.eq_append_cons_of_mem hgt
  cases a with
  | nil => cases ha
  | cons d a =>
    obtain ⟨rfl, rfl⟩ := List.cons.inj ha
    have hpm : '>' ∉ p := fun hx => hm (by rw [hpq]; exact List.mem_append_left _ hx)
    have hos : openTag? e name ('<' :: (w ++ p ++ '<' :: (a ++ '>' :: rest))) =
        some ⟨p ++ '<' :: a, '<' :: (w ++ (p ++ '<' :: a) ++ ['>']), rest⟩ := by
      refine openTag?_eq_some_iff.2 ⟨w, hw, ?_, ?_, rfl, by simp⟩
      · intro hx
        exact (List.mem_append.1 hx).elim hpm hna
      · rw [hpq, List.append_assoc, List.cons_append, NameEnd.holds_append_cons] at he
        rw [List.append_assoc, List.cons_append, NameEnd.holds_append_cons, he]
    exact hs _ (List.suffix_refl _) _ hos (by simp)

theorem closeTag?_cons {x : Reading Unit} (hn : HasNoAngle name) (h : Patched e name s t)
    (hx : closeTag? name (c :: s) = some x) :
    ∃ r, closeTag? name (c :: t) = some { x with rest := r } ∧ Patched e name x.rest r := by
  obtain ⟨w, b, hw, hb, ht, happ⟩ := closeTag?_eq_some_iff.1 hx
  rw [ht, List.cons_append] at happ
  obtain ⟨rfl, rfl⟩ := List.cons.inj happ
  have hlt : '<' ∉ '/' :: (w ++ b ++ ['>']) := by
    have hbl : '<' ∉ b := fun hm => absurd (hb _ hm) (by decide)
    simp [hw.lt_notMem hn, hbl]
  obtain ⟨r, rfl, hr⟩ := h.of_append hlt
  exact ⟨r, closeTag?_eq_some_iff.2 ⟨w, b, hw, hb, ht, by rw [ht]; rfl⟩, hr⟩

theorem closeTag?_cons_eq_none (hn : HasNoAngle name) (h : Patched e name s t)
    (hs : closeTag? name (c :: s) = none) : closeTag? name (c :: t) = none := by
  cases ht : closeTag? name (c :: t) with
  | none => rfl
  | some x =>
    obtain ⟨r, hr, -⟩ := closeTag?_cons hn h.symm ht
    rw [hs] at hr
    cases hr

end Patched

/-! ## Stretches in which nothing begins -/

theorem breakAt_append_of_none {β : Type} {f : List Char → Option β}
    (h : ∀ t, t <:+ u → t ≠ [] → f (t ++ s) = none) :
    breakAt f (u ++ s) = (breakAt f s).map fun (b, x) => (u ++ b, x) := by
  induction u with
  | nil => simp
  | cons c u ih =>
    rw [List.cons_append, breakAt_cons, ← List.cons_append, h _ (List.suffix_refl _) (List.cons_ne_nil c u),
      ih fun t ht => h t (ht.trans (List.suffix_cons c u)), Option.map_map]
    rfl

theorem Inert.breakAt_append (h : Inert e name u) : breakAt (closeTag? name) (u ++ s) =
    (breakAt (closeTag? name) s).map fun (b, x) => (u ++ b, x) :=
  breakAt_append_of_none fun t ht hne => (h t ht hne s).2

theorem Inert.findAll_append (h : Inert e name u) :
    (elements e name).findAll (u ++ s) = (elements e name).findAll s := by
  induction u with
  | nil => rfl
  | cons c u ih =>
    have hr : (elements e name).read (c :: (u ++ s)) = none := by
      change element? e name (c :: u ++ s) = none
      rw [element?, (h _ (List.suffix_refl _) (List.cons_ne_nil c u) s).1]
      rfl
    rw [List.cons_append, Recogniser.findAll_cons_of_none hr, ih fun t ht => h t (ht.trans (List.suffix_cons c u))]

namespace Patched

theorem breakAt_closeTag? (hn : HasNoAngle name) (h : Patched e name s t) {b : List Char} {x : Reading Unit}
    (hb : breakAt (closeTag? name) s = some (b, x)) :
    ∃ b' r, breakAt (closeTag? name) t = some (b', { x with rest := r }) ∧ Patched e name x.rest r := by
  induction h generalizing b with
  | nil => cases hb
  | @keep s t c h ih =>
    rw [breakAt_cons] at hb ⊢
    cases hc : closeTag? name (c :: s) with
    | some y =>
      rw [hc] at hb
      cases hb
      obtain ⟨r, hr, hp⟩ := closeTag?_cons hn h hc
      rw [hr]
      exact ⟨[], r, rfl, hp⟩
    | none =>
      rw [hc] at hb
      obtain ⟨⟨b', y⟩, hb', he⟩ := Option.map_eq_some_iff.1 hb
      cases he
      obtain ⟨b'', r, hr, hp⟩ := ih hb'
      rw [closeTag?_cons_eq_none hn h hc, hr]
      exact ⟨c :: b'', r, rfl, hp⟩
  | @patch u v s t hu hv h ih =>
    rw [hu.inert.breakAt_append] at hb
    rw [hv.inert.breakAt_append]
    obtain ⟨⟨b', y⟩, hb', he⟩ := Option.map_eq_some_iff.1 hb
    cases he
    obtain ⟨b'', r, hr, hp⟩ := ih hb'
    exact ⟨v ++ b'', r, by rw [hr]; rfl, hp⟩

/-! ## Elements -/

theorem element?_cons {x : Reading Element} (hn : HasNoAngle name) (h : Patched e name s t)
    (hx : element? e name (c :: s) = some x) (hv : '<' ∉ x.value.attrs) :
    ∃ y, element? e name (c :: t) = some y ∧ y.value.attrs = x.value.attrs ∧ Patched e name x.rest y.rest := by
  obtain ⟨o, cl, ho, hb, ha, -, hr⟩ := element?_eq_some_iff.1 hx
  obtain ⟨r, ho', hp⟩ := openTag?_cons hn h ho (ha ▸ hv)
  obtain ⟨b', r', hb', hp'⟩ := breakAt_closeTag? hn hp hb
  exact ⟨⟨⟨o.value, b'⟩, o.text ++ b' ++ cl.text, r'⟩,
    element?_eq_some_iff.2 ⟨_, _, ho', hb', rfl, rfl, rfl⟩, ha.symm, hr ▸ hp'⟩

theorem element?_cons_eq_none (hn : HasNoAngle name) (h : Patched e name s t) (hs : Tidy e name (c :: s))
    (hx : element? e name (c :: s) = none) : element? e name (c :: t) = none := by
  cases ht : element? e name (c :: t) with
  | none => rfl
  | some y =>
    obtain ⟨o, cl, ho, -, ha, -⟩ := element?_eq_some_iff.1 ht
    obtain ⟨x, hx', -⟩ := element?_cons hn h.symm ht (ha ▸ lt_notMem_value hn h ho hs)
    rw [hx] at hx'
    cases hx'

/-- Texts that differ in patches only have elements with the same attributes. -/
theorem map_attrs_findAll (hn : HasNoAngle name) (h : Patched e name s t) (hs : Tidy e name s) :
    ((elements e name).findAll s).map Element.attrs = ((elements e name).findAll t).map Element.attrs := by
  -- an element may run over patches, so the induction is on the length and not on how the texts differ
  induction hl : s.length using Nat.strongRecOn generalizing s t with
  | ind n ih =>
    cases h with
    | nil => rfl
    | @keep s t c h =>
      cases hx : (elements e name).read (c :: s) with
      | some x =>
        obtain ⟨o, cl, ho, -, ha, -⟩ := element?_eq_some_iff.1 hx
        obtain ⟨y, hy, hya, hp⟩ := element?_cons hn h hx (ha ▸ hs _ (List.suffix_refl _) o ho)
        have happ := (elements e name).append_of_read hx
        rw [Recogniser.findAll_of_read hx, Recogniser.findAll_of_read (R := elements e name) hy, List.map_cons,
          List.map_cons, hya, ih _ (hl ▸ (elements e name).length_rest_lt hx) hp
            (hs.of_suffix ⟨x.text, happ⟩) rfl]
      | none =>
        have ht : (elements e name).read (c :: t) = none := element?_cons_eq_none hn h hs hx
        rw [Recogniser.findAll_cons_of_none hx, Recogniser.findAll_cons_of_none ht]
        exact ih s.length (by rw [← hl]; exact Nat.lt_succ_self _) h (hs.of_suffix (List.suffix_cons c s)) rfl
    | @patch u v s t hu hv h =>
      rw [hu.inert.findAll_append, hv.inert.findAll_append]
      refine ih s.length ?_ h (hs.of_suffix (List.suffix_append u s)) rfl
      obtain ⟨u', rfl⟩ := hu.lt
      rw [← hl, List.length_append, List.length_cons]
      omega

end Patched

end PageBundle.Markup
