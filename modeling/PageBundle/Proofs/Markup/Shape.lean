import Mathlib.Data.List.Forall2
import Mathlib.Data.List.TakeWhile
import PageBundle.Markup.Tag

/-! The shape of tags. A reader accepts a text exactly if the text starts with a tag of the shape given here,
so what follows the tag has no say in it: neither the end of the text nor anything put after it. -/

namespace PageBundle.Text

variable {name s w r : List Char}

/-- Whether some characters spell a name, in whatever case. -/
def Spells (name w : List Char) : Prop := List.Forall₂ (fun l c => foldsTo l c = true) name w

theorem readName?_eq_some_iff : readName? name s = some (w, r) ↔ Spells name w ∧ s = w ++ r := by
  induction name generalizing s w with
  | nil =>
    simp only [readName?, Option.some.injEq, Prod.mk.injEq, Spells, List.forall₂_nil_left_iff]
    constructor
    · rintro ⟨rfl, rfl⟩; exact ⟨rfl, rfl⟩
    · rintro ⟨rfl, rfl⟩; exact ⟨rfl, rfl⟩
  | cons l name ih =>
    cases s with
    | nil =>
      simp only [readName?, reduceCtorEq, false_iff, not_and]
      intro hw hs
      obtain ⟨rfl, -⟩ := List.append_eq_nil_iff.1 hs.symm
      cases hw
    | cons c s =>
      simp only [readName?]
      constructor
      · intro h
        split at h
        · rename_i hc
          obtain ⟨⟨w', r'⟩, hr, he⟩ := Option.map_eq_some_iff.1 h
          obtain ⟨rfl, rfl⟩ := Prod.mk.inj he
          obtain ⟨hw, rfl⟩ := ih.1 hr
          exact ⟨.cons hc hw, rfl⟩
        · cases h
      · rintro ⟨hw, hs⟩
        cases hw with
        | @cons _ d _ w hc hw =>
          obtain ⟨rfl, ht⟩ := List.cons.inj hs
          rw [if_pos hc, ih.2 ⟨hw, ht⟩]
          rfl

/-- Whether no letter of a name can be read from an angle bracket. -/
def HasNoAngle (name : List Char) : Prop := ∀ l ∈ name, foldsTo l '<' = false ∧ foldsTo l '>' = false

instance (name : List Char) : Decidable (HasNoAngle name) :=
  List.decidableBAll (fun l => foldsTo l '<' = false ∧ foldsTo l '>' = false) name

theorem hasNoAngle_link : HasNoAngle "link".toList := by decide +kernel

theorem hasNoAngle_script : HasNoAngle "script".toList := by decide +kernel

theorem Spells.exists_foldsTo (hw : Spells name w) {c : Char} (hc : c ∈ w) : ∃ l ∈ name, foldsTo l c = true := by
  induction hw with
  | nil => cases hc
  | @cons l d _ _ hd _ ih =>
    rcases List.mem_cons.1 hc with rfl | hc
    · exact ⟨l, List.mem_cons_self, hd⟩
    · obtain ⟨l', hl, hf⟩ := ih hc
      exact ⟨l', List.mem_cons_of_mem l hl, hf⟩

theorem Spells.lt_notMem (hw : Spells name w) (hn : HasNoAngle name) : '<' ∉ w := by
  intro hc
  obtain ⟨l, hl, hf⟩ := hw.exists_foldsTo hc
  rw [(hn l hl).1] at hf
  cases hf

theorem Spells.gt_notMem (hw : Spells name w) (hn : HasNoAngle name) : '>' ∉ w := by
  intro hc
  obtain ⟨l, hl, hf⟩ := hw.exists_foldsTo hc
  rw [(hn l hl).2] at hf
  cases hf

theorem Spells.length_eq (hw : Spells name w) : w.length = name.length := (List.Forall₂.length_eq hw).symm

end PageBundle.Text

namespace PageBundle.Markup

open Text

variable {e : NameEnd} {name s u : List Char}

theorem toAngle?_eq_some_iff {attrs rest : List Char} :
    toAngle? s = some (attrs, rest) ↔ '>' ∉ attrs ∧ s = attrs ++ '>' :: rest := by
  constructor
  · intro h
    refine ⟨fun hm => ?_, (append_of_toAngle? h).symm⟩
    unfold toAngle? at h
    split at h
    · cases h
    · obtain ⟨rfl, -⟩ := Prod.mk.inj (Option.some.inj h)
      simpa using List.mem_takeWhile_imp hm
  · rintro ⟨hm, rfl⟩
    have ha : ∀ c ∈ attrs, decide (c ≠ '>') = true := by
      intro c hc
      exact decide_eq_true fun he => hm (he ▸ hc)
    unfold toAngle?
    rw [List.dropWhile_append_of_pos ha, List.takeWhile_append_of_pos ha]
    simp

/-- The end of a name is decided by one character. -/
theorem NameEnd.holds_append_cons {attrs r : List Char} {c : Char} :
    e.holds (attrs ++ c :: r) = e.holds (attrs ++ [c]) := by
  cases attrs with
  | nil => cases e <;> rfl
  | cons => cases e <;> rfl

/-- What an opening tag is: `<`, the name, and all up to the first `>`. -/
theorem openTag?_eq_some_iff {o : Reading (List Char)} : openTag? e name s = some o ↔
    ∃ w, Spells name w ∧ '>' ∉ o.value ∧ e.holds (o.value ++ ['>']) = true ∧
      o.text = '<' :: (w ++ o.value ++ ['>']) ∧ s = o.text ++ o.rest := by
  constructor
  · intro h
    have happ := (append_of_openTag? h).1
    unfold openTag? at h
    split at h
    · rename_i s
      simp only [Option.bind_eq_bind, Option.bind_eq_some_iff] at h
      obtain ⟨⟨w, r⟩, hw, h⟩ := h
      simp only at h
      split at h
      · rename_i hr
        obtain ⟨⟨attrs, rest⟩, ha, h⟩ := Option.bind_eq_some_iff.1 h
        cases h
        obtain ⟨hm, rfl⟩ := toAngle?_eq_some_iff.1 ha
        rw [NameEnd.holds_append_cons] at hr
        exact ⟨w, (readName?_eq_some_iff.1 hw).1, hm, hr, rfl, happ.symm⟩
      · cases h
    · cases h
  · rintro ⟨w, hw, hm, hr, ht, rfl⟩
    obtain ⟨attrs, text, rest⟩ := o
    simp only at hm hr ht
    subst ht
    have hn : readName? name (w ++ (attrs ++ '>' :: rest)) = some (w, attrs ++ '>' :: rest) :=
      readName?_eq_some_iff.2 ⟨hw, rfl⟩
    have ha : toAngle? (attrs ++ '>' :: rest) = some (attrs, rest) := toAngle?_eq_some_iff.2 ⟨hm, rfl⟩
    rw [← NameEnd.holds_append_cons (r := rest)] at hr
    simp [openTag?, hn, ha, hr]

/-- What a closing tag is: `</`, the name, blanks and `>`. -/
theorem closeTag?_eq_some_iff {c : Reading Unit} : closeTag? name s = some c ↔
    ∃ w b, Spells name w ∧ (∀ x ∈ b, isBlank x = true) ∧
      c.text = '<' :: '/' :: (w ++ b ++ ['>']) ∧ s = c.text ++ c.rest := by
  constructor
  · intro h
    have happ := (append_of_closeTag? h).1
    unfold closeTag? at h
    split at h
    · rename_i s
      simp only [Option.bind_eq_bind, Option.bind_eq_some_iff] at h
      obtain ⟨⟨w, r⟩, hw, h⟩ := h
      simp only at h
      split at h
      · cases h
        exact ⟨w, _, (readName?_eq_some_iff.1 hw).1, fun x hx => List.mem_takeWhile_imp hx, rfl, happ.symm⟩
      · cases h
    · cases h
  · rintro ⟨w, b, hw, hb, ht, rfl⟩
    obtain ⟨_, text, rest⟩ := c
    simp only at ht
    subst ht
    have hn : readName? name (w ++ (b ++ '>' :: rest)) = some (w, b ++ '>' :: rest) :=
      readName?_eq_some_iff.2 ⟨hw, rfl⟩
    have hd : (b ++ '>' :: rest).dropWhile isBlank = '>' :: rest := by
      rw [List.dropWhile_append_of_pos hb]
      rfl
    have ht : (b ++ '>' :: rest).takeWhile isBlank = b := by
      rw [List.takeWhile_append_of_pos hb]
      exact List.append_nil b
    simp [closeTag?, hn, hd, ht]

end PageBundle.Markup
