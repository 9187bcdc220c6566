import PageBundle.Asset.Attribute
import PageBundle.Proofs.Text.Cut
import PageBundle.Proofs.Text.Trim
import PageBundle.Proofs.Text.Word

/-! Attributes as they are spelled, and that they are read back. Blanks separate an attribute from what stands before it,
so the name or the value before it ends there, and no equals sign follows that would give a value to a name that has
none. -/

namespace PageBundle.Attribute

open Text

/-- How a value is spelled: not at all, in quotes of one kind, or as it is. -/
inductive Value where
  | absent
  | quoted (quote : Char) (v : List Char) (hquote : quote = '"' ∨ quote = '\'' := by decide)
    (hlt : '<' ∉ v := by decide +kernel) (hgt : '>' ∉ v := by decide +kernel) (hv : quote ∉ v := by decide +kernel)
  | bare (v : List Char) (hne : v ≠ [] := by decide +kernel) (hv : v.all isBareChar = true := by decide +kernel)

def Value.text : Value → List Char
  | absent => []
  | quoted quote v _ _ _ _ => '=' :: quote :: (v ++ [quote])
  | bare v _ _ => '=' :: v

/-- What a value says; one that is absent is empty. -/
def Value.meaning : Value → List Char
  | absent => []
  | quoted _ v _ _ _ _ => v
  | bare v _ _ => v

/-- How an attribute is spelled: some blanks, the name and the value. -/
structure Spelled where
  gap : List Char
  name : List Char
  value : Value
  gap_ne_nil : gap ≠ [] := by decide +kernel
  all_gap : gap.all isBlank = true := by decide +kernel
  name_ne_nil : name ≠ [] := by decide +kernel
  all_name : name.all isNameChar = true := by decide +kernel

theorem Spelled.isBlank_of_mem (a : Spelled) : ∀ c ∈ a.gap, isBlank c = true := List.all_eq_true.1 a.all_gap

theorem Spelled.isNameChar_of_mem (a : Spelled) : ∀ c ∈ a.name, isNameChar c = true := List.all_eq_true.1 a.all_name

def Spelled.text (a : Spelled) : List Char := a.gap ++ (a.name ++ a.value.text)

def Spelled.meaning (a : Spelled) : Attribute := ⟨a.name, a.value.meaning⟩

def spell (l : List Spelled) : List Char := l.flatMap Spelled.text

def first? (l : List Spelled) (name : String) : Option (List Char) :=
  (l.find? fun a => eqIgnoringCase a.name name.toList).map fun a => a.value.meaning

variable {c q : Char} {s v : List Char} {a : Spelled} {l : List Spelled}

/-! ## What follows an attribute -/

/-- What may follow an attribute: nothing, or a blank with no equals sign after the blanks. -/
structure Follows (s : List Char) : Prop where
  isBlank_head : ∀ c, s.head? = some c → isBlank c = true
  next_ne : ∀ c, (s.dropWhile isBlank).head? = some c → c ≠ '='

theorem isNameChar_eq_false_of_isBlank (h : isBlank c = true) : isNameChar c = false := by rw [isNameChar, h]; rfl

theorem isBareChar_eq_false_of_isBlank (h : isBlank c = true) : isBareChar c = false := by rw [isBareChar, h]; rfl

theorem not_isBlank_of_isNameChar (h : isNameChar c = true) : isBlank c = false := by
  rw [isNameChar, Bool.and_eq_true, Bool.not_eq_true'] at h
  exact h.1

theorem not_isBlank_of_isBareChar (h : isBareChar c = true) : isBlank c = false := by
  rw [isBareChar, Bool.and_eq_true, Bool.not_eq_true'] at h
  exact h.1

theorem follows_spell (l : List Spelled) : Follows (spell l) := by
  cases l with
  | nil => exact ⟨nofun, nofun⟩
  | cons a l =>
    obtain ⟨b, gap, hgap⟩ := List.exists_cons_of_ne_nil a.gap_ne_nil
    obtain ⟨d, name, hname⟩ := List.exists_cons_of_ne_nil a.name_ne_nil
    have hd : isNameChar d = true := a.isNameChar_of_mem d (hname ▸ List.mem_cons_self)
    have htext : spell (a :: l) = a.gap ++ (d :: (name ++ a.value.text ++ spell l)) := by
      simp [spell, Spelled.text, hname]
    constructor
    · intro c h
      rw [htext, hgap] at h
      cases h
      exact a.isBlank_of_mem b (hgap ▸ List.mem_cons_self)
    · intro c h
      rw [htext, dropWhile_append_eq a.isBlank_of_mem] at h
      · cases h
        rintro rfl
        cases hd
      · intro c h
        cases h
        exact not_isBlank_of_isNameChar hd

/-! ## Reading -/

theorem value?_eq_none (h : Follows s) : value? s = none := by
  unfold value?
  split
  · rename_i r hr
    exact absurd rfl (h.next_ne '=' (by rw [hr]; rfl))
  · rfl

theorem quotedValue?_append (h : q ∉ v) : quotedValue? q (v ++ q :: s) = some ⟨v, v ++ [q], s⟩ := by
  have hv : ∀ c ∈ v, decide (c ≠ q) = true := by
    intro c hc
    exact decide_eq_true fun he => h (he ▸ hc)
  have hq : ∀ c, (q :: s).head? = some c → decide (c ≠ q) = false := by
    intro c hc
    cases hc
    simp
  rw [quotedValue?, dropWhile_append_eq hv hq, takeWhile_append_eq hv hq]

theorem plainValue?_bare (hne : v ≠ []) (hv : ∀ c ∈ v, isBareChar c = true) (h : Follows s) :
    plainValue? (v ++ s) = some ⟨v, v, s⟩ := by
  have hs : ∀ c, s.head? = some c → isBareChar c = false := by
    intro c hc
    exact isBareChar_eq_false_of_isBlank (h.isBlank_head c hc)
  obtain ⟨d, v', rfl⟩ := List.exists_cons_of_ne_nil hne
  have hd := hv d List.mem_cons_self
  rw [plainValue?.eq_3 (d :: v' ++ s) (by rintro t ⟨⟩; cases hd) (by rintro t ⟨⟩; cases hd),
    takeWhile_append_eq hv hs, dropWhile_append_eq hv hs]
  rfl

theorem value?_cons {r : Reading (List Char)} (hs : ∀ c, s.head? = some c → isBlank c = false)
    (h : plainValue? s = some r) : value? ('=' :: s) = some { r with text := '=' :: r.text } := by
  have heq : isBlank '=' = false := by decide
  have hdrop := dropWhile_eq_self hs
  have htake : s.takeWhile isBlank = [] := by simpa using takeWhile_append_eq (l := []) (by simp) hs
  simp [value?, heq, hdrop, htake, h]

theorem value?_quoted (hquote : q = '"' ∨ q = '\'') (hv : q ∉ v) :
    value? ('=' :: q :: (v ++ [q]) ++ s) = some ⟨v, '=' :: q :: (v ++ [q]), s⟩ := by
  have hread := quotedValue?_append (s := s) hv
  have hblank : ∀ c, (q :: (v ++ q :: s)).head? = some c → isBlank c = false := by
    rintro c ⟨⟩
    rcases hquote with rfl | rfl <;> decide
  have hplain : plainValue? (q :: (v ++ q :: s)) = some ⟨v, q :: (v ++ [q]), s⟩ := by
    rcases hquote with rfl | rfl <;> rw [plainValue?, hread] <;> rfl
  rw [List.cons_append, List.cons_append, List.append_assoc, List.singleton_append]
  exact value?_cons hblank hplain

theorem value?_bare (hne : v ≠ []) (hv : ∀ c ∈ v, isBareChar c = true) (h : Follows s) :
    value? ('=' :: v ++ s) = some ⟨v, '=' :: v, s⟩ := by
  obtain ⟨d, v', rfl⟩ := List.exists_cons_of_ne_nil hne
  refine value?_cons ?_ (plainValue?_bare hne hv h)
  rintro c ⟨⟩
  exact not_isBlank_of_isBareChar (hv d List.mem_cons_self)

theorem head_text_append (u : Value) (h : Follows s) :
    ∀ c, (u.text ++ s).head? = some c → isNameChar c = false := by
  cases u with
  | absent => exact fun c hc => isNameChar_eq_false_of_isBlank (h.isBlank_head c hc)
  | quoted =>
    rintro c ⟨⟩
    decide
  | bare =>
    rintro c ⟨⟩
    decide

theorem read?_spelled (a : Spelled) (h : Follows s) :
    read? (a.name ++ a.value.text ++ s) = some ⟨a.meaning, a.name ++ a.value.text, s⟩ := by
  have hs := head_text_append a.value h
  have hne : a.name.isEmpty = false := by simpa using a.name_ne_nil
  rw [List.append_assoc, read?, takeWhile_append_eq a.isNameChar_of_mem hs,
    dropWhile_append_eq a.isNameChar_of_mem hs, hne, Spelled.meaning]
  cases a.value with
  | absent => simp [Value.text, Value.meaning, value?_eq_none h]
  | quoted q v hquote hlt hgt hv =>
    rw [Value.text, value?_quoted hquote hv]
    rfl
  | bare v hne hv =>
    rw [Value.text, value?_bare hne (List.all_eq_true.1 hv) h]
    rfl

theorem findAll_gap {gap : List Char} (h : ∀ c ∈ gap, isBlank c = true) : all.findAll (gap ++ s) = all.findAll s := by
  induction gap with
  | nil => rfl
  | cons c gap ih =>
    obtain ⟨hc, hgap⟩ := List.forall_mem_cons.1 h
    have hread : all.read (c :: (gap ++ s)) = none := by
      change read? (c :: (gap ++ s)) = none
      simp [read?, isNameChar_eq_false_of_isBlank hc]
    rw [List.cons_append, Recogniser.findAll_cons_of_none hread, ih hgap]

/-- The attributes of a tag are read as they are spelled. -/
theorem findAll_spell (l : List Spelled) : all.findAll (spell l) = l.map Spelled.meaning := by
  induction l with
  | nil => exact Recogniser.findAll_nil
  | cons a l ih =>
    have hread : all.read (a.name ++ a.value.text ++ spell l) = some ⟨a.meaning, a.name ++ a.value.text, spell l⟩ :=
      read?_spelled a (follows_spell l)
    have htext : spell (a :: l) = a.gap ++ (a.name ++ a.value.text ++ spell l) := by simp [spell, Spelled.text]
    rw [htext, findAll_gap a.isBlank_of_mem, Recogniser.findAll_of_read hread, ih]
    rfl

theorem lookup?_spell (l : List Spelled) (name : String) : lookup? (spell l) name = first? l name := by
  rw [lookup?, findAll_spell, List.find?_map, Option.map_map, first?]
  rfl

/-! ## The inside of a tag -/

theorem ne_angle_of_mem_value (u : Value) (hc : c ∈ u.text) : c ≠ '<' ∧ c ≠ '>' := by
  cases u with
  | absent => cases hc
  | quoted q v hquote hlt hgt hv =>
    simp only [Value.text, List.mem_cons, List.mem_append, List.not_mem_nil, or_false] at hc
    rcases hc with rfl | rfl | hc | rfl
    · decide
    · rcases hquote with rfl | rfl <;> decide
    · exact ⟨fun he => hlt (he ▸ hc), fun he => hgt (he ▸ hc)⟩
    · rcases hquote with rfl | rfl <;> decide
  | bare v hne hv =>
    rcases List.mem_cons.1 hc with rfl | hc
    · decide
    · have hb := List.all_eq_true.1 hv c hc
      constructor <;> rintro rfl <;> cases hb

theorem ne_angle_of_mem_text (hc : c ∈ a.text) : c ≠ '<' ∧ c ≠ '>' := by
  simp only [Spelled.text, List.mem_append] at hc
  rcases hc with hc | hc | hc
  · have hb := a.isBlank_of_mem c hc
    constructor <;> rintro rfl <;> cases hb
  · have hn := a.isNameChar_of_mem c hc
    constructor <;> rintro rfl <;> cases hn
  · exact ne_angle_of_mem_value a.value hc

theorem lt_notMem_spell (l : List Spelled) : '<' ∉ spell l := by
  intro h
  obtain ⟨a, -, ha⟩ := List.mem_flatMap.1 h
  exact (ne_angle_of_mem_text ha).1 rfl

theorem gt_notMem_spell (l : List Spelled) : '>' ∉ spell l := by
  intro h
  obtain ⟨a, -, ha⟩ := List.mem_flatMap.1 h
  exact (ne_angle_of_mem_text ha).2 rfl

/-- A name ends where its attributes begin, or the tag ends. -/
theorem startsWithWord_spell (l : List Spelled) : startsWithWord (spell l ++ ['>']) = false := by
  cases h : spell l with
  | nil => decide
  | cons c s => exact isWord_eq_false ((follows_spell l).isBlank_head c (by rw [h]; rfl))

end PageBundle.Attribute
