import PageBundle.Text.Blank
import PageBundle.Text.Letter
import PageBundle.Text.Scan
import PageBundle.Text.Word

/-!
Tags as they stand in the text. A tag is found by its spelling alone: nothing is known of nesting, quotes
or scripts, so a tag ends at the first `>` and an element at its first closing tag.

Each reader here gives the characters that it read, and `text ++ rest` is the text it was given.
-/

namespace PageBundle.Markup

open Text

/-- The attributes of a tag: all before the first `>`, with what follows it. -/
def toAngle? (s : List Char) : Option (List Char × List Char) :=
  match s.dropWhile (· ≠ '>') with
  | [] => none
  | _ :: rest => some (s.takeWhile (· ≠ '>'), rest)

theorem append_of_toAngle? {s attrs rest : List Char} (h : toAngle? s = some (attrs, rest)) :
    attrs ++ '>' :: rest = s := by
  unfold toAngle? at h
  split at h
  · cases h
  · rename_i c r hd
    obtain ⟨rfl, rfl⟩ := Prod.mk.inj (Option.some.inj h)
    have hc : c = '>' := by
      have := List.head?_dropWhile_not (fun x : Char => decide (x ≠ '>')) s
      rw [hd] at this
      simpa using this
    rw [hc] at hd
    rw [← hd, List.takeWhile_append_dropWhile]

/-- What follows the first `>` of an end of a text is an end of what follows the first one of the text. -/
theorem toAngle?_of_suffix {s t attrs rest : List Char} (h : toAngle? t = some (attrs, rest)) (ht : t <:+ s) :
    ∃ attrs' rest', toAngle? s = some (attrs', rest') ∧ rest <:+ rest' := by
  induction s with
  | nil => rw [List.suffix_nil.1 ht] at h; cases h
  | cons c s ih =>
    rcases List.suffix_cons_iff.1 ht with rfl | ht
    · exact ⟨attrs, rest, h, List.suffix_refl _⟩
    · by_cases hc : c = '>'
      · refine ⟨[], s, by simp [toAngle?, hc], List.IsSuffix.trans ⟨attrs ++ ['>'], ?_⟩ ht⟩
        simpa using append_of_toAngle? h
      · obtain ⟨a, r, ha, hr⟩ := ih ht
        refine ⟨c :: a, r, ?_, hr⟩
        unfold toAngle? at ha ⊢
        simp only [List.dropWhile_cons, List.takeWhile_cons, hc, ne_eq, not_false_eq_true, decide_true, if_true]
        split at ha
        · cases ha
        · rename_i hd
          simp only [hd]
          cases ha
          rfl

/-- How the name of an opening tag ends. -/
inductive NameEnd where
  /-- At a word boundary. -/
  | word
  /-- At a blank or at the end of the tag. -/
  | blank

/-- Whether a name just read ends before the given text. -/
def NameEnd.holds : NameEnd → List Char → Bool
  | word, s => !startsWithWord s
  | blank, c :: _ => c == '>' || isBlank c
  | blank, [] => false

/-- Reads the opening tag of a name; its meaning is the text between name and `>`. -/
def openTag? (e : NameEnd) (name : List Char) : List Char → Option (Reading (List Char))
  | '<' :: s => do
    let (w, r) ← readName? name s
    if e.holds r then
      let (attrs, rest) ← toAngle? r
      some ⟨attrs, '<' :: (w ++ attrs ++ ['>']), rest⟩
    else none
  | _ => none

/-- Whether the name of a tag stands at the start of a text. -/
def startsTag (e : NameEnd) (name : List Char) : List Char → Bool
  | '<' :: s => (readName? name s).any fun (_, r) => e.holds r
  | _ => false

/-- Reads the closing tag of a name, which may have blanks before its `>`. -/
def closeTag? (name : List Char) : List Char → Option (Reading Unit)
  | '<' :: '/' :: s => do
    let (w, r) ← readName? name s
    match r.dropWhile isBlank with
    | '>' :: rest => some ⟨(), '<' :: '/' :: (w ++ r.takeWhile isBlank ++ ['>']), rest⟩
    | _ => none
  | _ => none

theorem append_of_openTag? {e : NameEnd} {name s : List Char} {r : Reading (List Char)}
    (h : openTag? e name s = some r) : r.text ++ r.rest = s ∧ r.text ≠ [] := by
  unfold openTag? at h
  split at h
  · rename_i s
    simp only [Option.bind_eq_bind, Option.bind_eq_some_iff] at h
    obtain ⟨⟨w, r1⟩, hw, h⟩ := h
    simp only at h
    split at h
    · obtain ⟨⟨attrs, rest⟩, ha, h⟩ := Option.bind_eq_some_iff.1 h
      cases h
      simp [← append_of_readName? hw, ← append_of_toAngle? ha]
    · cases h
  · cases h

theorem append_of_closeTag? {name s : List Char} {r : Reading Unit}
    (h : closeTag? name s = some r) : r.text ++ r.rest = s ∧ r.text ≠ [] := by
  unfold closeTag? at h
  split at h
  · rename_i s
    simp only [Option.bind_eq_bind, Option.bind_eq_some_iff] at h
    obtain ⟨⟨w, r1⟩, hw, h⟩ := h
    simp only at h
    split at h
    · rename_i rest hd
      cases h
      simp only [List.cons_append, List.append_assoc, List.nil_append, ne_eq, reduceCtorEq,
        not_false_eq_true, and_true, List.cons.injEq, true_and]
      rw [← hd, List.takeWhile_append_dropWhile, append_of_readName? hw]
    · cases h
  · cases h

/-- A text without `>` has no tags. -/
theorem openTag?_of_not_mem {e : NameEnd} {name s : List Char} (h : '>' ∉ s) : openTag? e name s = none := by
  cases ho : openTag? e name s with
  | none => rfl
  | some o =>
    unfold openTag? at ho
    split at ho
    · simp only [Option.bind_eq_bind, Option.bind_eq_some_iff] at ho
      obtain ⟨⟨w, r⟩, hw, ho⟩ := ho
      simp only at ho
      split at ho
      · obtain ⟨⟨attrs, rest⟩, ha, -⟩ := Option.bind_eq_some_iff.1 ho
        rw [← append_of_readName? hw, ← append_of_toAngle? ha] at h
        simp at h
      · cases ho
    · cases ho

/-- A tag ends at the first `>` after its name. -/
theorem toAngle?_of_openTag? {e : NameEnd} {name s : List Char} {o : Reading (List Char)}
    (h : openTag? e name s = some o) : ∃ r, r <:+ s ∧ toAngle? r = some (o.value, o.rest) := by
  unfold openTag? at h
  split at h
  · simp only [Option.bind_eq_bind, Option.bind_eq_some_iff] at h
    obtain ⟨⟨w, r⟩, hw, h⟩ := h
    simp only at h
    split at h
    · obtain ⟨⟨attrs, rest⟩, ha, h⟩ := Option.bind_eq_some_iff.1 h
      cases h
      exact ⟨r, (List.IsSuffix.trans ⟨w, append_of_readName? hw⟩ (List.suffix_cons _ _)), ha⟩
    · cases h
  · cases h

/-- An element: what stands in its opening tag after the name, and what stands before its closing tag. -/
structure Element where
  attrs : List Char
  body : List Char

/-- Reads an element: an opening tag, then all before the first closing tag of the name. -/
def element? (e : NameEnd) (name s : List Char) : Option (Reading Element) := do
  let o ← openTag? e name s
  let (body, c) ← breakAt (closeTag? name) o.rest
  some ⟨⟨o.value, body⟩, o.text ++ body ++ c.text, c.rest⟩

/-- Reading an element loses nothing, and takes at least one character. -/
theorem append_of_element? {e : NameEnd} {name s : List Char} {r : Reading Element}
    (h : element? e name s = some r) : r.text ++ r.rest = s ∧ r.text ≠ [] := by
  simp only [element?, Option.bind_eq_bind, Option.bind_eq_some_iff] at h
  obtain ⟨o, ho, ⟨body, c⟩, hb, h⟩ := h
  cases h
  obtain ⟨ha, hn⟩ := append_of_openTag? ho
  obtain ⟨t, ht, hc⟩ := of_breakAt hb
  have hct := (append_of_closeTag? hc).1
  simp only [List.append_assoc, hct, ← ht, ha, true_and]
  simp [hn]

/-- Whether a tag of a name starts here and there is no closing tag after the first `>`, so that no later one
is closed either. -/
def isUnclosedElement (e : NameEnd) (name s : List Char) : Bool :=
  startsTag e name s &&
    match toAngle? s with
    | none => true
    | some (_, rest) => (breakAt (closeTag? name) rest).isNone

theorem element?_of_isUnclosedElement {e : NameEnd} {name s t : List Char}
    (h : isUnclosedElement e name s = true) (ht : t <:+ s) : element? e name t = none := by
  cases ho : openTag? e name t with
  | none => simp [element?, ho]
  | some o =>
    obtain ⟨r, hr, ha⟩ := toAngle?_of_openTag? ho
    obtain ⟨attrs, rest, hs, hrest⟩ := toAngle?_of_suffix ha (hr.trans ht)
    simp only [isUnclosedElement, hs, Bool.and_eq_true, Option.isNone_iff_eq_none] at h
    simp [element?, ho, breakAt_eq_none_of_suffix h.2 hrest]

/-- Whether a tag of a name starts here and never ends, so that no later one does either. -/
def isUnclosedTag (e : NameEnd) (name s : List Char) : Bool := startsTag e name s && !s.contains '>'

theorem openTag?_of_isUnclosedTag {e e' : NameEnd} {name name' s t : List Char}
    (h : isUnclosedTag e name s = true) (ht : t <:+ s) : openTag? e' name' t = none := by
  simp only [isUnclosedTag, Bool.and_eq_true, Bool.not_eq_true', List.contains_eq_mem, decide_eq_false_iff_not] at h
  exact openTag?_of_not_mem fun hm => h.2 (ht.mem hm)

def elements (e : NameEnd) (name : List Char) : Recogniser Element where
  read := element? e name
  append_of_read h := (append_of_element? h).1
  text_ne_nil h := (append_of_element? h).2
  isHopeless := isUnclosedElement e name
  read_of_isHopeless := element?_of_isUnclosedElement

def openTags (e : NameEnd) (name : List Char) : Recogniser (List Char) where
  read := openTag? e name
  append_of_read h := (append_of_openTag? h).1
  text_ne_nil h := (append_of_openTag? h).2
  isHopeless := isUnclosedTag e name
  read_of_isHopeless := openTag?_of_isUnclosedTag

end PageBundle.Markup
