import PageBundle.Text.Blank
import PageBundle.Text.Letter
import PageBundle.Text.Scan

/-!
Attributes in the inside of a tag. A name is read as far as it goes. A value follows an equals sign, with
blanks allowed on either side, and stands in double quotes, in single quotes or in none; if what follows
the name is not a value in one of these forms, the attribute has no value and reading goes on right after
the name.
-/

namespace PageBundle

open Text

/-- An attribute of a tag; one without a value has the empty one. -/
structure Attribute where
  name : List Char
  value : List Char
deriving DecidableEq

namespace Attribute

def isNameChar (c : Char) : Bool :=
  !isBlank c && !(['"', '\'', '<', '>', '/', '='].contains c)

/-- A character of a value without quotes. -/
def isBareChar (c : Char) : Bool :=
  !isBlank c && !(['"', '\'', '=', '<', '>', '\x60'].contains c)

/-- Reads a value in the given quotes; the meaning is the text between them. -/
def quotedValue? (quote : Char) (s : List Char) : Option (Reading (List Char)) :=
  match s.dropWhile (· ≠ quote) with
  | [] => none
  | q :: rest =>
    let v := s.takeWhile (· ≠ quote)
    some ⟨v, v ++ [q], rest⟩

/-- Reads a value, with or without quotes. -/
def plainValue? : List Char → Option (Reading (List Char))
  | '"' :: s => (quotedValue? '"' s).map fun r => { r with text := '"' :: r.text }
  | '\'' :: s => (quotedValue? '\'' s).map fun r => { r with text := '\'' :: r.text }
  | s =>
    let v := s.takeWhile isBareChar
    if v.isEmpty then none else some ⟨v, v, s.dropWhile isBareChar⟩

def value? (s : List Char) : Option (Reading (List Char)) :=
  match s.dropWhile isBlank with
  | '=' :: r => (plainValue? (r.dropWhile isBlank)).map fun v =>
      { v with text := s.takeWhile isBlank ++ '=' :: (r.takeWhile isBlank ++ v.text) }
  | _ => none

def read? (s : List Char) : Option (Reading Attribute) :=
  let name := s.takeWhile isNameChar
  let r := s.dropWhile isNameChar
  if name.isEmpty then none
  else
    match value? r with
    | some v => some ⟨⟨name, v.value⟩, name ++ v.text, v.rest⟩
    | none => some ⟨⟨name, []⟩, name, r⟩

theorem append_of_quotedValue? {q : Char} {s : List Char} {r : Reading (List Char)}
    (h : quotedValue? q s = some r) : r.text ++ r.rest = s := by
  unfold quotedValue? at h
  split at h
  · cases h
  · rename_i c rest hd
    cases h
    simp only [List.append_assoc, List.cons_append, List.nil_append]
    rw [← hd, List.takeWhile_append_dropWhile]

theorem append_of_plainValue? {s : List Char} {r : Reading (List Char)}
    (h : plainValue? s = some r) : r.text ++ r.rest = s := by
  unfold plainValue? at h
  split at h
  · obtain ⟨v, hv, rfl⟩ := Option.map_eq_some_iff.1 h
    simp [append_of_quotedValue? hv]
  · obtain ⟨v, hv, rfl⟩ := Option.map_eq_some_iff.1 h
    simp [append_of_quotedValue? hv]
  · simp only at h
    split at h
    · cases h
    · cases h
      simp [List.takeWhile_append_dropWhile]

theorem append_of_value? {s : List Char} {r : Reading (List Char)}
    (h : value? s = some r) : r.text ++ r.rest = s := by
  unfold value? at h
  split at h
  · rename_i t hd
    obtain ⟨v, hv, rfl⟩ := Option.map_eq_some_iff.1 h
    simp only [List.append_assoc, List.cons_append]
    rw [append_of_plainValue? hv, List.takeWhile_append_dropWhile, ← hd,
      List.takeWhile_append_dropWhile]
  · cases h

/-- Reading an attribute loses nothing, and takes at least one character. -/
theorem append_of_read? {s : List Char} {r : Reading Attribute} (h : read? s = some r) :
    r.text ++ r.rest = s ∧ r.text ≠ [] := by
  simp only [read?] at h
  split at h
  · cases h
  · rename_i hn
    have hn : s.takeWhile isNameChar ≠ [] := by simpa using hn
    split at h
    · rename_i v hv
      cases h
      simp [append_of_value? hv, List.takeWhile_append_dropWhile, hn]
    · cases h
      simp [List.takeWhile_append_dropWhile, hn]

def all : Recogniser Attribute where
  read := read?
  append_of_read h := (append_of_read? h).1
  text_ne_nil h := (append_of_read? h).2

/-- The value of the first attribute of a name, whatever the case of its ASCII letters. -/
def lookup? (attrs : List Char) (name : String) : Option (List Char) :=
  ((all.findAll attrs).find? fun a => eqIgnoringCase a.name name.toList).map Attribute.value

end Attribute

end PageBundle
