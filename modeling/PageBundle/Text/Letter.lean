/-!
Letter case. Two notions are in use: names of attributes are compared by the 26 ASCII letters alone, while
tag names follow the simple case folding of Unicode, under which the Kelvin sign is a `k` and the long s
is an `s`.
-/

namespace PageBundle.Text

/-- The text with the capital letters `A` to `Z` made small. -/
def lower (s : List Char) : List Char := s.map Char.toLower

/-- Equality up to the case of the letters `A` to `Z`. -/
def eqIgnoringCase (s t : List Char) : Bool := lower s == lower t

/-- Whether a character folds to the small ASCII letter `l`. -/
def foldsTo (l c : Char) : Bool :=
  c.toLower == l || (l == 'k' && c == '\u212A') || (l == 's' && c == '\u017F')

/-- Reads a name, given in small letters, in any case: the characters read and what follows them. -/
def readName? : List Char → List Char → Option (List Char × List Char)
  | [], s => some ([], s)
  | _ :: _, [] => none
  | l :: name, c :: s =>
    if foldsTo l c then (readName? name s).map fun (w, r) => (c :: w, r) else none

theorem append_of_readName? {name s w r : List Char} (h : readName? name s = some (w, r)) :
    w ++ r = s := by
  induction name generalizing s w with
  | nil => simp [readName?] at h; simp [h.1.symm, h.2]
  | cons l name ih =>
    cases s with
    | nil => simp [readName?] at h
    | cons c s =>
      simp only [readName?] at h
      split at h
      · obtain ⟨⟨w', r'⟩, hw, he⟩ := Option.map_eq_some_iff.1 h
        obtain ⟨rfl, rfl⟩ := Prod.mk.inj he
        simpa using ih hw
      · simp at h

end PageBundle.Text
