/-!
Left-to-right scanning of a text. A recogniser says what it finds at the very start of a text; `pieces`
cuts a text into the leftmost occurrences, which do not overlap, and the characters between them.
`first?` finds the leftmost occurrence alone. `breakAt` finds the first suffix that a reader accepts,
`breakAtLast` the last one.

The loops carry what they have seen in an accumulator, so that a long text needs no deep recursion, and a
recogniser may say that nothing will be found any more, so that a closing mark that is missing is looked for
once. The equations `pieces_of_read`, `pieces_cons_of_none`, `first?_eq_breakAt` and `breakAt_cons` are what
proofs use.
-/

namespace PageBundle.Text

/-- What was found at the start of a text: its meaning, its characters, and the text after it. -/
structure Reading (α : Type) where
  value : α
  text : List Char
  rest : List Char

/-- A reader of the start of a text that loses nothing and always moves on. -/
structure Recogniser (α : Type) where
  read : List Char → Option (Reading α)
  append_of_read : ∀ {s r}, read s = some r → r.text ++ r.rest = s
  text_ne_nil : ∀ {s r}, read s = some r → r.text ≠ []
  /-- Whether it shows that nothing is found at the start of a text or later in it. -/
  isHopeless : List Char → Bool := fun _ => false
  read_of_isHopeless : ∀ {s t}, isHopeless s = true → t <:+ s → read t = none := by simp

/-- A part of a scanned text: one character outside every occurrence, or an occurrence. -/
inductive Piece (α : Type) where
  | plain (c : Char)
  | found (text : List Char) (value : α)

namespace Piece

variable {α : Type}

def text : Piece α → List Char
  | plain c => [c]
  | found t _ => t

/-- The meaning of an occurrence. -/
def value? : Piece α → Option α
  | plain _ => none
  | found _ v => some v

end Piece

namespace Recogniser

variable {α : Type} (R : Recogniser α)

theorem length_rest_lt {s : List Char} {r : Reading α} (h : R.read s = some r) :
    r.rest.length < s.length := by
  have ha := congrArg List.length (R.append_of_read h)
  have hp := List.length_pos_iff.2 (R.text_ne_nil h)
  simp only [List.length_append] at ha
  omega

theorem read_nil : R.read [] = none := by
  cases h : R.read [] with
  | none => rfl
  | some r => exact absurd (R.length_rest_lt h) (by simp)

/-- The pieces of `s`, after those already `seen` in reverse. -/
def piecesFrom (seen : List (Piece α)) (s : List Char) : List (Piece α) :=
  match _h : R.read s with
  | some r => piecesFrom (.found r.text r.value :: seen) r.rest
  | none =>
    if R.isHopeless s then seen.reverse ++ s.map .plain
    else
      match s with
      | [] => seen.reverse
      | c :: s => piecesFrom (.plain c :: seen) s
termination_by s.length
decreasing_by
  · exact R.length_rest_lt _h
  · exact Nat.lt_succ_self _

/-- The text cut into its leftmost occurrences and the characters between them. -/
def pieces (s : List Char) : List (Piece α) := R.piecesFrom [] s

/-- What was seen before comes before what is found. -/
theorem piecesFrom_eq (seen : List (Piece α)) (s : List Char) :
    R.piecesFrom seen s = seen.reverse ++ R.pieces s := by
  induction hn : s.length using Nat.strongRecOn generalizing seen s with
  | ind n ih =>
    rw [pieces, piecesFrom, piecesFrom]
    split
    · rename_i r h
      have hl := R.length_rest_lt h
      rw [ih _ (hn ▸ hl) _ _ rfl, ih _ (hn ▸ hl) [_] _ rfl]
      simp
    · split
      · simp
      · cases s with
        | nil => simp
        | cons c s =>
          have hl : s.length < n := by simp at hn; omega
          simp only
          rw [ih _ hl _ _ rfl, ih _ hl [_] _ rfl]
          simp

@[simp] theorem pieces_nil : R.pieces [] = [] := by
  rw [pieces, piecesFrom]
  split
  · rename_i r h; simp [R.read_nil] at h
  · split <;> rfl

/-- Where nothing is found, all is plain. -/
theorem pieces_eq_map_plain {s : List Char} (h : ∀ t, t <:+ s → R.read t = none) :
    R.pieces s = s.map .plain := by
  induction s with
  | nil => simp
  | cons c s ih =>
    have hs := h _ (List.suffix_refl _)
    rw [pieces, piecesFrom]
    split
    · rename_i h'; simp [hs] at h'
    · split
      · rfl
      · simp only
        rw [piecesFrom_eq, ih fun t ht => h t (ht.trans (List.suffix_cons c s))]
        rfl

theorem pieces_of_read {s : List Char} {r : Reading α} (h : R.read s = some r) :
    R.pieces s = .found r.text r.value :: R.pieces r.rest := by
  rw [pieces, piecesFrom]
  split
  · rename_i r' h'
    rw [h] at h'
    cases h'
    rw [piecesFrom_eq]; rfl
  · rename_i h'; simp [h] at h'

theorem pieces_cons_of_none {c : Char} {s : List Char} (h : R.read (c :: s) = none) :
    R.pieces (c :: s) = .plain c :: R.pieces s := by
  rw [pieces, piecesFrom]
  split
  · rename_i h'; simp [h] at h'
  · split
    · rename_i hh
      rw [R.pieces_eq_map_plain fun t ht => R.read_of_isHopeless hh (ht.trans (List.suffix_cons c s))]
      rfl
    · simp only
      rw [piecesFrom_eq]; rfl

/-- The pieces are the text. -/
theorem flatMap_text_pieces (s : List Char) : (R.pieces s).flatMap Piece.text = s := by
  induction hn : s.length using Nat.strongRecOn generalizing s with
  | ind n ih =>
    cases h : R.read s with
    | some r =>
      rw [R.pieces_of_read h, List.flatMap_cons, ih _ (hn ▸ R.length_rest_lt h) _ rfl]
      exact R.append_of_read h
    | none =>
      cases s with
      | nil => simp
      | cons c s =>
        rw [R.pieces_cons_of_none h, List.flatMap_cons, ih s.length (by simp at hn; omega) _ rfl]
        rfl

def findAll (s : List Char) : List α := (R.pieces s).filterMap Piece.value?

/-- The text without its occurrences. -/
def erase (s : List Char) : List Char :=
  (R.pieces s).flatMap fun
    | .plain c => [c]
    | .found _ _ => []

end Recogniser

/-- `breakAt` after the characters already `seen` in reverse. -/
def breakAtFrom {β : Type} (f : List Char → Option β) (seen s : List Char) : Option (List Char × β) :=
  match f s with
  | some b => some (seen.reverse, b)
  | none =>
    match s with
    | [] => none
    | c :: s => breakAtFrom f (c :: seen) s

/-- The part of the text before its first suffix that `f` accepts, with the answer of `f`. -/
def breakAt {β : Type} (f : List Char → Option β) (s : List Char) : Option (List Char × β) :=
  breakAtFrom f [] s

theorem breakAtFrom_eq {β : Type} (f : List Char → Option β) (seen s : List Char) :
    breakAtFrom f seen s = (breakAt f s).map fun (b, x) => (seen.reverse ++ b, x) := by
  induction s generalizing seen with
  | nil => unfold breakAt breakAtFrom; cases f [] <;> simp
  | cons c s ih =>
    unfold breakAt breakAtFrom
    cases f (c :: s) with
    | some b => simp
    | none => simp [ih]; rfl

theorem breakAt_nil {β : Type} (f : List Char → Option β) :
    breakAt f [] = (f []).map fun b => ([], b) := by
  unfold breakAt breakAtFrom; cases f [] <;> simp

/-- A search looks at a text before it looks behind its first character. -/
theorem breakAt_cons {β : Type} (f : List Char → Option β) (c : Char) (s : List Char) :
    breakAt f (c :: s) =
      match f (c :: s) with
      | some b => some ([], b)
      | none => (breakAt f s).map fun (b, x) => (c :: b, x) := by
  rw [breakAt, breakAtFrom]
  cases f (c :: s) with
  | some b => simp
  | none => simp [breakAtFrom_eq]

/-- `Recogniser.first?` after the characters already `seen` in reverse. -/
def Recogniser.firstFrom {α : Type} (R : Recogniser α) (seen s : List Char) : Option (List Char × Reading α) :=
  match R.read s with
  | some r => some (seen.reverse, r)
  | none =>
    if R.isHopeless s then none
    else
      match s with
      | [] => none
      | c :: s => R.firstFrom (c :: seen) s

/-- The leftmost occurrence, with the text before it. -/
def Recogniser.first? {α : Type} (R : Recogniser α) (s : List Char) : Option (List Char × Reading α) :=
  R.firstFrom [] s

theorem breakAt_eq_none {β : Type} {f : List Char → Option β} {s : List Char} (h : ∀ t, t <:+ s → f t = none) :
    breakAt f s = none := by
  induction s with
  | nil => rw [breakAt_nil, h _ (List.suffix_refl _)]; rfl
  | cons c s ih =>
    rw [breakAt_cons, h _ (List.suffix_refl _), ih fun t ht => h t (ht.trans (List.suffix_cons c s))]
    rfl

/-- The search that gives up early finds what the one that never does finds. -/
theorem Recogniser.first?_eq_breakAt {α : Type} (R : Recogniser α) (s : List Char) :
    R.first? s = breakAt R.read s := by
  suffices ∀ seen, R.firstFrom seen s = breakAtFrom R.read seen s from this []
  induction s with
  | nil =>
    intro seen
    unfold firstFrom breakAtFrom
    cases R.read [] <;> simp
  | cons c s ih =>
    intro seen
    rw [breakAtFrom, firstFrom]
    cases h : R.read (c :: s) with
    | some r => rfl
    | none =>
      simp only
      split
      · rename_i hh
        rw [breakAtFrom_eq, breakAt_eq_none fun t ht => R.read_of_isHopeless hh (ht.trans (List.suffix_cons c s))]
        rfl
      · exact ih _

/-- The part before the break is a prefix, and `f` accepts what follows it. -/
theorem of_breakAt {β : Type} {f : List Char → Option β} {s b : List Char} {x : β}
    (h : breakAt f s = some (b, x)) : ∃ r, s = b ++ r ∧ f r = some x := by
  induction s generalizing b with
  | nil =>
    rw [breakAt_nil] at h
    obtain ⟨y, hy, he⟩ := Option.map_eq_some_iff.1 h
    cases he
    exact ⟨[], rfl, hy⟩
  | cons c s ih =>
    rw [breakAt_cons] at h
    split at h
    · rename_i y hy
      cases h
      exact ⟨c :: s, rfl, hy⟩
    · obtain ⟨⟨b', y⟩, hb, he⟩ := Option.map_eq_some_iff.1 h
      cases he
      obtain ⟨r, rfl, hr⟩ := ih hb
      exact ⟨r, rfl, hr⟩

/-- Without a break in a text there is none in its ends. -/
theorem breakAt_eq_none_of_suffix {β : Type} {f : List Char → Option β} {s t : List Char}
    (h : breakAt f s = none) (ht : t <:+ s) : breakAt f t = none := by
  induction s with
  | nil => rw [List.suffix_nil.1 ht]; exact h
  | cons c s ih =>
    rcases List.suffix_cons_iff.1 ht with rfl | ht
    · exact h
    · rw [breakAt_cons] at h
      split at h
      · cases h
      · exact ih (Option.map_eq_none_iff.1 h) ht

/-- `breakAtLast` with the characters `seen` in reverse and the best break so far. -/
def breakAtLastFrom {β : Type} (f : List Char → Option β) (seen : List Char)
    (best : Option (List Char × β)) (s : List Char) : Option (List Char × β) :=
  let best := ((f s).map fun b => (seen, b)).or best
  match s with
  | [] => best
  | c :: s => breakAtLastFrom f (c :: seen) best s

/-- The part of the text before its last suffix that `f` accepts, with the answer of `f`. -/
def breakAtLast {β : Type} (f : List Char → Option β) (s : List Char) : Option (List Char × β) :=
  (breakAtLastFrom f [] none s).map fun (seen, b) => (seen.reverse, b)

/-- The text after a literal that it starts with. -/
def dropLiteral? : List Char → List Char → Option (List Char)
  | [], s => some s
  | _ :: _, [] => none
  | l :: ls, c :: s => if l = c then dropLiteral? ls s else none

theorem dropLiteral?_eq_some_iff {l s r : List Char} : dropLiteral? l s = some r ↔ l ++ r = s := by
  induction l generalizing s with
  | nil => simp [dropLiteral?, eq_comm]
  | cons a l ih =>
    cases s with
    | nil => simp [dropLiteral?]
    | cons c s => by_cases h : a = c <;> simp [dropLiteral?, h, ih]

def contains (s t : List Char) : Bool :=
  match s with
  | [] => t.isEmpty
  | c :: s => t.isPrefixOf (c :: s) || contains s t

theorem contains_iff_isInfix {s t : List Char} : contains s t = true ↔ t <:+: s := by
  induction s with
  | nil => simp [contains, List.isEmpty_iff]
  | cons c s ih => simp [contains, ih, List.infix_cons_iff, List.isPrefixOf_iff_prefix]

end PageBundle.Text
