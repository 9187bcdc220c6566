import PageBundle.Text.Hexadecimal

/-!
Properties of characters as tables. A table is written as ranges of code points in hexadecimal, in
increasing order and apart by blanks: `C0-D6` is a range, `100-12E/2` every second code point of one. What
the characters of a range stand for follows a colon: `410-42F:430` stand for 430 and its successors,
`BD:31+2044+32` for three characters. A table that is only asked what it contains may be given as the ends
of its ranges.
-/

namespace PageBundle.Text

/-- Code points from one to another in equal steps, and what the first of them stands for. -/
structure Range where
  first : Nat
  last : Nat
  step : Nat
  image : List Nat
deriving DecidableEq, Repr

namespace Range

def contains (r : Range) (n : Nat) : Bool := r.first ≤ n && n ≤ r.last && (n - r.first) % r.step == 0

/-- What a code point of a range stands for: the images of a range are in step with it, if each is one code
point. -/
def imageOf (r : Range) (n : Nat) : List Nat :=
  match r.image with
  | [m] => [m + (n - r.first)]
  | image => image

def ofText? (s : List Char) : Option Range := do
  let (points, image) := (s.takeWhile (· ≠ ':'), s.dropWhile (· ≠ ':'))
  let (ends, step) := (points.takeWhile (· ≠ '/'), points.dropWhile (· ≠ '/'))
  let first ← digits? 16 (ends.takeWhile (· ≠ '-'))
  let last ← if ends.contains '-' then digits? 16 (ends.dropWhile (· ≠ '-')).tail else some first
  let step ← if step.isEmpty then some 1 else digits? 16 step.tail
  let image ← if image.isEmpty then some [] else (image.tail.splitOn '+').mapM (digits? 16)
  some ⟨first, last, step, image⟩

end Range

/-- Ranges in increasing order that do not overlap. -/
structure Table where
  ranges : Array Range

namespace Table

/-- Reads a table; what is no range is left out. -/
def ofText (s : String) : Table :=
  let words := (s.toList.splitOnP Char.isWhitespace).filter (!·.isEmpty)
  ⟨(words.filterMap Range.ofText?).toArray⟩

/-- The table of some ranges that are given by their ends. -/
def ofSpans (l : List (Nat × Nat)) : Table := ⟨(l.map fun (first, last) => ⟨first, last, 1, []⟩).toArray⟩

/-- How many ranges start at or before a code point, if it is at least `lo` and at most `hi` of them. -/
def rank (t : Table) (n lo hi : Nat) : Nat :=
  if lo < hi then
    let mid := lo + (hi - lo) / 2
    if t.ranges[mid]?.any (·.first ≤ n) then t.rank n (mid + 1) hi else t.rank n lo mid
  else lo
termination_by hi - lo

def range? (t : Table) (n : Nat) : Option Range :=
  match t.rank n 0 t.ranges.size with
  | 0 => none
  | k + 1 => t.ranges[k]?.filter (·.contains n)

def contains (t : Table) (n : Nat) : Bool := (t.range? n).isSome

/-- What a code point stands for, if it is in one of the ranges. -/
def image? (t : Table) (n : Nat) : Option (List Nat) := (t.range? n).map (·.imageOf n)

/-- The number that the range of a code point has, the same for all of the range. -/
def value? (t : Table) (n : Nat) : Option Nat := (t.range? n).bind (·.image.head?)

end Table

end PageBundle.Text
