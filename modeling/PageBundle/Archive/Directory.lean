import PageBundle.Archive.Record

/-!
The directory at the end of a zip archive. The end record says how many members there are and where their
records start; bytes in front of the archive shift every offset. Where its numbers do not suffice, a second
end record in front of it has wider ones, and a locator between the two says where that one is. An end record
is looked for from the back, and one that does not lead to a whole directory is passed over.
-/

namespace PageBundle.Archive

open Bytes

def endMark : List UInt8 := [0x50, 0x4B, 5, 6]

def wideEndMark : List UInt8 := [0x50, 0x4B, 6, 6]

def locatorMark : List UInt8 := [0x50, 0x4B, 6, 7]

def locatorSize : Nat := 20

def wideEndSize : Nat := 56

def recordSize : Nat := 46

/-- Where the directory is, how many records it has, and how far all offsets are shifted. -/
structure Location where
  start : Nat
  count : Nat
  shift : Nat
deriving DecidableEq, Repr

/-- The first position of a mark at or after `i` that ends by `stop` and passes a test. -/
def findMark (b : ByteArray) (mark : List UInt8) (test : Nat → Bool) (stop : Nat) : Nat → Nat → Option Nat
  | 0, _ => none
  | fuel + 1, i =>
    if stop < i + mark.length then none
    else if hasAt b i mark && test i then some i
    else findMark b mark test stop fuel (i + 1)

/-- The directory in front of the end record at `i`. Its first record is looked for from where it should be,
unless there are to be none. -/
def Location.ofEnd? (b : ByteArray) (i : Nat) : Option Location := do
  let start := u32 b (i + 16)
  let shift ←
    if u16 b (i + 10) = 0 then some (i - start)
    else if i ≤ start then none
    else (findMark b recordMark (fun _ => true) i (i - start) start).map (· - start)
  if u16 b (i + 4) = u16 b (i + 6) then some ⟨start + shift, u16 b (i + 8), shift⟩ else none

/-- Whether the wide end record at `j` may be the one of the locator at `l`: it fills the room up to the
locator, has a place for its records in front of it, and agrees with the locator on the disk. -/
def isWideEnd (b : ByteArray) (l j : Nat) : Bool :=
  wideEndSize ≤ u64 b (j + 4) + 12 && u64 b (j + 4) + 12 == l - j && u32 b (j + 20) == u32 b (l + 4) &&
    u64 b (j + 32) * recordSize + u64 b (j + 48) ≤ j

/-- The directory of the wide end record that the locator at `l` leads to. -/
def Location.ofLocator? (b : ByteArray) (l : Nat) : Option Location := do
  let start := u64 b (l + 8)
  if l ≤ start ∨ 1 < u32 b (l + 16) then none
  else
    let j ← findMark b wideEndMark (isWideEnd b l) l (l - start) start
    let (made, needed) := (u16 b (j + 12), u16 b (j + 14))
    let (onDisk, count) := (u64 b (j + 24), u64 b (j + 32))
    if count < onDisk ∨ made < needed ∨ u32 b (j + 16) ≠ u32 b (j + 20) then none
    else some ⟨u64 b (j + 48) + (j - start), count, j - start⟩

/-- Where the locator in front of the end record at `i` is, if the end record asks for one and it is there. -/
def locator? (b : ByteArray) (i : Nat) : Option Nat :=
  let asks := u16 b (i + 10) == 0xFFFF || u32 b (i + 16) == wideMark
  if asks && locatorSize ≤ i && hasAt b (i - locatorSize) locatorMark then some (i - locatorSize) else none

def location? (b : ByteArray) (i : Nat) : Option Location :=
  if hasAt b i endMark && i + 22 + u16 b (i + 20) ≤ b.size then
    match locator? b i with
    | some l => Location.ofLocator? b l
    | none => Location.ofEnd? b i
  else none

/-- Reads `n` records from a position on, after those read so far in reverse. -/
def records? (b : ByteArray) (shift : Nat) : Nat → List Record → Nat → Option (List Record)
  | 0, seen, _ => some seen.reverse
  | n + 1, seen, i =>
    match Record.read? b shift i with
    | some (r, i) => records? b shift n (r :: seen) i
    | none => none

/-- The records of the last end record before `i` that leads to a directory. -/
def recordsBefore? (b : ByteArray) : Nat → Option (List Record)
  | 0 => none
  | i + 1 =>
    match (location? b i).bind fun d => records? b d.shift d.count [] d.start with
    | some rs => some rs
    | none => recordsBefore? b i

/-- One record of each name, at the place of the first and with the content of the last. -/
def distinct (rs : List Record) : List Record :=
  let last := rs.foldl (fun seen r => (r.name, r) :: seen) []
  (rs.map Record.name).eraseDups.filterMap fun n => last.lookup n

def directory? (b : ByteArray) : Option (List Record) := (recordsBefore? b b.size).map distinct

end PageBundle.Archive
