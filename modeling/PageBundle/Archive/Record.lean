import PageBundle.Archive.Checksum
import PageBundle.Bytes
import PageBundle.Text.CodePage

/-!
The record of a member in the directory of a zip archive. Behind the fixed part stand the name, a row of
extra fields and a comment. An extra field of a known kind changes what the record says, and one that does
not hold together spoils the record; fields of other kinds are passed over.
-/

namespace PageBundle.Archive

open Bytes

/-- What the directory says of a member. -/
structure Record where
  name : String
  /-- The name as it stands in the archive. -/
  nameBytes : ByteArray
  comment : String
  isEncrypted : Bool
  /-- Whether an extra field says how the member is encrypted. -/
  hasCipher : Bool
  method : Nat
  checksum : Nat
  /-- The number of bytes that the member takes up in the archive. -/
  size : Nat
  /-- The number of bytes that it is said to have when it is unpacked. -/
  fullSize : Nat
  /-- Where the header in front of the member's bytes starts. -/
  header : Nat

def recordMark : List UInt8 := [0x50, 0x4B, 1, 2]

def wideMark : Nat := 0xFFFFFFFF

/-- The method in the place of one that an extra field tells, if the member is encrypted in a newer way. -/
def cipherMethod : Nat := 99

/-- A name or a comment: UTF-8 if its record says so, or else in the old code page. -/
def decodeText (flags : Nat) (b : ByteArray) : String :=
  String.ofList (if flags.testBit 11 then Text.decodeLossy b.toList else Text.decodeCodePage b.toList)

namespace Record

/-- What an extra field makes of a record, with the number of bytes that it took; none if it does not hold
together. The bytes are those from position `i` on, and the field says that it has `length` of them. -/
abbrev FieldReader := Record → (x : ByteArray) → (i length : Nat) → Option (Record × Nat)

/-- Numbers of eight bytes: all three if the field has room for them, or else those that the record marks. -/
def wideNumbers? : FieldReader := fun r x i length =>
  let isGiven (n : Nat) : Bool := 24 ≤ length || n == wideMark
  let (fullSize, k) := if isGiven r.fullSize then (u64 x i, 8) else (r.fullSize, 0)
  let (size, k) := if isGiven r.size then (u64 x (i + k), k + 8) else (r.size, k)
  let (header, k) := if isGiven r.header then (u64 x (i + k), k + 8) else (r.header, k)
  if k ≤ length && i + length ≤ x.size then
    some ({ r with fullSize := fullSize, size := size, header := header }, length)
  else none

/-- Three times in fine steps, which are not kept. -/
def fineTimes? : FieldReader := fun r x i length =>
  if length = 32 ∧ i + length ≤ x.size ∧ u16 x (i + 4) = 1 ∧ u16 x (i + 6) = 24 then some (r, length) else none

/-- Up to three times, which are not kept. Their number follows from the bits of the first byte, but a field
with room for one has one. Room for times of other kinds is not passed over. -/
def times? : FieldReader := fun r x i length =>
  let kinds := (at0 x i).toNat
  let hasTime (k : Nat) : Bool := kinds.testBit k && 5 < length
  let count := (if kinds.testBit 0 || length == 5 then 1 else 0) + (if hasTime 1 then 1 else 0) +
    (if hasTime 2 then 1 else 0)
  if (length = 5 ∨ length = 1 + 4 * (List.range 8).countP kinds.testBit) ∧ i + 1 + 4 * count ≤ x.size then
    some (r, 1 + 4 * count)
  else none

/-- The text in UTF-8 that stands for another one, which the field names by its checksum. -/
def unicode? (plain x : ByteArray) (i length : Nat) : Option String :=
  if 5 ≤ length && i + length ≤ x.size && u32 x (i + 1) == Archive.checksum plain then
    String.fromUTF8? (slice x (i + 5) (length - 5))
  else none

def unicodeName? : FieldReader := fun r x i length =>
  (unicode? r.nameBytes x i length).map fun name =>
    ({ r with name := name, nameBytes := name.toUTF8 }, length)

def unicodeComment? : FieldReader := fun r x i length =>
  (unicode? r.comment.toUTF8 x i length).map fun comment => ({ r with comment := comment }, length)

/-- The method of a member that is encrypted in a newer way. -/
def cipher? : FieldReader := fun r x i length =>
  if length = 7 ∧ i + length ≤ x.size ∧ (u16 x i = 1 ∨ u16 x i = 2) ∧ u16 x (i + 2) = 0x4541 ∧
      1 ≤ at0 x (i + 4) ∧ at0 x (i + 4) ≤ 3 then
    some ({ r with hasCipher := true, method := u16 x (i + 5) }, length)
  else none

def passOver? : FieldReader := fun r x i length => if i + length ≤ x.size then some (r, length) else none

def fieldReader (kind : Nat) : FieldReader :=
  match kind with
  | 0x0001 => wideNumbers?
  | 0x000A => fineTimes?
  | 0x5455 => times?
  | 0x6375 => unicodeComment?
  | 0x7075 => unicodeName?
  | 0x9901 => cipher?
  | _ => passOver?

/-- What the extra fields from position `i` on make of a record. A byte at the end that is too little for the
kind of a field counts for nothing, but a kind has a length after it. -/
def withFields? (x : ByteArray) (i : Nat) (r : Record) : Option Record :=
  if x.size < i + 2 then some r
  else if x.size < i + 4 then none
  else
    match fieldReader (u16 x i) r x (i + 4) (u16 x (i + 2)) with
    | some (r, n) => withFields? x (i + 4 + n) r
    | none => none
termination_by x.size - i

/-- Reads the record at a position, with the shift of all offsets; gives the position after it. A member that
is encrypted in a newer way must tell how. -/
def read? (b : ByteArray) (shift i : Nat) : Option (Record × Nat) := do
  let flags := u16 b (i + 8)
  let nameLength := u16 b (i + 28)
  let fieldsLength := u16 b (i + 30)
  let commentLength := u16 b (i + 32)
  let fields := i + 46 + nameLength
  let comment := fields + fieldsLength
  if hasAt b i recordMark && comment + commentLength ≤ b.size then
    let nameBytes := slice b (i + 46) nameLength
    let r : Record := {
      name := decodeText flags nameBytes
      nameBytes := nameBytes
      comment := decodeText flags (slice b comment commentLength)
      isEncrypted := flags.testBit 0
      hasCipher := false
      method := u16 b (i + 10)
      checksum := u32 b (i + 16)
      size := u32 b (i + 20)
      fullSize := u32 b (i + 24)
      header := u32 b (i + 42) }
    let r ← withFields? (slice b fields fieldsLength) 0 r
    if r.method = cipherMethod ∧ !r.hasCipher ∨ Nat.pow 2 64 ≤ r.header + shift then none
    else some ({ r with header := r.header + shift }, comment + commentLength)
  else none

end Record

end PageBundle.Archive
