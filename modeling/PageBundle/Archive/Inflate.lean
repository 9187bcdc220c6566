import PageBundle.Bytes

/-!
Decoding DEFLATE data. The data are a row of blocks, each with bytes as they are, or with symbols in a
prefix code that stand for a byte or for a copy of earlier output.

Decoding stops at the end of the last block, where the data break off, where they make no sense, or when
enough has been written; what was written by then is kept in every case. Each step reads at least one bit,
so the number of bits bounds the steps.
-/

namespace PageBundle.Archive.Inflate

inductive Stop where
  /-- The last block ended. -/
  | finished
  /-- As many bytes were written as were asked for. -/
  | enough
  /-- The data broke off. -/
  | truncated
  /-- The data made no sense. -/
  | corrupt
deriving DecidableEq, Repr

/-- A position in data that are read bit by bit, the lowest bit of a byte first. -/
structure Cursor where
  data : ByteArray
  pos : Nat

namespace Cursor

/-- The number in the next `n` bits, the first of them the lowest. -/
def bits (c : Cursor) (n : Nat) : Except Stop (Nat × Cursor) :=
  if c.pos + n ≤ 8 * c.data.size then
    let v := (List.range n).foldl (fun v k =>
      let i := c.pos + k
      v + (((Bytes.at0 c.data (i / 8)).toNat >>> (i % 8)) % 2) <<< k) 0
    .ok (v, { c with pos := c.pos + n })
  else .error .truncated

/-- The position at the start of the next whole byte. -/
def align (c : Cursor) : Cursor := { c with pos := (c.pos + 7) / 8 * 8 }

end Cursor

/-- A prefix code: how many words of each length there are, and the symbols in the order of their words. -/
structure Code where
  counts : Array Nat
  symbols : Array Nat

namespace Code

def maxLength : Nat := 15

/-- The code whose symbols have words of the given lengths; a length of zero is no word. -/
def ofLengths (lengths : List Nat) : Code where
  counts := (Array.range (maxLength + 1)).map fun l => if l = 0 then 0 else lengths.count l
  symbols := ((List.range maxLength).flatMap fun l =>
    lengths.zipIdx.filterMap fun (n, s) => if n = l + 1 then some s else none).toArray

/-- The share of all words of the greatest length that no symbol uses; none if symbols use too many. -/
def unused? (h : Code) : Option Nat :=
  (List.range maxLength).foldlM (fun left l =>
    let used := h.counts.getD (l + 1) 0
    if 2 * left < used then none else some (2 * left - used)) 1

def isComplete (h : Code) : Bool := h.unused? == some 0

/-- Whether the code may be used for data: complete, or without any word, or with one word of one bit. -/
def isUsable (h : Code) : Bool :=
  h.isComplete || h.symbols.isEmpty || (h.symbols.size == 1 && h.counts.getD 1 0 == 1)

/-- Reads a word on from length `len`; `first` is the first word of that length and `index` the number of
shorter words. -/
def readFrom (h : Code) (left len word first index : Nat) (c : Cursor) : Except Stop (Nat × Cursor) :=
  match left with
  | 0 => .error .corrupt
  | left + 1 =>
    match c.bits 1 with
    | .error e => .error e
    | .ok (b, c) =>
      let word := 2 * word + b
      let count := h.counts.getD len 0
      if word < first + count then .ok (h.symbols.getD (index + (word - first)) 0, c)
      else h.readFrom left (len + 1) word (2 * (first + count)) (index + count) c

def read (h : Code) (c : Cursor) : Except Stop (Nat × Cursor) := h.readFrom maxLength 1 0 0 0 c

end Code

/-- Least length and number of extra bits of each length symbol from 257 on. -/
def lengthTable : Array (Nat × Nat) := #[
  (3, 0), (4, 0), (5, 0), (6, 0), (7, 0), (8, 0), (9, 0), (10, 0), (11, 1), (13, 1), (15, 1), (17, 1),
  (19, 2), (23, 2), (27, 2), (31, 2), (35, 3), (43, 3), (51, 3), (59, 3), (67, 4), (83, 4), (99, 4),
  (115, 4), (131, 5), (163, 5), (195, 5), (227, 5), (258, 0)]

/-- Least distance and number of extra bits of each distance symbol. -/
def distanceTable : Array (Nat × Nat) := #[
  (1, 0), (2, 0), (3, 0), (4, 0), (5, 1), (7, 1), (9, 2), (13, 2), (17, 3), (25, 3), (33, 4), (49, 4),
  (65, 5), (97, 5), (129, 6), (193, 6), (257, 7), (385, 7), (513, 8), (769, 8), (1025, 9), (1537, 9),
  (2049, 10), (3073, 10), (4097, 11), (6145, 11), (8193, 12), (12289, 12), (16385, 13), (24577, 13)]

/-- Reads the extra bits of a symbol and gives its number. -/
def extended (table : Array (Nat × Nat)) (symbol : Nat) (c : Cursor) : Except Stop (Nat × Cursor) :=
  match table[symbol]? with
  | none => .error .corrupt
  | some (base, extra) => do
    let (v, c) ← c.bits extra
    .ok (base + v, c)

structure Codes where
  literals : Code
  distances : Code

/-- The codes of a block that brings none of its own. -/
def Codes.fixed : Codes where
  literals := .ofLengths (List.replicate 144 8 ++ List.replicate 112 9 ++ List.replicate 24 7 ++
    List.replicate 8 8)
  distances := .ofLengths (List.replicate 32 5)

/-- The order in which the lengths of the code for lengths are given. -/
def lengthOrder : List Nat := [16, 17, 18, 0, 8, 7, 9, 6, 10, 5, 11, 4, 12, 3, 13, 2, 14, 1, 15]

def readShortLengths : Nat → List Nat → Cursor → Except Stop (List Nat × Cursor)
  | 0, seen, c => .ok (seen.reverse, c)
  | n + 1, seen, c => do
    let (v, c) ← c.bits 3
    readShortLengths n (v :: seen) c

/-- Reads lengths in their own code until there are `total`, after those read so far in reverse. Symbol 16
repeats the last length; 17 and 18 are runs of zeros. -/
def readLengths (h : Code) (total : Nat) : Nat → List Nat → Cursor → Except Stop (List Nat × Cursor)
  | 0, _, _ => .error .corrupt
  | fuel + 1, seen, c =>
    if seen.length = total then .ok (seen.reverse, c)
    else do
      let (s, c) ← h.read c
      if s < 16 then readLengths h total fuel (s :: seen) c
      else do
        let last ←
          if s = 16 then
            match seen with
            | [] => Except.error Stop.corrupt
            | l :: _ => .ok l
          else .ok 0
        let (base, extra) := if s = 16 then (3, 2) else if s = 17 then (3, 3) else (11, 7)
        let (v, c) ← c.bits extra
        if total < seen.length + base + v then .error .corrupt
        else readLengths h total fuel (List.replicate (base + v) last ++ seen) c

def Codes.read (c : Cursor) : Except Stop (Codes × Cursor) := do
  let (nlen, c) ← c.bits 5
  let (ndist, c) ← c.bits 5
  let (ncode, c) ← c.bits 4
  if 286 < nlen + 257 || 30 < ndist + 1 then .error .corrupt
  else
    let (short, c) ← readShortLengths (ncode + 4) [] c
    let given := lengthOrder.zip short
    let lengths := Code.ofLengths ((List.range 19).map fun s => (given.lookup s).getD 0)
    if !lengths.isComplete then .error .corrupt
    else
      let total := nlen + 257 + ndist + 1
      let (all, c) ← readLengths lengths total (total + 1) [] c
      let literals := all.take (nlen + 257)
      let codes : Codes := ⟨.ofLengths literals, .ofLengths (all.drop (nlen + 257))⟩
      if literals.getD 256 0 = 0 || !codes.literals.isUsable || !codes.distances.isUsable then
        .error .corrupt
      else .ok (codes, c)

/-- Writes `n` bytes, each a copy of the one `distance` bytes before it. -/
def copy (distance : Nat) : Nat → ByteArray → ByteArray
  | 0, out => out
  | n + 1, out => copy distance n (out.push (Bytes.at0 out (out.size - distance)))

/-- How a step of decoding goes on. -/
inductive Step where
  /-- There is more to read in the block. -/
  | more (c : Cursor) (out : ByteArray)
  /-- The block has ended. -/
  | blockEnd (c : Cursor) (out : ByteArray)
  /-- Decoding stops. -/
  | stop (why : Stop) (out : ByteArray)

def readCopy (codes : Codes) (symbol : Nat) (c : Cursor) : Except Stop (Nat × Nat × Cursor) := do
  let (length, c) ← extended lengthTable (symbol - 257) c
  let (d, c) ← codes.distances.read c
  let (distance, c) ← extended distanceTable d c
  .ok (length, distance, c)

def symbolStep (codes : Codes) (c : Cursor) (out : ByteArray) : Step :=
  match codes.literals.read c with
  | .error e => .stop e out
  | .ok (s, c) =>
    if s < 256 then .more c (out.push s.toUInt8)
    else if s = 256 then .blockEnd c out
    else
      match readCopy codes s c with
      | .error e => .stop e out
      | .ok (length, distance, c) =>
        if out.size < distance then .stop .corrupt out else .more c (copy distance length out)

def symbols (codes : Codes) (limit : Nat) : Nat → Cursor → ByteArray → Step
  | 0, _, out => .stop .truncated out
  | fuel + 1, c, out =>
    if limit ≤ out.size then .stop .enough out
    else
      match symbolStep codes c out with
      | .more c out => symbols codes limit fuel c out
      | s => s

/-- Reads a block of bytes that stand as they are, behind their number and its complement. -/
def stored (c : Cursor) (out : ByteArray) : Step :=
  let c := c.align
  match c.bits 16 with
  | .error e => .stop e out
  | .ok (n, c) =>
    match c.bits 16 with
    | .error e => .stop e out
    | .ok (m, c) =>
      if n + m ≠ 0xFFFF then .stop .corrupt out
      else
        let start := c.pos / 8
        let out := out ++ Bytes.slice c.data start n
        if c.data.size < start + n then .stop .truncated out
        else .blockEnd { c with pos := c.pos + 8 * n } out

def block (type limit fuel : Nat) (c : Cursor) (out : ByteArray) : Step :=
  match type with
  | 0 => stored c out
  | 1 => symbols .fixed limit fuel c out
  | 2 =>
    match Codes.read c with
    | .error e => .stop e out
    | .ok (codes, c) => symbols codes limit fuel c out
  | _ => .stop .corrupt out

/-- Reads the header of a block: whether it is the last one, and its type. -/
def header (c : Cursor) : Except Stop (Bool × Nat × Cursor) := do
  let (last, c) ← c.bits 1
  let (type, c) ← c.bits 2
  .ok (last == 1, type, c)

def blocks (limit : Nat) : Nat → Cursor → ByteArray → ByteArray × Stop
  | 0, _, out => (out, .truncated)
  | fuel + 1, c, out =>
    match header c with
    | .error e => (out, e)
    | .ok (last, type, c) =>
      match block type limit (fuel + 1) c out with
      | .more c out => blocks limit fuel c out
      | .blockEnd c out =>
        if last then (out, .finished)
        else if limit ≤ out.size then (out, .enough)
        else blocks limit fuel c out
      | .stop e out => (out, e)

end Inflate

/-- The bytes that data stand for, and why there are no more. Decoding stops soon after `limit` bytes. -/
def inflate (data : ByteArray) (limit : Nat) : ByteArray × Inflate.Stop :=
  Inflate.blocks limit (8 * data.size + 1) ⟨data, 0⟩ .empty

end PageBundle.Archive
