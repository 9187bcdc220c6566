/-!
Reading numbers out of bytes. The number of lowest weight comes first.
-/

namespace PageBundle.Bytes

/-- The byte at a position; zero past the end. -/
def at0 (b : ByteArray) (i : Nat) : UInt8 := if h : i < b.size then b[i] else 0

/-- The number in the `n` bytes from a position on. -/
def number (b : ByteArray) (i : Nat) : Nat → Nat
  | 0 => 0
  | n + 1 => (at0 b i).toNat + 256 * number b (i + 1) n

def u16 (b : ByteArray) (i : Nat) : Nat := number b i 2

def u32 (b : ByteArray) (i : Nat) : Nat := number b i 4

def u64 (b : ByteArray) (i : Nat) : Nat := number b i 8

def hasAt (b : ByteArray) (i : Nat) (mark : List UInt8) : Bool :=
  i + mark.length ≤ b.size && (List.range mark.length).map (fun k => at0 b (i + k)) == mark

def slice (b : ByteArray) (i n : Nat) : ByteArray := b.extract i (min (i + n) b.size)

end PageBundle.Bytes
