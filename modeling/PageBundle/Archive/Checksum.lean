/-!
CRC-32, the checksum of archive members.
-/

namespace PageBundle.Archive

/-- The remainder of one byte, by eight steps of the reflected polynomial. -/
def crcByte (n : Nat) : UInt32 :=
  (List.range 8).foldl (fun r _ => if r &&& 1 == 1 then (r >>> 1) ^^^ 0xEDB88320 else r >>> 1) n.toUInt32

def crcTable : Array UInt32 := ((List.range 256).map crcByte).toArray

def checksum (b : ByteArray) : Nat :=
  let r := b.foldl (fun r x => crcTable.getD ((r ^^^ x.toUInt32) &&& 0xFF).toNat 0 ^^^ (r >>> 8)) 0xFFFFFFFF
  (r ^^^ 0xFFFFFFFF).toNat

end PageBundle.Archive
