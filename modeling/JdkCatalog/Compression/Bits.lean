/-!
# Bits

Bytes as a stream of bits, least significant first, and numbers in it.
-/

namespace JdkCatalog.Compression

/-- The bits of a byte, least significant first. -/
def bitsOfByte (b : UInt8) : List Bool :=
  (List.range 8).map b.toNat.testBit

/-- A stream of bits: what is left of the byte that has been begun, and the
bytes after it. -/
structure BitStream where
  /-- The bits that are left of the first byte. -/
  begun : List Bool
  /-- The other bytes. -/
  bytes : List UInt8

namespace BitStream

/-- The stream of the bits of several bytes. -/
def ofBytes (bytes : List UInt8) : BitStream :=
  ⟨[], bytes⟩

/-- The first bit, and the stream after it. -/
def next? : BitStream → Option (Bool × BitStream)
  | ⟨bit :: begun, bytes⟩ => some (bit, ⟨begun, bytes⟩)
  | ⟨[], b :: bytes⟩ => some (b.toNat.testBit 0, ⟨(bitsOfByte b).tail, bytes⟩)
  | ⟨[], []⟩ => none

/-- The number in the first bits of a stream, least significant first. -/
def takeNumber : (count : Nat) → BitStream → Option (Nat × BitStream)
  | 0, stream => some (0, stream)
  | count + 1, stream => do
    let (bit, stream) ← stream.next?
    let (n, stream) ← takeNumber count stream
    return (bit.toNat + 2 * n, stream)

end BitStream

/-- The number that bytes stand for, least significant first. -/
def littleEndian (bytes : List UInt8) : Nat :=
  bytes.foldr (fun b n => b.toNat + 256 * n) 0

/-- The first bytes of a text, if there are as many, and the others. -/
def takeBytes (count : Nat) (bytes : List UInt8) : Option (List UInt8 × List UInt8) :=
  let taken := bytes.take count
  if taken.length = count then some (taken, bytes.drop count) else none

end JdkCatalog.Compression
