/-!
# Cyclic redundancy checks

The checks of 32 and of 64 bits, in their reflected form.
-/

namespace JdkCatalog.Compression

/-- One bit of the division by the polynomial of 32 bits. -/
def crc32Step (crc : UInt32) : UInt32 :=
  if crc &&& 1 = 1 then (crc >>> 1) ^^^ 0xedb88320 else crc >>> 1

/-- The check of 32 bits. -/
def crc32 (bytes : List UInt8) : UInt32 :=
  bytes.foldl (fun crc b => Nat.repeat crc32Step 8 (crc ^^^ b.toUInt32)) 0xffffffff ^^^ 0xffffffff

/-- One bit of the division by the polynomial of 64 bits. -/
def crc64Step (crc : UInt64) : UInt64 :=
  if crc &&& 1 = 1 then (crc >>> 1) ^^^ 0xc96c5795d7870f42 else crc >>> 1

/-- The check of 64 bits. -/
def crc64 (bytes : List UInt8) : UInt64 :=
  bytes.foldl (fun crc b => Nat.repeat crc64Step 8 (crc ^^^ b.toUInt64)) 0xffffffffffffffff ^^^
    0xffffffffffffffff

end JdkCatalog.Compression
