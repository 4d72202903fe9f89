import JdkCatalog.Compression.Checksum
import JdkCatalog.Compression.Inflate

/-!
# The gzip format

A member of a gzip file: a header with optional fields, deflated data, and a
check of the data and of its size.  What follows the member is not looked
at.
-/

namespace JdkCatalog.Compression.Gzip

/-- The text up to a zero byte, of less than 64 KiB, and what follows it. -/
def skipText? (bytes : List UInt8) : Option (List UInt8) :=
  match bytes.dropWhile (· != 0) with
  | [] => none
  | _ :: rest => if bytes.length - rest.length ≤ 65536 then some rest else none

/-- Skips an optional field if the flag for it is set. -/
def skipIf (isPresent : Bool) (skip? : List UInt8 → Option (List UInt8)) (bytes : List UInt8) :
    Option (List UInt8) :=
  if isPresent then skip? bytes else some bytes

/-- The bytes behind a header.  Its method has to be deflate, the reserved
flags have to be clear, and its own check has to be right. -/
def skipHeader? (bytes : List UInt8) : Option (List UInt8) :=
  match bytes with
  | 0x1f :: 0x8b :: 8 :: flags :: _ :: _ :: _ :: _ :: _ :: _ :: rest => do
    if 0x20 ≤ flags then none
    let rest ← skipIf (flags &&& 4 != 0) (fun bytes => do
      let (size, rest) ← takeBytes 2 bytes
      let (_, rest) ← takeBytes (littleEndian size) rest
      return rest) rest
    let rest ← skipIf (flags &&& 8 != 0) skipText? rest
    let rest ← skipIf (flags &&& 16 != 0) skipText? rest
    let header := bytes.take (bytes.length - rest.length)
    skipIf (flags &&& 2 != 0) (fun bytes => do
      let (check, rest) ← takeBytes 2 bytes
      if littleEndian check = (crc32 header).toNat % 65536 then some rest else none) rest
  | _ => none

/-- The data of the first member. -/
def decode? (bytes : List UInt8) : Option (List UInt8) := do
  let (data, rest) ← Inflate.decode? (← skipHeader? bytes)
  let (check, rest) ← takeBytes 4 rest
  let (size, _) ← takeBytes 4 rest
  if littleEndian check = (crc32 data).toNat ∧ littleEndian size = data.length % UInt32.size then
    some data
  else
    none

end JdkCatalog.Compression.Gzip
