import JdkCatalog.Compression.Huffman

/-!
# The deflate format

Blocks of bytes that are stored, or written with a Huffman code for single
bytes and for copies of earlier output.  Before the first byte the output is
taken to hold zeros.
-/

namespace JdkCatalog.Compression.Inflate

/-- The least length of a copy, and the number of extra bits, by symbol. -/
def lengths : List (Nat × Nat) :=
  [(3, 0), (4, 0), (5, 0), (6, 0), (7, 0), (8, 0), (9, 0), (10, 0), (11, 1), (13, 1), (15, 1),
    (17, 1), (19, 2), (23, 2), (27, 2), (31, 2), (35, 3), (43, 3), (51, 3), (59, 3), (67, 4),
    (83, 4), (99, 4), (115, 4), (131, 5), (163, 5), (195, 5), (227, 5), (258, 0)]

/-- The least distance of a copy, and the number of extra bits, by symbol. -/
def distances : List (Nat × Nat) :=
  [(1, 0), (2, 0), (3, 0), (4, 0), (5, 1), (7, 1), (9, 2), (13, 2), (17, 3), (25, 3), (33, 4),
    (49, 4), (65, 5), (97, 5), (129, 6), (193, 6), (257, 7), (385, 7), (513, 8), (769, 8),
    (1025, 9), (1537, 9), (2049, 10), (3073, 10), (4097, 11), (6145, 11), (8193, 12),
    (12289, 12), (16385, 13), (24577, 13)]

/-- The order in which the word lengths of the code for word lengths are
written. -/
def lengthOrder : List Nat :=
  [16, 17, 18, 0, 8, 7, 9, 6, 10, 5, 11, 4, 12, 3, 13, 2, 14, 1, 15]

/-- Repeats a part of the output that starts a distance before its end. -/
def copyBack (out : Array UInt8) (distance : Nat) : (count : Nat) → Array UInt8
  | 0 => out
  | count + 1 =>
    let b := if distance ≤ out.size then out.getD (out.size - distance) 0 else 0
    copyBack (out.push b) distance count

/-- A number that a symbol and its extra bits stand for. -/
def extended (table : List (Nat × Nat)) (symbol : Nat) (stream : BitStream) :
    Option (Nat × BitStream) := do
  let (least, count) ← table[symbol]?
  let (extra, stream) ← stream.takeNumber count
  return (least + extra, stream)

/-- Decodes the symbols of a block up to its end symbol.  Every symbol takes
at least one bit, and `fuel` is at least the number of bits. -/
def symbols (literals copies : Huffman) :
    (fuel : Nat) → Array UInt8 → BitStream → Option (Array UInt8 × BitStream)
  | 0, _, _ => none
  | fuel + 1, out, stream => do
    let (symbol, stream) ← literals.decode stream
    if symbol < 256 then
      symbols literals copies fuel (out.push (UInt8.ofNat symbol)) stream
    else if symbol = 256 then
      return (out, stream)
    else
      let (length, stream) ← extended lengths (symbol - 257) stream
      let (symbol, stream) ← copies.decode stream
      let (distance, stream) ← extended distances symbol stream
      symbols literals copies fuel (copyBack out distance length) stream

/-- A block whose bytes are stored, from the next whole byte on. -/
def stored (out : Array UInt8) (stream : BitStream) : Option (Array UInt8 × BitStream) := do
  let (length, bytes) ← takeBytes 2 stream.bytes
  let (complement, bytes) ← takeBytes 2 bytes
  if littleEndian length + littleEndian complement ≠ 0xffff then
    none
  else
    let (data, bytes) ← takeBytes (littleEndian length) bytes
    return (out ++ data, .ofBytes bytes)

/-- The fixed codes. -/
def fixedCodes? : Option (Huffman × Huffman) := do
  let literals ← Huffman.ofLengths? false
    (List.replicate 144 8 ++ List.replicate 112 9 ++ List.replicate 24 7 ++ List.replicate 8 8)
  let copies ← Huffman.ofLengths? false (List.replicate 32 5)
  return (literals, copies)

/-- Numbers of three bits, each. -/
def threeBitNumbers : Nat → BitStream → Option (List Nat × BitStream)
  | 0, stream => some ([], stream)
  | count + 1, stream => do
    let (n, stream) ← stream.takeNumber 3
    let (ns, stream) ← threeBitNumbers count stream
    return (n :: ns, stream)

/-- Word lengths, given those so far in reverse: written one by one or as
repetitions, which may not go beyond the number of words. -/
def wordLengths (code : Huffman) (count : Nat) :
    (fuel : Nat) → (taken : List Nat) → BitStream → Option (List Nat × BitStream)
  | 0, _, _ => none
  | fuel + 1, taken, stream =>
    if taken.length = count then
      some (taken.reverse, stream)
    else if count < taken.length then
      none
    else do
      let (symbol, stream) ← code.decode stream
      if symbol < 16 then
        wordLengths code count fuel (symbol :: taken) stream
      else if symbol = 16 then
        let last ← taken.head?
        let (extra, stream) ← stream.takeNumber 2
        wordLengths code count fuel (List.replicate (3 + extra) last ++ taken) stream
      else if symbol = 17 then
        let (extra, stream) ← stream.takeNumber 3
        wordLengths code count fuel (List.replicate (3 + extra) 0 ++ taken) stream
      else
        let (extra, stream) ← stream.takeNumber 7
        wordLengths code count fuel (List.replicate (11 + extra) 0 ++ taken) stream

/-- The codes that are written at the start of a block. -/
def writtenCodes (stream : BitStream) : Option ((Huffman × Huffman) × BitStream) := do
  let (literalCount, stream) ← stream.takeNumber 5
  let (copyCount, stream) ← stream.takeNumber 5
  let (lengthCount, stream) ← stream.takeNumber 4
  let literalCount := literalCount + 257
  let copyCount := copyCount + 1
  if 286 < literalCount ∨ 30 < copyCount then
    none
  else
    let (ns, stream) ← threeBitNumbers (lengthCount + 4) stream
    let written := lengthOrder.zip ns
    let lengthCode ← Huffman.ofLengths? false
      ((List.range 19).map fun symbol => (written.lookup symbol).getD 0)
    let count := literalCount + copyCount
    let (all, stream) ← wordLengths lengthCode count (count + 1) [] stream
    let literals ← Huffman.ofLengths? true (all.take literalCount)
    let copies ← Huffman.ofLengths? true (all.drop literalCount)
    return ((literals, copies), stream)

/-- Decodes blocks up to the last one.  Every block and every symbol takes at
least one bit, and `bits` and `fuel` are at least the number of bits. -/
def blocks (bits : Nat) :
    (fuel : Nat) → Array UInt8 → BitStream → Option (Array UInt8 × BitStream)
  | 0, _, _ => none
  | fuel + 1, out, stream => do
    let (isLast, stream) ← stream.takeNumber 1
    let (kind, stream) ← stream.takeNumber 2
    let (out, stream) ←
      match kind with
      | 0 => stored out stream
      | 1 => do
        let (literals, copies) ← fixedCodes?
        symbols literals copies bits out stream
      | 2 => do
        let ((literals, copies), stream) ← writtenCodes stream
        symbols literals copies bits out stream
      | _ => none
    if isLast = 1 then return (out, stream) else blocks bits fuel out stream

/-- The data that a stream stands for, and the bytes that follow it. -/
def decode? (bytes : List UInt8) : Option (List UInt8 × List UInt8) := do
  let bits := 8 * bytes.length
  let (out, rest) ← blocks bits bits #[] (.ofBytes bytes)
  return (out.toList, rest.bytes)

end JdkCatalog.Compression.Inflate
