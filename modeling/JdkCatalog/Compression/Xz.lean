import JdkCatalog.Compression.Bits
import JdkCatalog.Compression.Checksum
import JdkCatalog.Compression.Lzma
import JdkCatalog.Compression.Sha256

/-!
# The xz format

One stream of blocks of LZMA2 chunks, with checks of all of its parts.
Nothing may follow the stream.
-/

namespace JdkCatalog.Compression.Xz

/-! ## Chunks -/

/-- What one chunk leaves to the next. -/
structure Chunks where
  /-- The bytes of earlier windows. -/
  earlier : Array UInt8
  /-- The current window. -/
  window : Lzma.Window
  /-- The window has been emptied at least once. -/
  isStarted : Bool
  /-- The properties and probabilities, unless they have to be set anew. -/
  model : Option (Lzma.Properties × Array UInt32)

/-- Before the first chunk of a block with a given size of the dictionary. -/
def Chunks.initial (dictionarySize : Nat) : Chunks :=
  ⟨#[], .initial dictionarySize, false, none⟩

/-- All bytes that have been decoded. -/
def Chunks.bytes (chunks : Chunks) : List UInt8 :=
  chunks.earlier.toList ++ chunks.window.bytes.toList

/-- Empties the window. -/
def Chunks.restart (chunks : Chunks) : Chunks :=
  { earlier := chunks.earlier ++ chunks.window.bytes
    window := { chunks.window with bytes := #[] }
    isStarted := true
    model := none }

/-- Decodes the chunk that a control byte begins.  The first chunk empties the
window, and after that the first compressed one sets the properties. -/
def chunk (chunks : Chunks) (control : UInt8) (bytes : List UInt8) :
    Option (Chunks × List UInt8) := do
  let chunks := if 0xe0 ≤ control || control = 1 then chunks.restart else chunks
  if !chunks.isStarted then none
  if control < 0x80 then
    if 2 < control then none
    match bytes with
    | a :: b :: bytes =>
      let (data, bytes) ← takeBytes (a.toNat * 256 + b.toNat + 1) bytes
      let window := { chunks.window with bytes := chunks.window.bytes ++ data.toArray }
      return ({ chunks with window }, bytes)
    | _ => none
  else
    match bytes with
    | a :: b :: c :: d :: bytes =>
      let count := (control.toNat % 0x20 * 256 + a.toNat) * 256 + b.toNat + 1
      let size := c.toNat * 256 + d.toNat + 1
      let (window, properties, probabilities, bytes) ←
        if 0xc0 ≤ control then
          match bytes with
          | p :: bytes => do
            let properties ← Lzma.Properties.ofByte? p
            pure (chunks.window.forget, properties, Lzma.evenProbabilities properties, bytes)
          | [] => none
        else do
          let (properties, probabilities) ← chunks.model
          if 0xa0 ≤ control then
            pure (chunks.window.forget, properties, Lzma.evenProbabilities properties, bytes)
          else
            pure (chunks.window, properties, probabilities, bytes)
      let (stream, bytes) ← takeBytes size bytes
      let (window, probabilities) ← Lzma.decode? properties probabilities window count stream
      return ({ chunks with window, model := some (properties, probabilities) }, bytes)
    | _ => none

/-- Decodes chunks up to the end mark.  Every chunk takes at least one byte, and
`fuel` is the number of bytes. -/
def chunksFrom : (fuel : Nat) → Chunks → List UInt8 → Option (List UInt8 × List UInt8)
  | 0, _, _ => none
  | _ + 1, _, [] => none
  | fuel + 1, chunks, control :: bytes =>
    if control = 0 then
      some (chunks.bytes, bytes)
    else do
      let (chunks, bytes) ← chunk chunks control bytes
      chunksFrom fuel chunks bytes

/-! ## Parts of a stream -/

/-- A number in groups of seven bits, least significant first, at most nine of
them, and without a superfluous last one. -/
def takeVarNumber : (groups : Nat) → List UInt8 → Option (Nat × List UInt8)
  | 0, _ => none
  | _ + 1, [] => none
  | groups + 1, b :: bytes =>
    if b < 0x80 then
      some (b.toNat, bytes)
    else do
      let (n, rest) ← takeVarNumber groups bytes
      if n = 0 then none else some (b.toNat - 0x80 + 128 * n, rest)

/-- Removes bytes that have to be zero. -/
def skipZeros (count : Nat) (bytes : List UInt8) : Option (List UInt8) := do
  let (zeros, rest) ← takeBytes count bytes
  if zeros.all (· == 0) then some rest else none

/-- Removes a check of 32 bits of the bytes before it. -/
def skipCrc32 (checked bytes : List UInt8) : Option (List UInt8) := do
  let (check, rest) ← takeBytes 4 bytes
  if littleEndian check = (crc32 checked).toNat then some rest else none

/-- How the data of blocks is checked, by its number in the format. -/
structure CheckKind where
  id : Nat

/-- How many bytes a check takes. -/
def CheckKind.size (kind : CheckKind) : Nat :=
  [0, 4, 4, 4, 8, 8, 8, 16, 16, 16, 32, 32, 32, 64, 64, 64].getD kind.id 0

/-- A check is right.  A kind that is not in use cannot be checked. -/
def CheckKind.accepts (kind : CheckKind) (data check : List UInt8) : Bool :=
  match kind.id with
  | 1 => littleEndian check = (crc32 data).toNat
  | 4 => littleEndian check = (crc64 data).toNat
  | 10 => check = Sha256.digest data
  | _ => true

/-- The size of a part that has to be a multiple of four bytes. -/
def paddingOf (size : Nat) : Nat :=
  (4 - size % 4) % 4

/-- The sizes of a block, as they are listed in the index. -/
structure BlockSizes where
  unpadded : Nat
  uncompressed : Nat
deriving DecidableEq

/-- A size that a block header may give. -/
def optionalSize (isPresent : Bool) (bytes : List UInt8) : Option (Option Nat × List UInt8) :=
  if isPresent then
    (takeVarNumber 9 bytes).map fun (n, rest) => (some n, rest)
  else
    some (none, bytes)

/-- The size of the dictionary that a byte stands for, in steps of two and three
times a power of two. -/
def dictionarySize? (b : UInt8) : Option Nat :=
  let n := b.toNat
  if n < 40 then some ((2 + n % 2) <<< (n / 2 + 11))
  else if n = 40 then some (UInt32.size - 1)
  else none

/-- What a block header says. -/
structure BlockHeader where
  /-- The size of the data as it is stored. -/
  compressed : Option Nat
  /-- The size of the data. -/
  uncompressed : Option Nat
  /-- How far back copies may reach. -/
  dictionarySize : Nat

/-- Reads what stands in a block header between its size and its check: the
sizes of the data, where they are given, and LZMA2 as the only filter. -/
def blockHeader (fields : List UInt8) : Option BlockHeader := do
  match fields with
  | flags :: fields =>
    if flags &&& 0x3f ≠ 0 then none
    let (compressed, fields) ← optionalSize (flags &&& 0x40 != 0) fields
    let (uncompressed, fields) ← optionalSize (flags &&& 0x80 != 0) fields
    match fields with
    | 0x21 :: 1 :: dictionary :: padding =>
      let dictionarySize ← dictionarySize? dictionary
      if padding.all (· == 0) ∧ compressed ≠ some 0 then
        some ⟨compressed, uncompressed, dictionarySize⟩
      else
        none
    | _ => none
  | [] => none

/-- Decodes the block whose header has a given size byte. -/
def block (kind : CheckKind) (sizeByte : UInt8) (bytes : List UInt8) :
    Option ((List UInt8 × BlockSizes) × List UInt8) := do
  let headerSize := 4 * (sizeByte.toNat + 1)
  let (fields, rest) ← takeBytes (headerSize - 5) bytes
  let data ← skipCrc32 (sizeByte :: fields) rest
  let header ← blockHeader fields
  let (out, rest) ← chunksFrom data.length (.initial header.dictionarySize) data
  let compressedSize := data.length - rest.length
  if header.compressed.any (· ≠ compressedSize) ∨ header.uncompressed.any (· ≠ out.length) then
    none
  let rest ← skipZeros (paddingOf compressedSize) rest
  let (check, rest) ← takeBytes kind.size rest
  if !kind.accepts out check then none
  return ((out, ⟨headerSize + compressedSize + kind.size, out.length⟩), rest)

/-- Reads the records of an index. -/
def records : (count : Nat) → List UInt8 → Option (List BlockSizes × List UInt8)
  | 0, bytes => some ([], bytes)
  | count + 1, bytes => do
    let (unpadded, bytes) ← takeVarNumber 9 bytes
    let (uncompressed, bytes) ← takeVarNumber 9 bytes
    let (sizes, bytes) ← records count bytes
    return (⟨unpadded, uncompressed⟩ :: sizes, bytes)

/-- Reads the index after its mark, which has to list the blocks, and gives its
size. -/
def index (sizes : List BlockSizes) (bytes : List UInt8) : Option (Nat × List UInt8) := do
  let (count, rest) ← takeVarNumber 9 bytes
  if count ≠ sizes.length then none
  let (listed, rest) ← records count rest
  if listed ≠ sizes then none
  let rest ← skipZeros (paddingOf (1 + bytes.length - rest.length)) rest
  let size := 1 + bytes.length - rest.length
  let rest ← skipCrc32 (0 :: bytes.take (size - 1)) rest
  return (size + 4, rest)

/-- Reads the footer, which has to agree with the flags of the header and with
the size of the index, and has to be the end. -/
def footer (flags : List UInt8) (indexSize : Nat) (bytes : List UInt8) : Option Unit := do
  let (check, rest) ← takeBytes 4 bytes
  let (fields, rest) ← takeBytes 6 rest
  let (size, flags') := fields.splitAt 4
  if littleEndian check = (crc32 fields).toNat ∧ 4 * (littleEndian size + 1) = indexSize ∧
      flags' = flags ∧ rest = [0x59, 0x5a] then
    return ()
  else
    none

/-- Decodes blocks up to the index, and reads the rest of the stream.  Every
block takes at least one byte, and `fuel` is the number of bytes. -/
def blocksFrom (kind : CheckKind) (flags : List UInt8) :
    (fuel : Nat) → (out : List (List UInt8)) → (sizes : List BlockSizes) → List UInt8 →
      Option (List UInt8)
  | 0, _, _, _ => none
  | _ + 1, _, _, [] => none
  | fuel + 1, out, sizes, b :: bytes =>
    if b = 0 then do
      let (indexSize, rest) ← index sizes.reverse bytes
      footer flags indexSize rest
      return out.reverse.flatten
    else do
      let ((data, size), rest) ← block kind b bytes
      blocksFrom kind flags fuel (data :: out) (size :: sizes) rest

/-- The data of a stream. -/
def decode? (bytes : List UInt8) : Option (List UInt8) := do
  match bytes with
  | 0xfd :: 0x37 :: 0x7a :: 0x58 :: 0x5a :: 0 :: zero :: kind :: rest =>
    let flags := [zero, kind]
    let rest ← skipCrc32 flags rest
    if zero ≠ 0 ∨ 0x10 ≤ kind then none
    blocksFrom ⟨kind.toNat⟩ flags rest.length [] [] rest
  | _ => none

end JdkCatalog.Compression.Xz
