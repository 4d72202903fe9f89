/-!
# The LZMA coding

Bytes and copies of earlier bytes, written bit by bit with an adaptive range
coder: every kind of bit has a probability of its own, which moves towards
the bits that are seen.
-/

namespace JdkCatalog.Compression.Lzma

/-! ## The range coder -/

/-- A range coder in the middle of a stream. -/
structure Coder where
  /-- The width of the current interval. -/
  range : UInt32
  /-- The place in the interval that the stream points to. -/
  code : UInt32
  /-- The bytes that have not been read. -/
  input : List UInt8
  /-- The probabilities that the next bit of a kind is zero, of 2048. -/
  probabilities : Array UInt32

/-- A step of decoding, which fails on a stream that is damaged or ends. -/
abbrev Decode := StateT Coder Option

/-- A coder at the start of a stream, which is a zero and four bytes. -/
def Coder.start? (probabilities : Array UInt32) : List UInt8 → Option Coder
  | 0 :: a :: b :: c :: d :: input =>
    let code := (a.toUInt32 <<< 24) ||| (b.toUInt32 <<< 16) ||| (c.toUInt32 <<< 8) ||| d.toUInt32
    some ⟨0xffffffff, code, input, probabilities⟩
  | _ => none

/-- Reads another byte once the interval has become narrow. -/
def normalize : Decode Unit := fun coder =>
  if coder.range < 0x1000000 then
    match coder.input with
    | [] => none
    | b :: input =>
      some ((), { coder with
        range := coder.range <<< 8
        code := (coder.code <<< 8) ||| b.toUInt32
        input })
  else
    some ((), coder)

/-- Decodes a bit of a kind. -/
def bit (kind : Nat) : Decode Bool := do
  normalize
  fun ⟨range, code, input, probabilities⟩ =>
    let p := probabilities.getD kind 1024
    let bound := (range >>> 11) * p
    if code < bound then
      let probabilities := probabilities.setIfInBounds kind (p + ((2048 - p) >>> 5))
      some (false, ⟨bound, code, input, probabilities⟩)
    else
      let probabilities := probabilities.setIfInBounds kind (p - (p >>> 5))
      some (true, ⟨range - bound, code - bound, input, probabilities⟩)

/-- Decodes a bit for which both values are as likely. -/
def evenBit : Decode Bool := do
  normalize
  fun coder =>
    let range := coder.range >>> 1
    if coder.code < range then
      some (false, { coder with range })
    else
      some (true, { coder with range, code := coder.code - range })

/-- Decodes a number of evenly likely bits, most significant first. -/
def evenBits : (count : Nat) → (value : Nat) → Decode Nat
  | 0, value => return value
  | count + 1, value => do evenBits count (2 * value + (← evenBit).toNat)

/-- Decodes bits, most significant first, whose kinds form a tree: the kind of
a bit depends on those before it.  `node` is one bit followed by them. -/
def treeBits (base : Nat) : (count : Nat) → (node : Nat) → Decode Nat
  | 0, node => return node
  | count + 1, node => do treeBits base count (2 * node + (← bit (base + node)).toNat)

/-- Decodes a number of bits with a tree of kinds. -/
def tree (base count : Nat) : Decode Nat := do
  return (← treeBits base count 1) - 1 <<< count

/-- Decodes a number of bits with a tree of kinds, least significant first. -/
def reverseTree (base : Nat) : (count : Nat) → (node : Nat) → Decode Nat
  | 0, _ => return 0
  | count + 1, node => do
    let b ← bit (base + node)
    return b.toNat + 2 * (← reverseTree base count (2 * node + b.toNat))

/-! ## Kinds of bits

Where the kinds of bits for each purpose begin. -/

/-- Whether a copy comes, not a literal: by state and position. -/
def isMatch : Nat := 0

/-- Whether a copy is at one of the last distances: by state. -/
def isRepeat : Nat := 192

/-- Whether that distance is not the newest: by state. -/
def isRepeat0 : Nat := 204

/-- Whether it is not the second newest either: by state. -/
def isRepeat1 : Nat := 216

/-- Whether it is the oldest: by state. -/
def isRepeat2 : Nat := 228

/-- Whether a copy at the newest distance has a length: by state and position. -/
def isRepeat0Long : Nat := 240

/-- The magnitude of a distance: by the length of the copy. -/
def distanceSlot : Nat := 432

/-- The rest of a small distance: by its magnitude. -/
def distanceSpecial : Nat := 688

/-- The last bits of a large distance. -/
def distanceAlign : Nat := 816

/-- The length of a copy at a written distance. -/
def matchLength : Nat := 832

/-- The length of a copy at one of the last distances. -/
def repeatLength : Nat := 1346

/-- Literals: by position and by the byte before. -/
def literal : Nat := 1860

/-- How many bits of the last byte and of the position count for literals, and
how many bits of the position for the rest. -/
structure Properties where
  literalContext : Nat
  literalPosition : Nat
  position : Nat

/-- The properties that a byte stands for. -/
def Properties.ofByte? (b : UInt8) : Option Properties :=
  let n := b.toNat
  if n < 225 ∧ n % 9 + n / 9 % 5 ≤ 4 then
    some ⟨n % 9, n / 9 % 5, n / 45⟩
  else
    none

/-- Before anything has been seen both values of every bit are as likely. -/
def evenProbabilities (properties : Properties) : Array UInt32 :=
  Array.replicate
    (literal + 0x300 <<< (properties.literalContext + properties.literalPosition)) 1024

/-! ## Literals and copies -/

/-- What has been decoded, and what it says about what comes next. -/
structure Window where
  /-- How far back a copy may reach. -/
  reach : Nat
  /-- The bytes since the window was last emptied. -/
  bytes : Array UInt8
  /-- What kinds of symbols came last. -/
  state : Nat
  /-- The distances of the last copies, newest first, less one. -/
  repeat0 : Nat
  repeat1 : Nat
  repeat2 : Nat
  repeat3 : Nat

/-- Nothing has come before. -/
def Window.initial (reach : Nat) : Window :=
  ⟨reach, #[], 0, 0, 0, 0, 0⟩

/-- Nothing has come before, whatever bytes there are. -/
def Window.forget (window : Window) : Window :=
  { Window.initial window.reach with bytes := window.bytes }

/-- The byte at a distance, less one. -/
def Window.byteAt (window : Window) (distance : Nat) : UInt8 :=
  window.bytes.getD (window.bytes.size - 1 - distance) 0

/-- Repeats bytes at a distance, less one. -/
def repeatBytes (bytes : Array UInt8) (distance : Nat) : (count : Nat) → Array UInt8
  | 0 => bytes
  | count + 1 =>
    repeatBytes (bytes.push (bytes.getD (bytes.size - 1 - distance) 0)) distance count

/-- Decodes the bits of a literal after a copy, where the byte that the copy
would have gone on with tells what to expect, up to the first bit that
differs from it. -/
def matchedBits (base : Nat) (expected : Nat) : (count : Nat) → (node : Nat) → Decode Nat
  | 0, node => return node
  | count + 1, node => do
    let want := expected.testBit count
    let b ← bit (base + (if want then 0x200 else 0x100) + node)
    let node := 2 * node + b.toNat
    if b == want then
      matchedBits base expected count node
    else
      treeBits base count node

/-- Decodes a literal. -/
def decodeLiteral (properties : Properties) (window : Window) : Decode Window := do
  let size := window.bytes.size
  let last := if size = 0 then 0 else (window.byteAt 0).toNat
  let context :=
    (size % 1 <<< properties.literalPosition) <<< properties.literalContext +
      last >>> (8 - properties.literalContext)
  let base := literal + 0x300 * context
  let node ←
    if window.state < 7 then
      treeBits base 8 1
    else
      matchedBits base (window.byteAt window.repeat0).toNat 8 1
  let state :=
    if window.state < 4 then 0
    else if window.state < 10 then window.state - 3
    else window.state - 6
  return { window with bytes := window.bytes.push (UInt8.ofNat node), state }

/-- Decodes the length of a copy. -/
def decodeLength (base position : Nat) : Decode Nat := do
  if !(← bit base) then
    return 2 + (← tree (base + 2 + 8 * position) 3)
  else if !(← bit (base + 1)) then
    return 10 + (← tree (base + 130 + 8 * position) 3)
  else
    return 18 + (← tree (base + 258) 8)

/-- Decodes the distance of a copy of a given length, less one. -/
def decodeDistance (length : Nat) : Decode Nat := do
  let slot ← tree (distanceSlot + 64 * min (length - 2) 3) 6
  if slot < 4 then
    return slot
  else
    let bits := slot / 2 - 1
    let least := (2 + slot % 2) <<< bits
    if slot < 14 then
      return least + (← reverseTree (distanceSpecial + least - slot) bits 1)
    else
      let high ← evenBits (bits - 4) 0
      return least + 16 * high + (← reverseTree distanceAlign 4 1)

/-- Copies bytes of the window, if they are there and within reach and there is
room for them. -/
def Window.copy (window : Window) (room length : Nat) : Decode Window :=
  if window.repeat0 < min window.bytes.size window.reach ∧ length ≤ room then
    return { window with bytes := repeatBytes window.bytes window.repeat0 length }
  else
    failure

/-- Decodes a copy at a distance that is written. -/
def decodeMatch (window : Window) (room position : Nat) : Decode Window := do
  let length ← decodeLength matchLength position
  let distance ← decodeDistance length
  let state := if window.state < 7 then 7 else 10
  let ⟨reach, bytes, _, r0, r1, r2, _⟩ := window
  Window.copy ⟨reach, bytes, state, distance, r0, r1, r2⟩ room length

/-- Decodes which of the older distances comes next, and makes it the newest. -/
def renewDistance (window : Window) : Decode Window := do
  let ⟨reach, bytes, state, r0, r1, r2, r3⟩ := window
  if !(← bit (isRepeat1 + state)) then
    return ⟨reach, bytes, state, r1, r0, r2, r3⟩
  else if !(← bit (isRepeat2 + state)) then
    return ⟨reach, bytes, state, r2, r0, r1, r3⟩
  else
    return ⟨reach, bytes, state, r3, r0, r1, r2⟩

/-- Decodes the length of a copy at the newest distance, and copies. -/
def decodeRepeatLength (window : Window) (room position : Nat) : Decode Window := do
  let length ← decodeLength repeatLength position
  Window.copy { window with state := if window.state < 7 then 8 else 11 } room length

/-- Decodes a copy at one of the last distances. -/
def decodeRepeat (window : Window) (room position : Nat) : Decode Window := do
  if ← bit (isRepeat0 + window.state) then
    decodeRepeatLength (← renewDistance window) room position
  else if ← bit (isRepeat0Long + 16 * window.state + position) then
    decodeRepeatLength window room position
  else
    Window.copy { window with state := if window.state < 7 then 9 else 11 } room 1

/-- Decodes a literal or a copy. -/
def decodeSymbol (properties : Properties) (window : Window) (room : Nat) : Decode Window := do
  let position := window.bytes.size % 1 <<< properties.position
  if !(← bit (isMatch + 16 * window.state + position)) then
    decodeLiteral properties window
  else if !(← bit (isRepeat + window.state)) then
    decodeMatch window room position
  else
    decodeRepeat window room position

/-- Decodes up to a size of the window.  Every symbol gives at least one byte,
and `fuel` is the number of bytes. -/
def decodeSymbols (properties : Properties) (size : Nat) :
    (fuel : Nat) → Window → Decode Window
  | 0, window => return window
  | fuel + 1, window => do
    if size ≤ window.bytes.size then
      return window
    else
      let window ← decodeSymbol properties window (size - window.bytes.size)
      decodeSymbols properties size fuel window

/-- Decodes a stream that stands for a given number of bytes.  All of it has
to be used, and the coder has to end at zero. -/
def decode? (properties : Properties) (probabilities : Array UInt32) (window : Window)
    (count : Nat) (stream : List UInt8) : Option (Window × Array UInt32) := do
  let coder ← Coder.start? probabilities stream
  let decoding : Decode Window := do
    let window ← decodeSymbols properties (window.bytes.size + count) count window
    normalize
    return window
  let (window, coder) ← decoding coder
  if coder.code = 0 ∧ coder.input.isEmpty then
    some (window, coder.probabilities)
  else
    none

end JdkCatalog.Compression.Lzma
