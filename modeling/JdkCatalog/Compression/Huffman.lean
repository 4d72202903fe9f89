import JdkCatalog.Compression.Bits

/-!
# Huffman codes

A canonical Huffman code is given by the lengths of its code words: shorter
words come first, and among words of one length those of smaller symbols.
-/

namespace JdkCatalog.Compression

/-- A code as a tree: a word is the way to its symbol. -/
inductive Huffman where
  /-- There is no word here. -/
  | empty
  /-- The word ends here. -/
  | leaf (symbol : Nat)
  /-- The word goes on with a bit. -/
  | node (zero one : Huffman)
deriving DecidableEq

namespace Huffman

/-- Every way ends at a symbol. -/
def isComplete : Huffman → Bool
  | empty => false
  | leaf _ => true
  | node zero one => zero.isComplete && one.isComplete

/-- Grows the part of a tree below a word of a given length from the symbols
that are left, in the order of their words, and gives back those for which
there is no room. -/
def grow : (levels length : Nat) → List (Nat × Nat) → Huffman × List (Nat × Nat)
  | _, _, [] => (empty, [])
  | levels, length, (wordLength, symbol) :: symbols =>
    if wordLength = length then
      (leaf symbol, symbols)
    else
      match levels with
      | 0 => (empty, (wordLength, symbol) :: symbols)
      | levels + 1 =>
        let (zero, symbols) := grow levels (length + 1) ((wordLength, symbol) :: symbols)
        let (one, symbols) := grow levels (length + 1) symbols
        (node zero one, symbols)

/-- The symbols that have a word, with its length, in the order of their
words. -/
def inOrder (lengths : List Nat) : List (Nat × Nat) :=
  (List.range 16).flatMap fun length =>
    lengths.zipIdx.filter fun entry => entry.1 = length ∧ length ≠ 0

/-- The code with words of given lengths, of at most 15 bits; zero stands for
no word.  A code has to be complete, except that one with no word, or with a
single word of one bit, may be allowed not to be. -/
def ofLengths? (mayBeSparse : Bool) (lengths : List Nat) : Option Huffman :=
  let symbols := inOrder lengths
  let (tree, rest) := grow 15 0 symbols
  if rest.isEmpty && (tree.isComplete || (mayBeSparse && symbols.all (·.1 = 1))) then
    some tree
  else
    none

/-- The symbol whose word a stream starts with. -/
def decode : Huffman → BitStream → Option (Nat × BitStream)
  | empty, _ => none
  | leaf symbol, stream => some (symbol, stream)
  | node zero one, stream =>
    match stream.next? with
    | none => none
    | some (bit, stream) => if bit then one.decode stream else zero.decode stream

end Huffman

end JdkCatalog.Compression
