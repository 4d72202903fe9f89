import JdkCatalog.Compression.Gzip
import JdkCatalog.Compression.Xz

/-!
# Compressed feeds

A feed may be compressed, which shows in its first bytes.
-/

namespace JdkCatalog.Compression

/-- The decoders of the two formats. -/
structure Decoders where
  gzip : List UInt8 → Option (List UInt8)
  xz : List UInt8 → Option (List UInt8)

/-- The decoders for the formats as they are. -/
def Decoders.standard : Decoders :=
  ⟨Gzip.decode?, Xz.decode?⟩

/-- The formats that a feed may have. -/
inductive Format where
  | plain
  | gzip
  | xz
deriving DecidableEq

/-- The bytes that gzip files begin with. -/
def gzipMagic : List UInt8 := [0x1f, 0x8b]

/-- The bytes that xz files begin with. -/
def xzMagic : List UInt8 := [0xfd, 0x37, 0x7a, 0x58, 0x5a, 0x00]

/-- The format that the first bytes show. -/
def Format.of (bytes : List UInt8) : Format :=
  if gzipMagic.isPrefixOf bytes then gzip
  else if xzMagic.isPrefixOf bytes then xz
  else plain

/-- The data of a feed: what a compressed feed is decoded to, and any other
feed as it is. -/
def decode? (decoders : Decoders) (bytes : List UInt8) : Option (List UInt8) :=
  match Format.of bytes with
  | .gzip => decoders.gzip bytes
  | .xz => decoders.xz bytes
  | .plain => some bytes

end JdkCatalog.Compression
