import Remedy.Text.Utf8
import Remedy.Patch.Spec

/-!
# Source encodings

A file that is not valid UTF-8 is held as one unit per byte, so that writing it back reproduces
every byte a patch did not touch. The texts of a plan are then held in the same way.
-/

namespace Remedy

inductive SourceEncoding where
  | utf8
  | latin1
  deriving DecidableEq, Repr

namespace SourceEncoding

def decode : SourceEncoding → Bytes → Text
  | .utf8 => Utf8.decode
  | .latin1 => Latin1.decode

def encode : SourceEncoding → Text → Bytes
  | .utf8 => Utf8.encode
  | .latin1 => Latin1.encode

def label : SourceEncoding → Text
  | .utf8 => "utf-8"
  | .latin1 => "latin1"

/-- A plan's text as it stands in a file's text. -/
def toSource : SourceEncoding → Text → Text
  | .utf8, t => t
  | .latin1, t => Latin1.decode (Utf8.encode t)

/-- A file's text as scanning and verification read it. -/
def ofSource : SourceEncoding → Text → Text
  | .utf8, t => t
  | .latin1, t => Utf8.decode (Latin1.encode t)

end SourceEncoding

/-- The content of a source file. -/
structure Source where
  text : Text
  encoding : SourceEncoding
  deriving DecidableEq, Repr

namespace Source

def ofBytes (bytes : Bytes) : Source :=
  let t := Utf8.decode bytes
  if Utf8.encode t = bytes then ⟨t, .utf8⟩ else ⟨Latin1.decode bytes, .latin1⟩

def toBytes (source : Source) : Bytes := source.encoding.encode source.text

end Source

def EndMarker.toSource (encoding : SourceEncoding) : EndMarker → EndMarker
  | .columnZeroBrace gate => .columnZeroBrace (gate.map encoding.toSource)
  | .braceDepth => .braceDepth

def Locator.toSource (encoding : SourceEncoding) : Locator → Locator
  | .exact anchor => .exact (encoding.toSource anchor)
  | .signature header stop => .signature (encoding.toSource header) (stop.toSource encoding)

/-- A patch with every text it searches for or inserts in the encoding of a file. -/
def PatchSpec.toSource (spec : PatchSpec) (encoding : SourceEncoding) : PatchSpec :=
  { spec with
    locator := spec.locator.toSource encoding
    replacement := encoding.toSource spec.replacement }

end Remedy
