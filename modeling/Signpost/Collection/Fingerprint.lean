import Signpost.Collection
import Signpost.Collection.Options
import Signpost.Digest.Sha256

/-!
# Collections — Fingerprints

A digest of everything that a compiled matcher depends on.  What goes into it is encoded so that
nothing can be read in two ways: a text comes with its length, a list with the number of its
entries.
-/

namespace Signpost

namespace Fingerprint

/-- The version of the encoding. -/
def version : String := "0.1.0"

/-- A number as eight bytes, the lowest first. -/
def littleEndian64 (n : Nat) : List UInt8 :=
  [0, 8, 16, 24, 32, 40, 48, 56].map fun shift => (n >>> shift).toUInt8

def encodeText (text : String) : List UInt8 :=
  littleEndian64 text.utf8ByteSize ++ text.toUTF8.toList

def encodeList (texts : List String) : List UInt8 :=
  littleEndian64 texts.length ++ texts.flatMap encodeText

def encodeDict (d : Dict String) : List UInt8 :=
  littleEndian64 d.size ++ d.toList.flatMap fun e => encodeText e.1 ++ encodeText e.2

def encodeRoute (r : Route) : List UInt8 :=
  encodeText (r.name.getD "") ++ encodeText r.path ++ encodeText (r.domain.getD "") ++
    encodeList r.methods ++ encodeList r.schemes ++ encodeDict r.patterns ++ encodeDict r.defaults

end Fingerprint

namespace Collection

open Fingerprint in
/-- What the digest is taken of. -/
def encoding (c : Collection) (options : CompileOptions) : List UInt8 :=
  encodeText version ++ encodeText options.strategy.name ++ littleEndian64 options.sizeLimit ++
    c.routes.flatMap encodeRoute

/-- The fingerprint of the routes under the given options. -/
def fingerprint (c : Collection) (options : CompileOptions) : String :=
  Sha256.hexDigest (c.encoding options)

end Collection

end Signpost
