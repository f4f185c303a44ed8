import BindingCoverage.Json.Decoder

/-!
# Libraries

The libraries whose bindings can be checked. Each has a key, a symbol prefix, and a stub: a C
source that includes the library's headers and defines a marker function, so that the source is
never without a function. The marker's name does not begin with the prefix of any library.
-/

namespace BindingCoverage

inductive Library where
  | cephfs
  | rados
  | rbd
  deriving DecidableEq, Repr

/-- No library has this key. -/
structure UnknownLibrary where
  key : String
  deriving DecidableEq, Repr

def UnknownLibrary.message (e : UnknownLibrary) : String :=
  s!"no C stub available for '{e.key}'"

namespace Library

def all : List Library := [.cephfs, .rados, .rbd]

/-- Names a library on the command line and in file names. -/
def key : Library → String
  | .cephfs => "cephfs"
  | .rados => "rados"
  | .rbd => "rbd"

/-- What the names of the library's functions begin with. -/
def symbolPrefix : Library → String
  | .cephfs => "ceph_"
  | .rados => "rados_"
  | .rbd => "rbd_"

def ofKey (key : String) : Except UnknownLibrary Library :=
  match all.find? (·.key == key) with
  | some l => .ok l
  | none => .error ⟨key⟩

def markerFunction : String := "foo"

def markerMacro : String := "GNDN"

def headers : Library → String
  | .cephfs =>
    "\n#define FILE_OFFSET_BITS 64\n#include <stdlib.h>\n#define __USE_FILE_OFFSET64\n" ++
    "#include <cephfs/libcephfs.h>\n"
  | .rados => "\n#include <rados/librados.h>\n"
  | .rbd => "\n#include <rbd/librbd.h>\n#include <rbd/features.h>\n"

def marker : String :=
  "\n\n#define GNDN\nGNDN int foo(int x) \x7b\n    return x;\n\x7d\n"

/-- The C source that the extractor is given. -/
def stub (l : Library) : String := l.headers ++ marker

/-! ## Reading keys -/

/-- Reads a key, or an object whose only field is a key with the value `null`. -/
def decoder : Json.Decoder Library := fun _ c => do
  let variant (c : Json.Cursor) : Except Json.Error (Library × Json.Cursor) := do
    let (key, after) ← Json.stringBody c.advance
    match ofKey key with
    | .ok l => return (l, after)
    | .error _ => after.fail (.unknownVariant key (all.map (·.key)))
  let (b, c) ← Json.Decoder.atValue c
  if b == 0x22 then variant c
  else if b == 0x7B then
    let c := c.advance.skipBlanks
    let (l, c) ←
      match c.peek with
      | some 0x22 => variant c
      | some 0x7D => c.failNext .expectedValue
      | some _ => c.failNext .keyNotString
      | none => c.fail .endInObject
    let c ← Json.Decoder.colon c
    let (b, c) ← Json.Decoder.atValue c
    let c ←
      if b == 0x6E then Json.word [0x75, 0x6C, 0x6C] c.advance
      else Json.mismatch "unit" c
    let c := c.skipBlanks
    match c.peek with
    | some 0x7D => return (l, c.advance)
    | some _ => c.fail .expectedValue
    | none => c.fail .endInObject
  else c.failNext .expectedValue

/-- Reads an array of libraries. -/
def listOfJson (text : List UInt8) : Except Json.Error (List Library) :=
  Json.Decoder.run (Json.Decoder.list decoder) text

/-- The place of a library among all libraries. -/
def rank : Library → Nat
  | .cephfs => 0
  | .rados => 1
  | .rbd => 2

end Library

end BindingCoverage
