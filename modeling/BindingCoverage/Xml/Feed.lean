/-!
# Feeds

A document reaches its reader in pieces. A `Feed` is the sequence of what the source delivers,
with the way it ends: at the end of the document, or with a failure.

* `Feed.whole`: everything at once.
* `Feed.buffered`: pieces of a fixed size.
* `Feed.octets`: the octets of the document. A byte-order mark is no part of the document; it is
  recognised only when the first piece holds all of it.
-/

namespace BindingCoverage.Xml

/-- What one request to the source brings. An interruption brings nothing, and the request is
made again. -/
inductive Delivery where
  | interrupted
  | buffer (octets : List UInt8)
  deriving DecidableEq, Repr

def Delivery.octets : Delivery → List UInt8
  | .interrupted => []
  | .buffer octets => octets

structure Feed where
  deliveries : List Delivery
  /-- The text of the failure that ends the feed, if one does. -/
  failure : Option String
  deriving DecidableEq, Repr

namespace Feed

def whole (octets : List UInt8) : Feed := ⟨[.buffer octets], none⟩

/-- A feed that fails at once. -/
def failed (text : String) : Feed := ⟨[], some text⟩

/-- Pieces of `size + 1` octets, the last one possibly shorter. `room` is what the piece under way,
held last octet first, can still take. -/
def pieces (size : Nat) : Nat → List UInt8 → List UInt8 → List (List UInt8)
  | _, piece, [] => if piece.isEmpty then [] else [piece.reverse]
  | 0, piece, b :: rest => (b :: piece).reverse :: pieces size size [] rest
  | room + 1, piece, b :: rest => pieces size room (b :: piece) rest

/-- Pieces of at most `size` octets; a size of zero counts as one. -/
def buffered (size : Nat) (octets : List UInt8) (failure : Option String) : Feed :=
  ⟨(pieces (size - 1) (size - 1) [] octets).map .buffer, failure⟩

/-- The same feed with an interruption before every delivery. -/
def interrupting (f : Feed) : Feed :=
  { f with deliveries := f.deliveries.flatMap fun d => [.interrupted, d] }

def byteOrderMark : List UInt8 := [0xEF, 0xBB, 0xBF]

/-- Everything that is delivered. -/
def delivered (f : Feed) : List UInt8 := f.deliveries.flatMap Delivery.octets

/-- The first piece, whatever interruptions come before it. -/
def first (f : Feed) : List UInt8 :=
  ((f.deliveries.find? (· != .interrupted)).map Delivery.octets).getD []

def octets (f : Feed) : List UInt8 :=
  if byteOrderMark.isPrefixOf f.first then f.delivered.drop byteOrderMark.length else f.delivered

end Feed

end BindingCoverage.Xml
