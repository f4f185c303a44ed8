import BindingCoverage.Dump.File
import BindingCoverage.Proofs.Dump.Position
import BindingCoverage.Proofs.Xml.Feed

/-!
# How a dump is delivered

* `decode_congr`: only the octets of a feed count, and how it ends.
* `decode_split_mark`: when the byte-order mark is not within the first piece, it counts as text,
  and all that comes of it is that positions are counted from its first octet.
* `decode_every_delivery`: so a dump that is delivered in buffers or held in a file is decoded as
  one that is held in memory.
-/

namespace BindingCoverage.Dump

open Xml (Delivery Feed Lexer Reading)

theorem decode_congr {feed feed' : Feed} (hOctets : feed.octets = feed'.octets)
    (hFailure : feed.failure = feed'.failure) : decode feed = decode feed' := by
  have hFlat : Reading.flat feed = Reading.flat feed' := by
    rw [Reading.flat_eq, Reading.flat_eq, hOctets, hFailure]
  rw [decode_eq, decode_eq, Xml.read, Xml.read, hFlat]

theorem decode_split_mark {feed feed' : Feed} (hFailure : feed.failure = none)
    (hFailure' : feed'.failure = none)
    (hOctets : feed.octets = Feed.byteOrderMark ++ feed'.octets) :
    decode feed = (decode feed').mapError (·.mapPosition (3 + ·)) := by
  have hFlat : (Reading.flat feed).tags = (Reading.flat feed').tags.mapPosition (3 + ·) := by
    rw [Reading.flat_eq, Reading.flat_eq, hFailure, hFailure', hOctets]
    exact Lexer.read_mark feed'.octets
  calc decode feed
      = ofReading (Reading.flat feed).tags.nested := by
        rw [Xml.nested_tags, ofReading_tags]
        rfl
    _ = ofReading ((Reading.flat feed').tags.nested.mapPosition (3 + ·)) := by
        rw [hFlat, Xml.nested_mapPosition]
    _ = (decode feed').mapError (·.mapPosition (3 + ·)) := by
        rw [ofReading_mapPosition, Xml.nested_tags, ofReading_tags]
        rfl

theorem Error.unplaced_mapPosition (f : Nat → Nat) (e : Error) :
    (e.mapPosition f).unplaced = e.unplaced := by
  cases e with
  | _ => rfl

/-- A dump that is delivered is decoded as one that is held in memory, unless its byte-order mark is
not within the first piece. -/
theorem decode_delivered {feed : Feed} (hFailure : feed.failure = none) :
    decode feed = decodeOctets feed.delivered ∨
      Feed.byteOrderMark <+: feed.delivered ∧
        decode feed = (decodeOctets feed.delivered).mapError (·.mapPosition (3 + ·)) := by
  have hWhole := Feed.whole_octets feed.delivered
  have hFeed := feed.octets_eq_drop
  by_cases hFirst : Feed.markSize feed.first = Feed.markSize feed.delivered
  · exact .inl (decode_congr (by rw [hFeed, hWhole, hFirst]) hFailure)
  · -- The marks differ only if there is one, which the first piece does not hold.
    have hShort : ¬ Feed.byteOrderMark <+: feed.first := fun hMark => hFirst (by
      unfold Feed.markSize
      rw [if_pos (List.isPrefixOf_iff_prefix.mpr hMark),
        if_pos (List.isPrefixOf_iff_prefix.mpr (hMark.trans feed.first_prefix))])
    have hNone : Feed.markSize feed.first = 0 :=
      if_neg fun hMark => hShort (List.isPrefixOf_iff_prefix.mp hMark)
    have hMark : Feed.byteOrderMark <+: feed.delivered := by
      by_contra hMark
      exact hFirst (hNone.trans
        (if_neg fun h => hMark (List.isPrefixOf_iff_prefix.mp h)).symm)
    refine .inr ⟨hMark, decode_split_mark hFailure rfl ?_⟩
    have hSize : Feed.markSize feed.delivered = Feed.byteOrderMark.length :=
      if_pos (List.isPrefixOf_iff_prefix.mpr hMark)
    rw [hFeed, hNone, hWhole, hSize, List.drop_zero]
    exact List.prefix_iff_eq_append.mp hMark |>.symm

theorem decodeFile_file {files : Host.Files} {path : String} {octets : List UInt8}
    {isExecutable : Bool} (h : files.node path = .ok (.file octets isExecutable)) :
    decodeFile files path = decodeOctets octets := by
  have hOctets : (Feed.buffered pieceSize octets none).octets = (Feed.whole octets).octets := by
    rw [Feed.buffered_octets _ _ _ (by decide), Feed.whole_octets]
  unfold decodeFile
  rw [h]
  exact decode_congr hOctets rfl

/-- A dump decodes to the same set, or to the same error but for its position, in whatever buffers
and with whatever interruptions it is delivered; an empty buffer would be the end of the dump. If it
does not begin with a byte-order mark, the position is the same too. In a file it decodes as in
memory. -/
theorem decode_every_delivery (octets : List UInt8) :
    (∀ deliveries, .buffer [] ∉ deliveries → deliveries.flatMap Delivery.octets = octets →
      (decode ⟨deliveries, none⟩).mapError Error.unplaced =
          (decodeOctets octets).mapError Error.unplaced ∧
        (¬ Feed.byteOrderMark <+: octets → decode ⟨deliveries, none⟩ = decodeOctets octets)) ∧
    ∀ files path isExecutable, files.node path = .ok (.file octets isExecutable) →
      decodeFile files path = decodeOctets octets := by
  refine ⟨?_, fun files path isExecutable h => decodeFile_file h⟩
  rintro deliveries - rfl
  obtain h | ⟨hMark, h⟩ := @decode_delivered ⟨deliveries, none⟩ rfl
  · exact ⟨congrArg (Except.mapError Error.unplaced) h, fun _ => h⟩
  · refine ⟨?_, fun hUnmarked => absurd hMark hUnmarked⟩
    rw [h, mapError_mapError]
    exact congrArg (Except.mapError · _) (funext (Error.unplaced_mapPosition _))

/-- A dump that is delivered octet by octet, with an interruption before every one, or held in a
file. -/
theorem decode_every_delivery_octets :
    ∃ octets deliveries, ∃ files : Host.Files,
      octets = Utf8.encode
        ("<?xml version='1.0'?><!DOCTYPE r [<!ENTITY e '<>'>]><!-- <r> - -- -->" ++
        "<r title='/>'><![CDATA[ </r> ]] ]]><Function name='rbd_open'/></r>") ∧
      deliveries = octets.flatMap (fun b => [.interrupted, .buffer [b]]) ∧
      files = ⟨[([], .directory), (["dump"], .file octets false)], []⟩ ∧
      decodeOctets octets = .ok ⟨[.named "rbd_open"]⟩ ∧
      decode ⟨deliveries, none⟩ = decodeOctets octets ∧
      decodeFile files "/dump" = decodeOctets octets := by
  refine ⟨_, _, _, rfl, rfl, rfl, ?decoded, ?delivered, ?file⟩
  case decoded => decide +kernel
  case delivered =>
    refine ((decode_every_delivery _).1 _ ?_ ?_).2 ?_
    · decide +kernel
    · decide +kernel
    · decide +kernel
  case file => exact (decode_every_delivery _).2 _ "/dump" false (by decide +kernel)

end BindingCoverage.Dump
