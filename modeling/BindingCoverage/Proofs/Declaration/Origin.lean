import BindingCoverage.Declaration.Json
import BindingCoverage.Dump.File
import BindingCoverage.Proofs.Declaration.Canonical

/-!
# Where sets of declarations come from

`DeclarationSet.Origin` lists the ways to come by a set. Every way but one checks the names.

* `Dump.decode_canonical`, `Dump.decodeFile_canonical`: sets that are read from dumps are canonical.
* `origin_canonical_iff`: a set is canonical unless it was read as it was written, from a list that
  checking would refuse or shorten.
* `repeated_written`: such a list, and the set with a repeated name that is read from it.
-/

namespace BindingCoverage

namespace Dump

theorem decode_canonical {feed : Xml.Feed} {s : DeclarationSet} (h : decode feed = .ok s) :
    s.Canonical := by
  unfold decode at h
  obtain ⟨_, -, h⟩ := exists_of_bind_eq_ok h
  obtain ⟨found, -, h⟩ := exists_of_bind_eq_ok h
  cases hEnsure : DeclarationSet.ensure found with
  | error e =>
    rw [hEnsure] at h
    cases h
  | ok s' =>
    rw [hEnsure] at h
    cases h
    exact DeclarationSet.ensure_canonical hEnsure

theorem decodeFile_canonical {files : Host.Files} {path : String} {s : DeclarationSet}
    (h : decodeFile files path = .ok s) : s.Canonical := by
  unfold decodeFile at h
  obtain ⟨node, -, h⟩ := exists_of_bind_eq_ok h
  exact decode_canonical h

end Dump

namespace DeclarationSet

/-- The ways to come by a set. -/
inductive Origin where
  | nothing
  /-- A list is checked. -/
  | checked (found : List Declaration)
  | dump (feed : Xml.Feed)
  | heldDump (octets : List UInt8)
  | dumpFile (files : Host.Files) (path : String)
  /-- A set is read as it was written. -/
  | written (text : List UInt8)

/-- The set comes from the origin. -/
def Origin.Gives : Origin → DeclarationSet → Prop
  | .nothing, s => s = empty
  | .checked found, s => ensure found = .ok s
  | .dump feed, s => Dump.decode feed = .ok s
  | .heldDump octets, s => Dump.decodeOctets octets = .ok s
  | .dumpFile files path, s => Dump.decodeFile files path = .ok s
  | .written text, s => ofJson text = .ok s

theorem empty_canonical : empty.Canonical := ⟨nofun, List.nodup_nil⟩

theorem ofJson_eq_ok_iff {text : List UInt8} {s : DeclarationSet} :
    ofJson text = .ok s ↔ Declaration.listOfJson text = .ok s.declarations := by
  unfold ofJson
  cases Declaration.listOfJson text with
  | error e => exact ⟨nofun, nofun⟩
  | ok found =>
    constructor
    · rintro ⟨⟩
      rfl
    · rintro ⟨⟩
      rfl

/-- Wherever a set comes from, no name is blank and no name comes twice, unless it is read as it was
written: then this is so exactly if checking would leave the list that is read as it is. -/
theorem origin_canonical_iff {o : Origin} {s : DeclarationSet} (h : o.Gives s) :
    s.Canonical ↔ ∀ text found, o = .written text → Declaration.listOfJson text = .ok found →
      ensure found = .ok ⟨found⟩ := by
  have hChecked : s.Canonical → (∀ text, o ≠ .written text) →
      (s.Canonical ↔ ∀ text found, o = .written text → Declaration.listOfJson text = .ok found →
        ensure found = .ok ⟨found⟩) :=
    fun hs ho => iff_of_true hs fun text _ hEq => absurd hEq (ho text)
  cases o with
  | nothing =>
    have hEmpty : s = empty := h
    exact hChecked (hEmpty ▸ empty_canonical) nofun
  | checked found => exact hChecked (ensure_canonical h) nofun
  | dump feed => exact hChecked (Dump.decode_canonical h) nofun
  | heldDump octets => exact hChecked (Dump.decode_canonical h) nofun
  | dumpFile files path => exact hChecked (Dump.decodeFile_canonical h) nofun
  | written text =>
    have hList := ofJson_eq_ok_iff.mp h
    rw [canonical_iff]
    constructor
    · rintro hs _ found ⟨⟩ hFound
      rw [hList] at hFound
      cases hFound
      exact hs
    · intro hAll
      exact hAll text s.declarations rfl hList

/-- Names with blanks around them, in a dump and in a list that was written. -/
theorem origin_canonical_iff_blanks :
    ∃ s : DeclarationSet, s = ⟨[.named " rbd_open", .named "rbd_open"]⟩ ∧
      (Origin.heldDump (Utf8.encode ("<r><Function name=' rbd_open'/><Function name='rbd_open'/>" ++
        "<Function name=' rbd_open'/></r>"))).Gives s ∧
      (Origin.written (Utf8.encode
        "[\x7b\"name\":\" rbd_open\"\x7d,\x7b\"name\":\"rbd_open\"\x7d]")).Gives s ∧
      s.Canonical := by
  refine ⟨_, rfl, ?dump, ?list, (origin_canonical_iff ?dump).mpr nofun⟩
  case dump =>
    change Dump.decodeOctets _ = _
    decide +kernel
  case list =>
    change ofJson _ = _
    decide +kernel

/-- A list with a repeated name is read as it is. -/
theorem repeated_written :
    ∃ s : DeclarationSet, s = ⟨[.named "rbd_open", .named "rbd_open"]⟩ ∧
      (Origin.written (Utf8.encode
        "[\x7b\"name\":\"rbd_open\"\x7d,\x7b\"name\":\"rbd_open\"\x7d]")).Gives s ∧
      ¬ s.Canonical := by
  refine ⟨_, rfl, ?_, fun h => ?_⟩
  · change ofJson _ = _
    decide +kernel
  · exact absurd h.distinct (by decide)

end DeclarationSet

end BindingCoverage
