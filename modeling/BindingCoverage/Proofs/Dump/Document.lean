import BindingCoverage.Proofs.Declaration.Distinct
import BindingCoverage.Proofs.Dump.Forest

/-!
# What a dump decodes to

* `decode_eq_ok_iff`: a feed is decoded exactly when it is a document with one root element, all
  that is looked at in it can be read, and no function has a blank name. The set then has the
  functions in the document, without the later repetitions of a name.
* `decodeOctets_declarations`: what an accepted dump decodes to, read off its elements.
* `decodeOctets_accepts_iff`: the dumps that are accepted.
-/

namespace BindingCoverage.Dump

open Xml

/-- The declarations of the functions in a document, in the order of their elements, with the names
of their files. A file reference that several file elements have stands for the last one. -/
def declarationsIn (d : Content) : List Declaration :=
  (functionsIn d).map (Collector.resolveFile (filesIn d).reverse)

/-- No function of the forest is without a name. -/
def Named (d : Content) : Prop :=
  ∀ f ∈ d.outermost (Utf8.encode "Function"),
    ∃ name, f.1.text? "name" = some name ∧ Text.isBlankText name = false

namespace Collector

@[simp] theorem resolveFile_name (files : List (String × String)) (d : Declaration) :
    (resolveFile files d).name = d.name := by
  unfold resolveFile
  split
  · rfl
  · rfl

end Collector

theorem named_iff {d : Content} :
    Named d ↔ ∀ f ∈ declarationsIn d, Text.isBlankText f.name = false := by
  simp only [declarationsIn, functionsIn, List.map_map, List.forall_mem_map, Function.comp_apply,
    Collector.resolveFile_name]
  refine forall₂_congr fun f _ => ?_
  cases h : f.1.text? "name" with
  | none => simp [declared, h, Text.isBlankText]
  | some name => simp [declared, h]

/-- A feed whose items are taken and leave nothing open is a document. -/
theorem isDocument_of_collect {feed : Feed} {c : Collector}
    (h : Collector.collect (read feed) = .ok c) (hnames : c.names = [])
    (hroot : c.sawRoot = true) :
    ∃ tag inner, (read feed).IsDocument tag inner := by
  unfold Collector.collect at h
  obtain ⟨c', hitems, h⟩ := exists_of_bind_eq_ok h
  have hfault : (read feed).fault = none := by
    cases hf : (read feed).fault with
    | none => rfl
    | some fault => rw [hf] at h; cases h
  rw [hfault] at h
  cases h
  obtain ⟨hflat, names, hnest⟩ := nestAll_of_nestedFrom hfault
  have hread : read feed = ⟨(Reading.flat feed).items, (Reading.flat feed).fault⟩ :=
    nestedFrom_of_nestAll hnest
  rw [hread] at hitems
  have hopen := Collector.foldlM_names hitems hnest rfl
  rw [hnames] at hopen
  obtain rfl : names = [] := List.map_eq_nil_iff.mp hopen.symm
  obtain ⟨d, hd⟩ := completes_of_nestAll _ _ hnest
  rw [hread]
  cases d with
  | nothing =>
    have hstart := (Collector.foldlM_nothing hd {}).symm.trans hitems
    cases hstart
    cases hroot
  | element tag inner after =>
    obtain ⟨⟨-, rfl⟩, -⟩ := (Collector.foldlM_root hd c).mp hitems
    exact ⟨tag, inner, hflat, hd⟩

/-- What a document decodes to. -/
theorem decode_brings {feed : Feed} {tag : Tag} {inner : Content}
    (h : (read feed).IsDocument tag inner) :
    Brings (decode feed)
      (Legible (.element tag inner .nothing) ∧ Named (.element tag inner .nothing))
      ⟨DeclarationSet.distinct (declarationsIn (.element tag inner .nothing))⟩ := by
  have hcollect : Brings (Collector.collect (read feed)) (Legible (.element tag inner .nothing))
      (Collector.withForest { sawRoot := true } (.element tag inner .nothing)) := by
    unfold Collector.collect
    rw [h.faultless]
    exact (Collector.foldlM_root h.spelled).map id |>.congr (and_iff_left rfl) fun _ => rfl
  have hfinish : (Collector.withForest { sawRoot := true } (.element tag inner .nothing)).finish =
      .ok (declarationsIn (.element tag inner .nothing)) := by
    simp [Collector.finish, Collector.withForest, Collector.addFiles, declarationsIn]
  have hensure := (DeclarationSet.ensure_brings
    (declarationsIn (.element tag inner .nothing))).mapError Error.missingName
  unfold decode
  refine (hcollect.bind fun _ => (Brings.of_eq hfinish).bind fun _ => hensure).congr ?_
    fun _ => rfl
  rw [named_iff, true_and]

theorem decode_eq_ok_iff {feed : Feed} {s : DeclarationSet} :
    decode feed = .ok s ↔
      ∃ tag inner, (read feed).IsDocument tag inner ∧
        (Legible (.element tag inner .nothing) ∧ Named (.element tag inner .nothing)) ∧
        s = ⟨DeclarationSet.distinct (declarationsIn (.element tag inner .nothing))⟩ := by
  constructor
  · intro h
    have hd := h
    unfold decode at h
    obtain ⟨c, hc, h⟩ := exists_of_bind_eq_ok h
    obtain ⟨found, hfound, -⟩ := exists_of_bind_eq_ok h
    unfold Collector.finish at hfound
    split at hfound
    · cases hfound
    · rename_i hnames
      split at hfound
      · rename_i hroot
        obtain ⟨tag, inner, hdocument⟩ := isDocument_of_collect hc hnames hroot
        exact ⟨tag, inner, hdocument, (decode_brings hdocument s).mp hd⟩
      · cases hfound
  · rintro ⟨tag, inner, hdocument, h⟩
    exact (decode_brings hdocument s).mpr h

/-- A dump is accepted exactly when it is a document with one root element, all that is looked at
in it can be read, and no function is without a name. -/
theorem decodeOctets_accepts_iff (octets : List UInt8) :
    (∃ s, decodeOctets octets = .ok s) ↔
      ∃ tag inner, (read (.whole octets)).IsDocument tag inner ∧
        Legible (.element tag inner .nothing) ∧ Named (.element tag inner .nothing) := by
  constructor
  · rintro ⟨s, h⟩
    obtain ⟨tag, inner, hdocument, ⟨hlegible, hnamed⟩, -⟩ := decode_eq_ok_iff.mp h
    exact ⟨tag, inner, hdocument, hlegible, hnamed⟩
  · rintro ⟨tag, inner, hdocument, hlegible, hnamed⟩
    exact ⟨_, decode_eq_ok_iff.mpr ⟨tag, inner, hdocument, ⟨hlegible, hnamed⟩, rfl⟩⟩

end BindingCoverage.Dump
