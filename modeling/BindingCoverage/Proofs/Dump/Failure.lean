import BindingCoverage.Dump.File
import BindingCoverage.Proofs.Dump.Defect

/-!
# Sources that fail

When the source of a dump fails, what was delivered until then may have a defect of its own. If it
has none, the failure is the error of the dump.

* `reads_of_not_defective`: what was delivered without a defect is read to its end.
* `decodeFile_source_iff`: only a file that cannot be opened gives an error of the source.
* `decode_failure`: the failure is reported exactly when nothing that was delivered has a defect, as
  malformed markup.
-/

namespace BindingCoverage.Dump

open Xml

/-- The dump is refused with this error whatever else is delivered, and however that ends. An empty
buffer would be the end of the dump. -/
def RefusedWith (deliveries : List Delivery) (e : Error) : Prop :=
  ∀ more failure, .buffer [] ∉ more → decode ⟨deliveries ++ more, failure⟩ = .error e

/-- What was delivered has a defect that is not mended by what comes after it. -/
def Defective (deliveries : List Delivery) : Prop := ∃ e, RefusedWith deliveries e

/-- The octets are read to their end, all end tags among them fit, and no item has a defect. -/
def ReadsTo (octets : List UInt8) (last : Lexer) : Prop :=
  ∃ spans, Lexer.initial.run octets = .ok (spans, last) ∧ Along Fits (spans.map Span.located) ∧
    Sound (spans.map Span.located)

/-! ## What was delivered -/

/-- What comes later is more of the document. -/
def Continues (deliveries : List Delivery) : Prop :=
  ∀ more failure, Feed.octets ⟨deliveries ++ more, failure⟩ =
    Feed.octets ⟨deliveries, none⟩ ++ more.flatMap Delivery.octets

theorem continues_or_nil (deliveries : List Delivery) :
    Continues deliveries ∨ Feed.octets ⟨deliveries, none⟩ = [] := by
  unfold Continues
  simp only [← Feed.unmarked_octets]
  induction deliveries with
  | nil => exact .inr rfl
  | cons d rest ih =>
    cases d with
    | interrupted => exact ih
    | buffer octets =>
      refine .inl fun more failure => ?_
      simp only [List.cons_append, Feed.unmarked, List.flatMap_cons, List.flatMap_append,
        List.append_assoc]

section

variable {deliveries : List Delivery}

theorem Continues.flat_eq (h : Continues deliveries) (more : List Delivery)
    (failure : Option String) : Reading.flat ⟨deliveries ++ more, failure⟩ =
      Lexer.initial.read failure
        (Feed.octets ⟨deliveries, none⟩ ++ more.flatMap Delivery.octets) := by
  rw [Reading.flat_eq, h]

/-- The beginning of an accepted dump has no defect. -/
theorem not_defective_of_accepted {more : List Delivery} {failure : Option String}
    {s : DeclarationSet} (h : decode ⟨deliveries ++ more, failure⟩ = .ok s)
    (hmore : .buffer [] ∉ more) : ¬ Defective deliveries := by
  rintro ⟨e, he⟩
  have hrefused := he more failure hmore
  rw [h] at hrefused
  cases hrefused

/-- A reading that stays the same and has a fault is refused. -/
theorem defective_of_read {r : Reading} {f : Fault} (hfault : r.fault = some f)
    (h : ∀ more failure, read ⟨deliveries ++ more, failure⟩ = r) : Defective deliveries := by
  obtain ⟨e, he⟩ : ∃ e, ofReading r = .error e := by
    unfold ofReading Collector.collect
    cases r.items.foldlM Collector.take ({} : Collector) with
    | error e => exact ⟨e, rfl⟩
    | ok c =>
      rw [hfault]
      exact ⟨_, rfl⟩
  refine ⟨e, fun more failure _ => ?_⟩
  rw [decode_eq, h]
  exact he

theorem defective_of_refused (h : Continues deliveries) {f : Fault}
    (hrun : Lexer.initial.run (Feed.octets ⟨deliveries, none⟩) = .error f) :
    Defective deliveries := by
  obtain ⟨items, hread⟩ := Lexer.read_append_of_error hrun
  have hsame : ∀ more failure,
      read ⟨deliveries ++ more, failure⟩ = nestedFrom [] (some f) items := by
    intro more failure
    rw [read_eq, h.flat_eq, hread]
  obtain ⟨-, hnested⟩ | ⟨before, i, after, e, rfl, -, -, hnested⟩ := nestedFrom_cases (some f) items
  · exact defective_of_read (congrArg Reading.fault hnested) hsame
  · exact defective_of_read (congrArg Reading.fault (hnested (some f) after)) hsame

variable {spans : List Span} {last : Lexer}

theorem Continues.read_eq_nested (h : Continues deliveries)
    (hrun : Lexer.initial.run (Feed.octets ⟨deliveries, none⟩) = .ok (spans, last))
    (more : List Delivery) (failure : Option String) :
    ∃ r : Reading, read ⟨deliveries ++ more, failure⟩ =
      nestedFrom [] r.fault (spans.map Span.located ++ r.items) := by
  refine ⟨last.read failure (more.flatMap Delivery.octets), ?_⟩
  rw [read_eq, h.flat_eq, Lexer.read_append_of_run failure _ hrun]

theorem defective_of_misfit (h : Continues deliveries)
    (hrun : Lexer.initial.run (Feed.octets ⟨deliveries, none⟩) = .ok (spans, last))
    (hfits : ¬ Along Fits (spans.map Span.located)) : Defective deliveries := by
  obtain ⟨hall, -⟩ | ⟨before, i, after, e, hitems, -, -, hnested⟩ :=
    nestedFrom_cases none (spans.map Span.located)
  · exact absurd hall hfits
  · refine defective_of_read (congrArg Reading.fault (hnested none [])) fun more failure => ?_
    obtain ⟨r, hread⟩ := h.read_eq_nested hrun more failure
    rw [hread, hitems, List.append_assoc, List.cons_append, hnested, hnested]

theorem defective_of_unsound (h : Continues deliveries)
    (hrun : Lexer.initial.run (Feed.octets ⟨deliveries, none⟩) = .ok (spans, last))
    (hfits : Along Fits (spans.map Span.located)) (hsound : ¬ Sound (spans.map Span.located)) :
    Defective deliveries := by
  obtain ⟨before, i, after, hitems, hbefore, hi⟩ := exists_first hsound
  obtain ⟨e, hdefect⟩ := Option.ne_none_iff_exists'.mp hi
  refine ⟨e, fun more failure _ => ?_⟩
  obtain ⟨r, hread⟩ := h.read_eq_nested hrun more failure
  rw [nestedFrom_of_fits hfits, hitems, List.append_assoc, List.cons_append] at hread
  exact ofReading_of_defect (read_fits _) (congrArg Reading.items hread) hbefore hdefect

/-- What was delivered without a defect is read to its end. -/
theorem reads_of_not_defective (h : ¬ Defective deliveries) :
    ∃ last, ReadsTo (Feed.octets ⟨deliveries, none⟩) last := by
  obtain hmore | hnil := continues_or_nil deliveries
  · cases hrun : Lexer.initial.run (Feed.octets ⟨deliveries, none⟩) with
    | error f => exact absurd (defective_of_refused hmore hrun) h
    | ok q =>
      obtain ⟨spans, last⟩ := q
      have hfits : Along Fits (spans.map Span.located) := by
        by_contra hfits
        exact h (defective_of_misfit hmore hrun hfits)
      have hsound : Sound (spans.map Span.located) := by
        by_contra hsound
        exact h (defective_of_unsound hmore hrun hfits hsound)
      exact ⟨last, spans, hrun, hfits, hsound⟩
  · rw [hnil]
    exact ⟨Lexer.initial, [], rfl, along_nil, along_nil⟩

/-- The failure of the source is a fault where the item starts that is under way. -/
theorem ReadsTo.decode_eq (h : ReadsTo (Feed.octets ⟨deliveries, none⟩) last) (text : String) :
    decode ⟨deliveries, some text⟩ = .error (.markup last.start (.source text)) := by
  obtain ⟨spans, hrun, hfits, hsound⟩ := h
  have hread : read ⟨deliveries, some text⟩ =
      ⟨spans.map Span.located, some ⟨last.start, .source text⟩⟩ := by
    have hflat := (Reading.flat_eq ⟨deliveries, some text⟩).trans
      (Lexer.read_of_run (some text) hrun)
    rw [read_eq, hflat]
    exact nestedFrom_of_nestAll (nestAll_of_fits hfits)
  rw [Dump.decode_eq, hread]
  exact ofReading_of_fault (r := ⟨_, some ⟨last.start, .source text⟩⟩) hfits hsound rfl

end

/-! ## Errors of the source -/

theorem decode_ne_source (feed : Feed) (text : String) : decode feed ≠ .error (.source text) := by
  intro h
  obtain ⟨before, i, after, -, -, hdefect⟩ | ⟨f, -, he⟩ | hend := decode_error_cases h
  · exact defect_ofItem hdefect
  · cases he
  · obtain ⟨name, he⟩ | he | ⟨index, he, -⟩ := endDefect_cases hend
    · cases he
    · cases he
    · cases he

theorem decodeFile_source_iff {files : Host.Files} {path text : String} :
    decodeFile files path = .error (.source text) ↔
      ∃ e, files.node path = .error e ∧ e.message = text := by
  unfold decodeFile
  cases hnode : files.node path with
  | error e =>
    constructor
    · intro h
      cases h
      exact ⟨e, rfl, rfl⟩
    · rintro ⟨e', he, rfl⟩
      cases he
      rfl
  | ok node =>
    refine iff_of_false (decode_ne_source (feedOf node) text) ?_
    rintro ⟨e, he, -⟩
    cases he

/-- When the source of a dump fails, this is reported unless something that was delivered has a
defect, whatever would have come after it: as an error of the markup, at the start of the item under
way. It is never an error of the source, so that it is one where it has to be only if there is a
defect. An error of the source comes of a file exactly if the file cannot be opened. (An empty
buffer would be the end of the dump; the source does not fail after it.) -/
theorem decode_failure {deliveries : List Delivery} (_ : .buffer [] ∉ deliveries)
    (files : Host.Files) (path text : String) :
    ((¬ Defective deliveries → decode ⟨deliveries, some text⟩ = .error (.source text)) ↔
      Defective deliveries) ∧
    (¬ Defective deliveries ↔
      ∃ last, ReadsTo (Feed.octets ⟨deliveries, none⟩) last ∧
        ∀ text, decode ⟨deliveries, some text⟩ = .error (.markup last.start (.source text))) ∧
    (decodeFile files path = .error (.source text) ↔
      ∃ e, files.node path = .error e ∧ e.message = text) := by
  refine ⟨?_, ⟨fun h => ?_, ?_⟩, decodeFile_source_iff⟩
  · constructor
    · intro h
      by_contra hdefective
      exact decode_ne_source _ _ (h hdefective)
    · exact fun hdefective h => absurd hdefective h
  · obtain ⟨last, hreads⟩ := reads_of_not_defective h
    exact ⟨last, hreads, hreads.decode_eq⟩
  · rintro ⟨last, -, hfailure⟩ ⟨e, he⟩
    -- One error cannot have the texts of two failures.
    have hone := he [] (some "") List.not_mem_nil
    have htwo := he [] (some " ") List.not_mem_nil
    rw [List.append_nil, hfailure] at hone htwo
    simpa using hone.trans htwo.symm

/-- A source that fails within a comment, and a directory in place of a file. -/
theorem decode_failure_comment :
    ∃ (deliveries : List Delivery) (files : Host.Files) (last : Lexer),
      deliveries =
        [.interrupted, .buffer (Utf8.encode "<r><Function name='f'/>"),
          .buffer (Utf8.encode "<!--")] ∧
      files = ⟨[([], .directory), (["dumps"], .directory)], []⟩ ∧
      .buffer [] ∉ deliveries ∧ ¬ Defective deliveries ∧ last.start = 23 ∧
      (∀ text, decode ⟨deliveries, some text⟩ = .error (.markup last.start (.source text))) ∧
      decodeFile files "/dumps" = .error (.markup 0 (.source "Is a directory (os error 21)")) ∧
      decodeFile files "/dumps" ≠ .error (.source "Is a directory (os error 21)") := by
  obtain ⟨deliveries, hdeliveries⟩ : ∃ deliveries : List Delivery, deliveries =
    [.interrupted, .buffer (Utf8.encode "<r><Function name='f'/>"), .buffer (Utf8.encode "<!--")] :=
    ⟨_, rfl⟩
  obtain ⟨files, hfiles⟩ : ∃ files : Host.Files,
    files = ⟨[([], .directory), (["dumps"], .directory)], []⟩ := ⟨_, rfl⟩
  have hbuffers : .buffer [] ∉ deliveries := by
    rw [hdeliveries]
    decide +kernel
  have haccepted : decode ⟨deliveries ++ [.buffer (Utf8.encode " --></r>")], none⟩ =
      .ok ⟨[.named "f"]⟩ := by
    rw [hdeliveries]
    decide +kernel
  have hdefective := not_defective_of_accepted haccepted (by decide +kernel)
  obtain ⟨-, hreported, hopened⟩ :=
    decode_failure hbuffers files "/dumps" "Is a directory (os error 21)"
  obtain ⟨last, -, hfailure⟩ := hreported.mp hdefective
  have hstart : decode ⟨deliveries, some ""⟩ = .error (.markup 23 (.source "")) := by
    rw [hdeliveries]
    decide +kernel
  rw [hfailure] at hstart
  refine ⟨deliveries, files, last, hdeliveries, hfiles, hbuffers, hdefective, by simpa using hstart,
    hfailure, ?_, fun h => ?_⟩
  · rw [hfiles]
    decide +kernel
  · obtain ⟨e, hnode, -⟩ := hopened.mp h
    have hdirectory : files.node "/dumps" = .ok .directory := by
      rw [hfiles]
      decide +kernel
    rw [hdirectory] at hnode
    cases hnode

/-- Before the failure there is only the beginning of a dump that is accepted when it is
complete. -/
theorem decode_failing_reader :
    ∃ deliveries more : List Delivery,
      deliveries = [.buffer (Utf8.encode "<?p?>"), .buffer (Utf8.encode "<a>")] ∧
      more = [.buffer (Utf8.encode "text<!--c--><Function name='x'/><![CDATA[z]]></a>")] ∧
      decode ⟨deliveries ++ more, none⟩ = .ok ⟨[.named "x"]⟩ ∧ ¬ Defective deliveries ∧
      decode ⟨deliveries, some "reader failed"⟩ =
        .error (.markup 8 (.source "reader failed")) ∧
      decode ⟨deliveries, some "reader failed"⟩ ≠ .error (.source "reader failed") := by
  refine ⟨_, _, rfl, rfl, ?accepted, not_defective_of_accepted ?accepted ?buffers, ?_, ?_⟩
  all_goals decide +kernel

end BindingCoverage.Dump
