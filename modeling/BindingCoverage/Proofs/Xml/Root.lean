import BindingCoverage.Proofs.Xml.Buffer
import BindingCoverage.Proofs.Xml.Content
import BindingCoverage.Proofs.Xml.Lexer

/-!
# Where the root element ends

* `isDocument_iff`: a feed is a document when it does not fail, the lexer gets to its end, and the
  items write one element.
* `exists_root`: a document is complete with the last tag of its root element, and `rootStop` is
  where that tag ends.
-/

namespace BindingCoverage.Xml

theorem isDocument_iff {feed : Feed} {tag : Tag} {inner : Content} :
    (read feed).IsDocument tag inner ↔
      ∃ spans last, Lexer.initial.run feed.octets = .ok (spans, last) ∧
        last.stop feed.failure = none ∧
        Spells (spans.map Span.located) (.element tag inner .nothing) := by
  constructor
  · rintro ⟨hfault, hspells⟩
    obtain ⟨hflat, names, hnest⟩ := nestAll_of_nestedFrom hfault
    have hread : read feed = ⟨(Reading.flat feed).items, (Reading.flat feed).fault⟩ :=
      nestedFrom_of_nestAll hnest
    rw [Reading.flat_eq] at hread hflat
    obtain ⟨spans, last, hrun, hstop⟩ := Lexer.exists_run_of_read hflat
    rw [hread, Lexer.read_of_run _ hrun] at hspells
    exact ⟨spans, last, hrun, hstop, hspells⟩
  · rintro ⟨spans, last, hrun, hstop, hspells⟩
    have hflat : Reading.flat feed = ⟨spans.map Span.located, last.stop feed.failure⟩ :=
      (Reading.flat_eq feed).trans (Lexer.read_of_run _ hrun)
    have hread : read feed = ⟨spans.map Span.located, last.stop feed.failure⟩ := by
      rw [read, Reading.nested, hflat]
      exact nestedFrom_of_nestAll (hspells.nestAll_eq [])
    rw [hread]
    exact ⟨hstop, hspells⟩

/-- Where the tag ends that completes the outermost element, after items that leave `depth`
elements open. -/
def rootStop : Nat → List Span → Option Nat
  | _, [] => none
  | depth, s :: rest =>
    match s.located.item, depth with
    | .aside, depth => rootStop depth rest
    | .start _, depth => rootStop (depth + 1) rest
    | .empty _, 0 => some s.stop
    | .empty _, depth + 1 => rootStop (depth + 1) rest
    | .close _, 0 => none
    | .close _, 1 => some s.stop
    | .close _, depth + 2 => rootStop (depth + 1) rest

section

variable {s : Span} {rest : List Span} {depth : Nat} {tag : Tag} {name : List UInt8}

theorem rootStop_aside (h : s.located.item = .aside) :
    rootStop depth (s :: rest) = rootStop depth rest := by
  rw [rootStop.eq_def]
  simp only [h]

theorem rootStop_start (h : s.located.item = .start tag) :
    rootStop depth (s :: rest) = rootStop (depth + 1) rest := by
  rw [rootStop.eq_def]
  simp only [h]

theorem rootStop_empty (h : s.located.item = .empty tag) :
    rootStop depth (s :: rest) = if depth = 0 then some s.stop else rootStop depth rest := by
  rw [rootStop.eq_def]
  cases depth with
  | zero => simp only [h, if_true]
  | succ depth => simp only [h, Nat.succ_ne_zero, if_false]

theorem rootStop_close (h : s.located.item = .close name) :
    rootStop (depth + 1) (s :: rest) =
      if depth = 0 then some s.stop else rootStop depth rest := by
  rw [rootStop.eq_def]
  cases depth with
  | zero => simp only [h, if_true]
  | succ depth => simp only [h, Nat.succ_ne_zero, if_false]

end

theorem rootStop_within {items : List Located} {d : Content} (h : Spells items d) :
    ∀ {spans rest : List Span} {depth : Nat}, spans.map Span.located = items →
      rootStop (depth + 1) (spans ++ rest) = rootStop (depth + 1) rest := by
  induction h with
  | nothing =>
    intro spans rest depth hspans
    rw [List.map_eq_nil_iff.mp hspans]
    rfl
  | aside hi _ ih =>
    intro spans rest depth hspans
    obtain ⟨s, spans, rfl, rfl, htail⟩ := List.map_eq_cons_iff.mp hspans
    rw [List.cons_append, rootStop_aside hi]
    exact ih htail
  | empty hi _ ih =>
    intro spans rest depth hspans
    obtain ⟨s, spans, rfl, rfl, htail⟩ := List.map_eq_cons_iff.mp hspans
    rw [List.cons_append, rootStop_empty hi, if_neg (Nat.succ_ne_zero depth)]
    exact ih htail
  | paired hi _ hj _ ihInner ihAfter =>
    intro spans rest depth hspans
    obtain ⟨opening, closing, rfl, hopening, hclosing⟩ := List.map_eq_append_iff.mp hspans
    obtain ⟨s, inside, rfl, rfl, hinside⟩ := List.map_eq_cons_iff.mp hopening
    obtain ⟨t, after, rfl, rfl, hafter⟩ := List.map_eq_cons_iff.mp hclosing
    rw [List.append_assoc, List.cons_append, rootStop_start hi, ihInner hinside,
      List.cons_append, rootStop_close hj, if_neg (Nat.succ_ne_zero depth)]
    exact ihAfter hafter

/-- The last tag of the root element. What follows it does not matter. -/
theorem exists_root {items : List Located} {d : Content} (h : Spells items d) :
    ∀ {spans : List Span} {tag : Tag} {inner : Content}, spans.map Span.located = items →
      d = .element tag inner .nothing →
      ∃ first last second, spans = first ++ last :: second ∧ last.located.item ≠ .aside ∧
        Spells ((first ++ [last]).map Span.located) (.element tag inner .nothing) ∧
        ∀ rest, rootStop 0 (first ++ last :: rest) = some last.stop := by
  induction h with
  | nothing => intro spans tag inner _ hd; cases hd
  | aside hi _ ih =>
    intro spans tag inner hspans hd
    obtain ⟨s, spans, rfl, rfl, htail⟩ := List.map_eq_cons_iff.mp hspans
    obtain ⟨first, last, second, rfl, hlast, hspells, hstop⟩ := ih htail hd
    refine ⟨s :: first, last, second, rfl, hlast, .aside hi hspells, fun rest => ?_⟩
    rw [List.cons_append, rootStop_aside hi]
    exact hstop rest
  | empty hi _ _ =>
    intro spans tag inner hspans hd
    cases hd
    obtain ⟨s, spans, rfl, rfl, -⟩ := List.map_eq_cons_iff.mp hspans
    refine ⟨[], s, spans, rfl, by simp [hi], .empty hi .nothing, fun rest => ?_⟩
    rw [List.nil_append, rootStop_empty hi, if_pos rfl]
  | paired hi hinner hj _ _ _ =>
    intro spans tag inner hspans hd
    cases hd
    obtain ⟨opening, closing, rfl, hopening, hclosing⟩ := List.map_eq_append_iff.mp hspans
    obtain ⟨s, inside, rfl, rfl, rfl⟩ := List.map_eq_cons_iff.mp hopening
    obtain ⟨t, after, rfl, rfl, -⟩ := List.map_eq_cons_iff.mp hclosing
    refine ⟨s :: inside, t, after, rfl, by simp [hj], ?_, fun rest => ?_⟩
    · rw [List.map_append, List.map_cons]
      exact .paired hi hinner hj .nothing
    · rw [List.cons_append, rootStop_start hi, rootStop_within hinner rfl, rootStop_close hj,
        if_pos rfl]

end BindingCoverage.Xml
