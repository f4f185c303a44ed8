import BindingCoverage.Dump.File
import BindingCoverage.Proofs.Dump.Defect
import BindingCoverage.Proofs.Text.Utf8

/-!
# The collector in step with the reader

The reader holds the octets of the names of the open elements, and the collector the texts of those
names, in which octets that are no text are replaced. In every state that a dump leads to, both are
about the same elements: `take_follows` keeps them in step over one item, and `foldlM_follows` over
all that were taken. Here is what this says of the collector.

* `reverse_of_functionDepth`: counted from the root, the function that is open is the first element
  of its name.
* `Follows.consistent`: what the collector keeps in a reachable state.
* `take_neverMismatched`: an end tag that the reader lets through is one that the collector expects.
* `Follows.finish_names`: no function is missing from what a complete dump brings.
* `decode_bookkeeping`: all of this, for every dump and after each of its items.
-/

namespace BindingCoverage.Dump

open Xml

/-! ## Names of open elements -/

/-- Only the octets of the word itself are read as it. -/
theorem lossy_eq_function_iff {name : List UInt8} :
    Utf8.lossy name = "Function" ↔ name = Utf8.encode "Function" :=
  Utf8.lossy_eq_iff (by decide)

theorem function_mem_lossy_iff {names : List (List UInt8)} :
    "Function" ∈ names.map Utf8.lossy ↔ Utf8.encode "Function" ∈ names := by
  rw [List.mem_map]
  constructor
  · rintro ⟨name, hname, htext⟩
    rwa [← lossy_eq_function_iff.mp htext]
  · intro hname
    exact ⟨_, hname, Utf8.lossy_encode "Function"⟩

/-- Counted from the outermost element, the function is the first one of its name. -/
theorem reverse_of_functionDepth {names : List (List UInt8)} {depth : Nat}
    (h : functionDepth names = some depth) :
    names.reverse[depth]? = some (Utf8.encode "Function") ∧
      Utf8.encode "Function" ∉ names.reverse.take depth := by
  induction names with
  | nil => cases h
  | cons name outer ih =>
    rw [functionDepth, Option.or_eq_some_iff] at h
    rw [List.reverse_cons]
    -- Either the function is further out, or it is the innermost element and the only one.
    rcases h with houter | ⟨hnone, hlast⟩
    · have hlt : depth < outer.reverse.length := by
        rw [List.length_reverse]
        exact functionDepth_lt houter
      rw [List.getElem?_append_left hlt, List.take_append_of_le_length hlt.le]
      exact ih houter
    · split_ifs at hlast with hname
      cases hlast
      rw [← List.length_reverse, List.getElem?_append_right (Nat.le_refl _), Nat.sub_self,
        List.take_append_of_le_length (Nat.le_refl _), List.take_length, List.mem_reverse]
      exact ⟨congrArg some hname, functionDepth_eq_none_iff.mp hnone⟩

/-! ## Reachable states -/

/-- The computation does not fail for an end tag that the collector does not expect. -/
def NeverMismatched {α : Type} (x : Except Error α) : Prop :=
  ∀ expected found position, x ≠ .error (.mismatchedEnd expected found position)

namespace Collector

/-- The names of the open elements, outermost first. -/
def stack (c : Collector) : List String := c.names.reverse

/-- The collector has taken `before`, which is what the reader of the dump brings first. -/
structure Reached (feed : Feed) (before : List Located) (c : Collector) : Prop where
  items : before <+: (read feed).items
  taken : before.foldlM take {} = .ok c

/-- What the collector keeps after the items `before`, when `held` are the names that the reader
holds, innermost first. -/
structure Consistent (before : List Located) (held : List (List UInt8)) (c : Collector) : Prop where
  stack : c.stack = held.reverse.map Utf8.lossy
  inside : ∀ depth d, c.current = some (depth, d) → depth < c.stack.length ∧
    c.stack[depth]? = some "Function" ∧ "Function" ∉ c.stack.take depth
  outside : c.current = none → "Function" ∉ c.stack
  root : c.sawRoot = true ↔ ∃ i ∈ before, i.item.tag?.isSome

variable {feed : Feed} {before : List Located} {c : Collector}

theorem Reached.fits (h : Reached feed before c) : Along Fits before := by
  obtain ⟨after, hitems⟩ := h.items
  have hfits := read_fits feed
  rw [← hitems] at hfits
  exact hfits.prefix

theorem Reached.follows (h : Reached feed before c) : Follows c before :=
  foldlM_follows h.fits h.taken

theorem Follows.consistent (h : Follows c before) : Consistent before (openAfter before) c := by
  have hstack : c.stack = (openAfter before).reverse.map Utf8.lossy := by
    rw [Collector.stack, h.names, List.map_reverse]
  refine ⟨hstack, ?_, ?_, ?_⟩
  · intro depth d hcurrent
    have hdepth : functionDepth (openAfter before) = some depth := by
      rw [← h.depth, hcurrent]
      rfl
    obtain ⟨hplace, hfirst⟩ := reverse_of_functionDepth hdepth
    rw [hstack, List.length_map, List.length_reverse, List.getElem?_map, hplace, ← List.map_take,
      function_mem_lossy_iff]
    exact ⟨functionDepth_lt hdepth, congrArg some (Utf8.lossy_encode "Function"), hfirst⟩
  · intro hcurrent
    rw [hstack, function_mem_lossy_iff, List.mem_reverse]
    exact h.current_eq_none_iff.mp hcurrent
  · rw [h.root, List.any_eq_true]

/-- The reader lets through no end tag that the collector does not expect. -/
theorem take_neverMismatched {i : Located} (h : Follows c before) (hfits : Fits before i) :
    NeverMismatched (c.take i) := by
  intro expected found position htake
  have hdefect := take_failure h hfits
  rw [htake, failure?_error] at hdefect
  exact defect_ofItem hdefect.symm

theorem Follows.finish_names (h : Follows c before) {found : List Declaration}
    (hfinish : c.finish = .ok found) :
    found.map Declaration.name = (functionTags before).map nameOf := by
  unfold finish at hfinish
  cases hnames : c.names with
  | cons name outer =>
    rw [hnames] at hfinish
    cases hfinish
  | nil =>
    have hopen : openAfter before = [] := by
      rw [← List.map_eq_nil_iff, ← h.names, hnames]
    rw [hnames] at hfinish
    dsimp only at hfinish
    split_ifs at hfinish
    cases hfinish
    rw [← h.complete_names hopen, List.map_map]
    exact List.map_congr_left fun d _ => resolveFile_name c.files d

theorem Follows.current_of_stack_nil (h : Follows c before) (hstack : c.stack = []) :
    c.current = none := by
  cases hcurrent : c.current with
  | none => rfl
  | some function =>
    have hlt := (h.consistent.inside function.1 function.2 hcurrent).1
    rw [hstack] at hlt
    cases hlt

end Collector

theorem decode_neverMismatched (feed : Feed) : NeverMismatched (decode feed) := by
  intro expected found position h
  obtain ⟨before, i, after, -, -, hdefect⟩ | ⟨f, -, he⟩ | hend := decode_error_cases h
  · exact defect_ofItem hdefect
  · cases he
  · obtain ⟨name, he⟩ | he | ⟨index, he, -⟩ := endDefect_cases hend
    · cases he
    · cases he
    · cases he

theorem decodeFile_neverMismatched (files : Host.Files) (path : String) :
    NeverMismatched (decodeFile files path) := by
  intro expected found position h
  unfold decodeFile at h
  cases hnode : files.node path with
  | error e => rw [hnode] at h; cases h
  | ok node =>
    rw [hnode] at h
    exact decode_neverMismatched (feedOf node) expected found position h

/-- After each item of a dump that it takes, the collector has the texts of the names that the
reader holds open, and a function is open in it exactly when there is one among them, which is then
the outermost one. So the next item is never an end tag that it does not expect, and no dump is
refused for one; and where no element is open, no function is, so that none is missing at the
end. -/
theorem decode_bookkeeping :
    (∀ feed before c, Collector.Reached feed before c →
      (∃ held, nestAll [] before = .ok held ∧ Collector.Consistent before held c) ∧
      (∀ i, before ++ [i] <+: (read feed).items → NeverMismatched (c.take i)) ∧
      (c.stack = [] → c.current = none) ∧
      ∀ found, c.finish = .ok found →
        found.map Declaration.name = (functionTags before).map nameOf) ∧
    (∀ feed, NeverMismatched (decode feed)) ∧
    ∀ files path, NeverMismatched (decodeFile files path) := by
  refine ⟨fun feed before c h => ?_, decode_neverMismatched, decodeFile_neverMismatched⟩
  have hfollows := h.follows
  refine ⟨⟨_, nestAll_of_fits h.fits, hfollows.consistent⟩, fun i hi => ?_,
    hfollows.current_of_stack_nil, fun found => hfollows.finish_names⟩
  obtain ⟨after, hitems⟩ := hi
  have hfits := read_fits feed
  rw [← hitems] at hfits
  exact Collector.take_neverMismatched hfollows (along_concat.mp hfits.prefix).2

/-- An element whose name is no text, in a function and around another one: within both, and at the
end. -/
theorem decode_bookkeeping_replaced :
    ∃ (feed : Feed) (before after : List Located) (i : Located) (c c' : Collector),
      feed = .whole (Utf8.encode "<r><Function name='f'><" ++ 0xFF :: Utf8.encode "><Function>" ++
        (Utf8.encode "</Function></" ++ 0xFF :: Utf8.encode "></Function></r>")) ∧
      (read feed).items = before ++ i :: after ∧ i.item = .close (Utf8.encode "Function") ∧
      c.stack = ["r", "Function", "\uFFFD", "Function"] ∧
      c.current = some (1, { name := "f" }) ∧ Collector.Reached feed before c ∧
      (∃ held, nestAll [] before = .ok held ∧ Collector.Consistent before held c) ∧
      NeverMismatched (c.take i) ∧
      Collector.Reached feed (read feed).items c' ∧ c'.stack = [] ∧ c'.current = none ∧
      c'.finish = .ok [{ name := "f" }] ∧ (functionTags (read feed).items).map nameOf = ["f"] := by
  obtain ⟨feed, hfeed⟩ : ∃ feed, feed = Feed.whole
    (Utf8.encode "<r><Function name='f'><" ++ 0xFF :: Utf8.encode "><Function>" ++
      (Utf8.encode "</Function></" ++ 0xFF :: Utf8.encode "></Function></r>")) := ⟨_, rfl⟩
  obtain ⟨c, hc⟩ : ∃ c : Collector, c = ⟨["Function", "\uFFFD", "Function", "r"], true,
    some (1, { name := "f" }), [], []⟩ := ⟨_, rfl⟩
  obtain ⟨c', hc'⟩ : ∃ c : Collector, c = ⟨[], true, none, [{ name := "f" }], []⟩ := ⟨_, rfl⟩
  have hitems : (read feed).items.take 4 ++ ⟨35, .close (Utf8.encode "Function")⟩ ::
      (read feed).items.drop 5 = (read feed).items := by
    rw [hfeed]
    decide +kernel
  have hreached : Collector.Reached feed ((read feed).items.take 4) c := by
    refine ⟨List.take_prefix 4 _, ?_⟩
    rw [hfeed, hc]
    decide +kernel
  have hend : Collector.Reached feed (read feed).items c' := by
    refine ⟨List.prefix_rfl, ?_⟩
    rw [hfeed, hc']
    decide +kernel
  have hstack : c'.stack = [] := by rw [hc']; rfl
  have hfinish : c'.finish = .ok [{ name := "f" }] := by rw [hc']; rfl
  obtain ⟨hconsistent, htake, -, -⟩ := decode_bookkeeping.1 feed _ c hreached
  obtain ⟨-, -, hclosed, hnames⟩ := decode_bookkeeping.1 feed _ c' hend
  refine ⟨feed, _, _, _, c, c', hfeed, hitems.symm, rfl, by rw [hc]; rfl, by rw [hc], hreached,
    hconsistent, htake _ ?_, hend, hstack, hclosed hstack, hfinish, (hnames _ hfinish).symm⟩
  exact ⟨_, by rw [List.append_assoc]; exact hitems⟩

end BindingCoverage.Dump
