import BindingCoverage.Proofs.Dump.Position
import BindingCoverage.Proofs.Dump.Progress
import BindingCoverage.Proofs.Xml.Fragment

/-!
# Content that makes no difference

A fragment can be put between any two items within the root element of a dump. Where it is
`Unrelated`, the dump decodes to the same set as before, and if it is refused, then for the same
reason.

* `foldlM_unrelated`: after the tags of an unrelated forest the collector is as it was before.
* `outline_insert`: the tags before and after the place stay the same.
* `decodeOctets_insert`: the dumps before and after the insertion.
-/

namespace BindingCoverage.Dump

open Xml

/-- With these elements open around it, the forest has nothing that counts: no function and no file,
and directly in a function that is within no other one no argument and no ellipsis. -/
structure Unrelated (names : List (List UInt8)) (d : Content) : Prop where
  functions : d.everywhere (Utf8.encode "Function") = []
  files : d.everywhere (Utf8.encode "File") = []
  direct : DirectlyInFunction names →
    d.children (Utf8.encode "Argument") = [] ∧ d.children (Utf8.encode "Ellipsis") = []

/-- An item starts after so many octets, within the root element, and these elements are open before
it. -/
def BetweenItems (octets : List UInt8) (n : Nat) (names : List (List UInt8)) : Prop :=
  names ≠ [] ∧ ∃ before i after, (read (.whole octets)).items = before ++ i :: after ∧
    openAfter before = names ∧ Feed.markSize octets + i.position = n

def insertAt (octets : List UInt8) (n : Nat) (xs : List UInt8) : List UInt8 :=
  octets.take n ++ xs ++ octets.drop n

/-! ## The collector -/

theorem outermost_of_everywhere {name : List UInt8} {d : Content} (h : d.everywhere name = []) :
    d.outermost name = [] := by
  induction d with
  | nothing => rfl
  | element tag inner after ihInner ihAfter =>
    simp only [Content.everywhere, List.append_eq_nil_iff] at h
    obtain ⟨⟨htag, hinner⟩, hafter⟩ := h
    have hname : tag.name ≠ name := by
      intro hname
      rw [if_pos hname] at htag
      cases htag
    rw [Content.outermost, if_neg hname, ihInner hinner, ihAfter hafter]
    rfl

namespace Collector

variable {c : Collector} {before items : List Located} {d : Content}

theorem foldlM_unrelated (h : Follows c before) (hopen : openAfter before ≠ [])
    (hspells : Spells items d) (hd : Unrelated (openAfter before) d) :
    items.foldlM take c = .ok c := by
  have hroot : c.sawRoot = true := by rw [h.root, any_tag_of_openAfter hopen]
  have hnames : c.names ≠ [] := by
    rw [h.names]
    simpa using hopen
  have hfiles : ∀ tag ∈ d.everywhere (Utf8.encode "File"), tag.Readable := by simp [hd.files]
  have hadd : ∀ c : Collector, c.addFiles (filesIn d) = c := by simp [filesIn, hd.files]
  cases hcurrent : c.current with
  | none =>
    have houtermost := outermost_of_everywhere hd.functions
    have hlegible : Legible d := ⟨by simp [houtermost], by simp [houtermost], hfiles⟩
    rw [(foldlM_outside hspells c hcurrent hnames hroot).eq_ok hlegible]
    simp [withForest, functionsIn, houtermost, hadd]
  | some function =>
    obtain ⟨k, f⟩ := function
    have hdepth : functionDepth (openAfter before) = some k := by rw [← h.depth, hcurrent]; rfl
    have hlt := functionDepth_lt hdepth
    rw [← h.length] at hlt
    rcases Nat.lt_or_eq_of_le hlt with hdeep | hdirect
    · rw [(foldlM_deep hspells hcurrent hdeep hroot).eq_ok hfiles, hadd]
    · have hplace : DirectlyInFunction (openAfter before) := by
        rw [directlyInFunction_iff hdepth, ← h.length]
        exact hdirect
      obtain ⟨hArgument, hEllipsis⟩ := hd.direct hplace
      have hsame : withContent f d = f := by simp [withContent, hArgument, hEllipsis]
      rw [(foldlM_direct hspells hcurrent hdirect hroot).eq_ok ⟨by simp [hArgument], hfiles⟩, hadd,
        hsame, setCurrent_self hcurrent]

theorem foldlM_insert (hfits : Along Fits before) (hopen : openAfter before ≠ [])
    (hspells : Spells items d) (hd : Unrelated (openAfter before) d) (rest : List Located) :
    (before ++ items ++ rest).foldlM take {} = (before ++ rest).foldlM take {} := by
  rw [List.append_assoc, List.foldlM_append, List.foldlM_append]
  cases htaken : before.foldlM take ({} : Collector) with
  | error e => rfl
  | ok c =>
    change (items ++ rest).foldlM take c = rest.foldlM take c
    rw [List.foldlM_append, foldlM_unrelated (foldlM_follows hfits htaken) hopen hspells hd]
    rfl

end Collector

/-- A forest among the items that makes no difference. -/
theorem ofReading_insert {before items : List Located} {d : Content} (hfits : Along Fits before)
    (hopen : openAfter before ≠ []) (hspells : Spells items d)
    (hd : Unrelated (openAfter before) d) (r : Reading) :
    ofReading (Reading.nested ⟨before ++ items ++ r.items, r.fault⟩) =
      ofReading (Reading.nested ⟨before ++ r.items, r.fault⟩) := by
  have hnest := nestAll_of_fits hfits
  have hnest' : nestAll [] (before ++ items) = .ok (openAfter before) := by
    rw [nestAll_append, hnest]
    exact hspells.nestAll_eq _
  unfold Reading.nested
  rw [nestedFrom_append hnest, nestedFrom_append hnest']
  unfold ofReading Collector.collect
  rw [Collector.foldlM_insert hfits hopen hspells hd]

/-! ## The octets -/

/-- The readings of a document with a fragment in it and without. -/
theorem outline_insert {octets xs : List UInt8} {before : List Located} {r : Reading} {p : Nat}
    {d : Content} (h : Lexer.Reaches none Lexer.initial octets before r p p)
    (hxs : Fragment xs d) :
    ∃ items, Spells items d ∧
      (Lexer.initial.read none (insertAt octets p xs)).outline =
        Reading.outline ⟨before ++ items ++ r.items, r.fault⟩ := by
  obtain ⟨⟨spans, last, pending, hrun, hlast, rfl, hpending⟩, hrest⟩ := h
  obtain ⟨tags, hpasses, htags⟩ := hxs.passes
  obtain ⟨inserted, last', hrun', hlast', rfl⟩ := hpasses last p hlast
  refine ⟨inserted.map Span.located, spells_outline_iff.mp htags, ?_⟩
  have hsame : (last'.read none (octets.drop p)).outline = r.outline := by
    rw [← hrest, Lexer.read_between hlast', Lexer.read_between (Lexer.between_fresh p)]
  rw [Reading.outline_eq, Reading.outline_eq] at hsame ⊢
  obtain ⟨hitems, hfault⟩ := Reading.mk.inj hsame
  rw [insertAt, List.append_assoc, Lexer.read_append_of_run none _ hrun,
    Lexer.read_append_of_run none _ hrun', hfault]
  simp only [outline_append, outline_of_asides hpending, hitems, List.append_assoc, List.nil_append]

theorem openAfter_of_asides {items : List Located} (h : ∀ i ∈ items, i.item = .aside) :
    openAfter items = [] := by
  by_contra hopen
  obtain ⟨i, hi, htag⟩ := List.any_eq_true.mp (Collector.any_tag_of_openAfter hopen)
  rw [h i hi] at htag
  cases htag

/-- Within the root element, there is more before an item than a byte-order mark. -/
theorem octets_insertAt {octets : List UInt8} {before : List Located} {r : Reading} {p : Nat}
    (h : Lexer.Reaches none Lexer.initial (Feed.whole octets).octets before r p p)
    (hfits : Along Fits before) (hopen : openAfter before ≠ []) (xs : List UInt8) :
    (Feed.whole (insertAt octets (Feed.markSize octets + p) xs)).octets =
      insertAt (Feed.whole octets).octets p xs := by
  have htake : (Feed.whole (octets.take (Feed.markSize octets + p))).octets =
      (Feed.whole octets).octets.take p := by
    rw [Feed.whole_octets, Feed.whole_octets, Feed.markSize_take (Nat.le_add_right _ _),
      List.drop_take, Nat.add_sub_cancel_left]
  have hdrop : octets.drop (Feed.markSize octets + p) = (Feed.whole octets).octets.drop p := by
    rw [Feed.whole_octets, List.drop_drop]
  rw [insertAt, List.append_assoc, insertAt, List.append_assoc, ← htake, ← hdrop]
  refine (octets_append _ _).resolve_right fun hnothing => hopen ?_
  obtain ⟨⟨spans, last, pending, hrun, -, rfl, hpending⟩, -⟩ := h
  rw [read_eq, flat_whole, htake, Lexer.read_of_run none hrun,
    nestedFrom_of_nestAll (nestAll_of_fits hfits.prefix)] at hnothing
  obtain ⟨hspans, -⟩ := Reading.mk.inj hnothing
  rw [hspans, List.nil_append]
  exact openAfter_of_asides hpending

/-! ## The dumps -/

/-- A fragment that makes no difference, put between two items within the root element of a dump,
leaves what the dump decodes to as it is. If the dump is refused, then it is refused for the same
reason, at another place. -/
theorem decodeOctets_insert {octets xs : List UInt8} {n : Nat} {names : List (List UInt8)}
    {d : Content} (hplace : BetweenItems octets n names) (hxs : Fragment xs d)
    (hd : Unrelated names d) :
    (∀ s, decodeOctets octets = .ok s → decodeOctets (insertAt octets n xs) = .ok s) ∧
      (decodeOctets (insertAt octets n xs)).mapError Error.unplaced =
        (decodeOctets octets).mapError Error.unplaced := by
  obtain ⟨hopen, before, i, after, hitems, rfl, rfl⟩ := hplace
  have hfits : Along Fits before := by
    have hall := read_fits (.whole octets)
    rw [hitems] at hall
    exact hall.prefix
  obtain ⟨rest, hrest⟩ := read_items_prefix (.whole octets)
  obtain ⟨r, hr, hflat⟩ : ∃ r : Reading, r.position? = some i.position ∧
      Reading.flat (.whole octets) = ⟨before ++ r.items, r.fault⟩ := by
    refine ⟨⟨i :: (after ++ rest), (Reading.flat (.whole octets)).fault⟩, rfl, ?_⟩
    rw [hitems, List.append_assoc, List.cons_append] at hrest
    rw [hrest]
  have hreaches := Lexer.reaches_of_read hr ((flat_whole octets).symm.trans hflat)
  obtain ⟨items, hspells, houtline⟩ := outline_insert hreaches hxs
  rw [← octets_insertAt hreaches hfits hopen, ← flat_whole] at houtline
  have hsame : (decodeOctets (insertAt octets (Feed.markSize octets + i.position) xs)).mapError
      Error.unplaced = (decodeOctets octets).mapError Error.unplaced :=
    calc _ = ofReading (Reading.outline ⟨before ++ items ++ r.items, r.fault⟩).nested := by
          rw [← houtline, ofReading_outline]
          rfl
      _ = (ofReading (Reading.nested ⟨before ++ r.items, r.fault⟩)).mapError Error.unplaced := by
          rw [ofReading_outline, ofReading_insert hfits hopen hspells hd]
      _ = (decodeOctets octets).mapError Error.unplaced := by
          rw [← hflat]
          rfl
  refine ⟨fun s h => ?_, hsame⟩
  rw [h] at hsame
  exact mapError_eq_ok_iff.mp hsame

/-- Directly in a function: a comment and a character data section with tags in them, an
instruction, a text, and elements that hold what would count elsewhere. -/
theorem decodeOctets_insert_tags :
    ∃ (octets xs : List UInt8) (names : List (List UInt8)) (d : Content) (s : DeclarationSet),
      octets = Utf8.encode
        "<r><Function name='f'><Argument name='x'/> <a/></Function><Function name='g'/></r>" ∧
      xs = Utf8.encode ("<!--<Function></r>--><![CDATA[</Function>]]><?p <Argument/>?> > " ++
        "<b c='/>'><Argument/><Ellipsis/></b >") ∧
      names = [Utf8.encode "Function", Utf8.encode "r"] ∧
      d = .element ⟨Utf8.encode "b c='/>'"⟩ (.element ⟨Utf8.encode "Argument"⟩ .nothing
        (.element ⟨Utf8.encode "Ellipsis"⟩ .nothing .nothing)) .nothing ∧
      s = ⟨[{ name := "f", parameters := [{ name := some "x" }] }, .named "g"]⟩ ∧
      decodeOctets octets = .ok s ∧ BetweenItems octets 42 names ∧ Fragment xs d ∧
      Unrelated names d ∧ decodeOctets (insertAt octets 42 xs) = .ok s := by
  have hb : Tag.IsStart ⟨Utf8.encode "b c='/>'"⟩ := by
    have hkey : Quoted (Utf8.encode "b c=") := quoted_of_forall (by decide +kernel)
    have hvalue : Quoted (Utf8.encode "'/>'") :=
      @Quoted.quotation 0x27 (Utf8.encode "/>") [] (.inr rfl) (by decide +kernel) .nil
    refine ⟨⟨?_, ?_, hkey.append hvalue⟩, ?_, quoted_of_forall ?_⟩
    all_goals decide +kernel
  have hword : ∀ name ∈ ["Argument", "Ellipsis"], Tag.IsElement ⟨Utf8.encode name⟩ := by
    have hall : ∀ name ∈ ["Argument", "Ellipsis"],
        (∀ b ∈ Utf8.encode name, b ≠ 0x3E ∧ b ≠ 0x22 ∧ b ≠ 0x27) ∧
        Tag.name ⟨Utf8.encode name⟩ ≠ [] ∧
        ∀ b, (Utf8.encode name).head? = some b → b ≠ 0x21 ∧ b ≠ 0x2F ∧ b ≠ 0x3F := by
      decide +kernel
    intro name hname
    obtain ⟨hquoted, hnamed, hfirst⟩ := hall name hname
    exact ⟨hnamed, hfirst, quoted_of_forall hquoted⟩
  have hinner : Fragment _ _ :=
    .empty (hword "Argument" (by simp)) (.empty (hword "Ellipsis" (by simp)) .nothing)
  have hcomment : ¬ Utf8.encode "-->" <:+: Utf8.encode "<Function></r>" := by decide +kernel
  have hsection : ¬ Utf8.encode "]]>" <:+: Utf8.encode "</Function>" := by decide +kernel
  have hinstruction : ¬ Utf8.encode "?>" <:+: Utf8.encode "?" ++ Utf8.encode "p <Argument/>" := by
    decide +kernel
  have htext : 0x3C ∉ Utf8.encode " > " := by decide +kernel
  have hblank : ∀ b ∈ [0x20], isBlank b = true := by decide +kernel
  have hfragment : Fragment _ _ :=
    .comment hcomment (.characterData hsection (.instruction hinstruction
      (.text htext (.paired hb hblank hinner .nothing))))
  refine ⟨_, _, _, _, _, rfl, rfl, rfl, rfl, rfl, ?decoded, ?place, ?fragment, ?unrelated,
    (decodeOctets_insert ?place ?fragment ?unrelated).1 _ ?decoded⟩
  case decoded => decide +kernel
  case place =>
    let dump := "<r><Function name='f'><Argument name='x'/> <a/></Function><Function name='g'/></r>"
    obtain ⟨items, hitems⟩ : ∃ items, items = (read (.whole (Utf8.encode dump))).items := ⟨_, rfl⟩
    refine ⟨by decide, items.take 3, ⟨42, .aside⟩, items.drop 4, ?_, ?_, ?_⟩
    · rw [hitems]
      decide +kernel
    · rw [hitems]
      decide +kernel
    · decide +kernel
  case fragment => exact hfragment
  case unrelated =>
    refine ⟨?_, ?_, fun _ => ⟨?_, ?_⟩⟩
    all_goals decide +kernel

end BindingCoverage.Dump
