import BindingCoverage.Proofs.Along
import BindingCoverage.Proofs.Xml.Buffer
import BindingCoverage.Proofs.Xml.Content
import BindingCoverage.Proofs.Xml.Feed
import BindingCoverage.Proofs.Xml.Lexer
import BindingCoverage.Xml.Nesting

/-!
# Readings, item by item

`openAfter` is which elements are open after the items of a reading.

* `read_fits`: every end tag of a reading is the one of the innermost open element.
* `read_placed`: items and faults are placed where reading can be taken up again to find them.
* `read_append`: the items of a document are items of every document that begins like it, and so is
  its fault, unless the fault is that the document ends.
-/

namespace BindingCoverage.Xml

/-! ## Open elements -/

/-- The tag that opens an element. -/
def Item.tag? : Item → Option Tag
  | .start tag | .empty tag => some tag
  | .close _ | .aside => none

/-- The names of the open elements after an item, innermost first. -/
def Item.within (names : List (List UInt8)) : Item → List (List UInt8)
  | .start tag => tag.name :: names
  | .close _ => names.tail
  | .empty _ | .aside => names

/-- The names of the elements that are open after the items, innermost first. -/
def openAfter (items : List Located) : List (List UInt8) :=
  items.foldl (fun names i => i.item.within names) []

@[simp] theorem openAfter_concat (items : List Located) (i : Located) :
    openAfter (items ++ [i]) = i.item.within (openAfter items) := by
  simp [openAfter]

/-- The end tag is the one of the innermost element that the items before it leave open. -/
def Fits (before : List Located) (i : Located) : Prop :=
  nest (openAfter before) i.item = .ok (openAfter (before ++ [i]))

theorem within_of_nest {names names' : List (List UInt8)} {i : Item}
    (h : nest names i = .ok names') : names' = i.within names := by
  cases i with
  | start tag => cases h; rfl
  | empty tag => cases h; rfl
  | aside => cases h; rfl
  | close name =>
    cases names with
    | nil => cases h
    | cons expected outer =>
      unfold nest at h
      dsimp only at h
      split_ifs at h
      cases h
      rfl

theorem fits_of_nest {before : List Located} {i : Located} {names : List (List UInt8)}
    (h : nest (openAfter before) i.item = .ok names) : Fits before i := by
  obtain rfl := within_of_nest h
  rw [Fits, openAfter_concat]
  exact h

/-- An element is open before an end tag that fits, and has its name. -/
theorem exists_of_fits_close {before : List Located} {i : Located} {name : List UInt8}
    (h : Fits before i) (hi : i.item = .close name) :
    ∃ outer, openAfter before = name :: outer := by
  rw [Fits, hi] at h
  cases hopen : openAfter before with
  | nil => rw [hopen] at h; cases h
  | cons expected outer =>
    rw [hopen] at h
    unfold nest at h
    dsimp only at h
    split_ifs at h with hname
    exact ⟨outer, by rw [hname]⟩

theorem nestAll_of_fits {items : List Located} (h : Along Fits items) :
    nestAll [] items = .ok (openAfter items) := by
  induction items using List.reverseRecOn with
  | nil => rfl
  | append_singleton items i ih =>
    obtain ⟨hitems, hi⟩ := along_concat.mp h
    unfold nestAll at ih ⊢
    rw [foldlM_concat, ih hitems]
    exact hi

theorem nestedFrom_of_fits {items rest : List Located} {fault : Option Fault}
    (h : Along Fits items) : nestedFrom [] fault (items ++ rest) =
      ⟨items ++ (nestedFrom (openAfter items) fault rest).items,
        (nestedFrom (openAfter items) fault rest).fault⟩ :=
  nestedFrom_append (nestAll_of_fits h)

/-- A reading has all items that were found, or it stops at the first end tag that does not fit. -/
theorem nestedFrom_cases (fault : Option Fault) (items : List Located) :
    Along Fits items ∧ nestedFrom [] fault items = ⟨items, fault⟩ ∨
      ∃ before i after e, items = before ++ i :: after ∧ Along Fits before ∧
        nest (openAfter before) i.item = .error e ∧
        ∀ fault after, nestedFrom [] fault (before ++ i :: after) =
          ⟨before, some ⟨i.position, .structural e⟩⟩ := by
  by_cases h : Along Fits items
  · have hnested : nestedFrom [] fault (items ++ []) = _ := nestedFrom_of_fits h
    rw [List.append_nil] at hnested
    refine .inl ⟨h, hnested.trans ?_⟩
    simp [nestedFrom]
  · obtain ⟨before, i, after, rfl, hbefore, hi⟩ := exists_first h
    cases hnest : nest (openAfter before) i.item with
    | ok names => exact absurd (fits_of_nest hnest) hi
    | error e =>
      refine .inr ⟨before, i, after, e, rfl, hbefore, hnest, fun fault after => ?_⟩
      rw [nestedFrom_of_fits hbefore, nestedFrom, hnest]
      simp

theorem read_eq (feed : Feed) :
    read feed = nestedFrom [] (Reading.flat feed).fault (Reading.flat feed).items := rfl

theorem flat_whole (octets : List UInt8) :
    Reading.flat (.whole octets) = Lexer.initial.read none (Feed.whole octets).octets :=
  Reading.flat_eq (.whole octets)

theorem read_items_prefix (feed : Feed) : (read feed).items <+: (Reading.flat feed).items := by
  rw [read_eq]
  obtain ⟨-, hread⟩ | ⟨before, i, after, e, hitems, -, -, hread⟩ :=
    nestedFrom_cases (Reading.flat feed).fault (Reading.flat feed).items
  · rw [hread]
  · rw [hitems, hread]
    exact List.prefix_append _ _

theorem read_fits (feed : Feed) : Along Fits (read feed).items := by
  rw [read_eq]
  obtain ⟨hfits, hread⟩ | ⟨before, i, after, e, hitems, hbefore, -, hread⟩ :=
    nestedFrom_cases (Reading.flat feed).fault (Reading.flat feed).items
  · rw [hread]
    exact hfits
  · rw [hitems, hread]
    exact hbefore

/-! ## Positions -/

/-- What is read from a position on, without regard to what is before it. -/
def readAt (feed : Feed) (position : Nat) : Reading :=
  Lexer.read feed.failure (Lexer.fresh position) (feed.octets.drop position)

/-- The fault is in what is read first at its position: that cannot be read, or it is an end tag
that does not fit. -/
def Fault.Stands (f : Fault) (feed : Feed) (names : List (List UInt8)) : Prop :=
  readAt feed f.position = ⟨[], some f⟩ ∨
    ∃ i e, (readAt feed f.position).items.head? = some i ∧
      nest names i.item = .error e ∧ f.error = .structural e

/-- Items and faults stand where they are placed. -/
structure Placed (feed : Feed) (r : Reading) : Prop where
  items : ∀ i ∈ r.items, (readAt feed i.position).items.head? = some i
  fault : ∀ f, r.fault = some f → f.Stands feed (openAfter r.items)

theorem readAt_of_flat {feed : Feed} {before : List Located} {r : Reading} {p : Nat}
    (hp : r.position? = some p) (h : Reading.flat feed = ⟨before ++ r.items, r.fault⟩) :
    readAt feed p = r := by
  rw [Reading.flat_eq] at h
  exact (Lexer.reaches_of_read hp h).rest

theorem read_placed (feed : Feed) : Placed feed (read feed) := by
  have hitem : ∀ before i after, (Reading.flat feed).items = before ++ i :: after →
      (readAt feed i.position).items.head? = some i := by
    intro before i after h
    have hflat : Reading.flat feed = ⟨before ++ i :: after, (Reading.flat feed).fault⟩ := by
      rw [← h]
    have hread : readAt feed i.position = ⟨i :: after, (Reading.flat feed).fault⟩ :=
      readAt_of_flat rfl hflat
    rw [hread]
    rfl
  rw [read_eq]
  obtain ⟨-, hread⟩ | ⟨before, i, after, e, hitems, -, hnest, hread⟩ :=
    nestedFrom_cases (Reading.flat feed).fault (Reading.flat feed).items
  · rw [hread]
    constructor
    · intro i hi
      obtain ⟨before, after, h⟩ := List.append_of_mem hi
      exact hitem before i after h
    · intro f hf
      have hflat : Reading.flat feed = ⟨(Reading.flat feed).items ++ [], some f⟩ := by
        rw [List.append_nil, ← hf]
      exact .inl (readAt_of_flat rfl hflat)
  · rw [hitems, hread]
    constructor
    · intro j hj
      obtain ⟨first, second, hbefore⟩ := List.append_of_mem hj
      refine hitem first j (second ++ i :: after) ?_
      rw [hitems, show before = first ++ j :: second from hbefore, List.append_assoc,
        List.cons_append]
    · intro f hf
      cases hf
      exact .inr ⟨i, e, hitem before i after hitems, hnest, rfl⟩

/-! ## Documents that go on -/

/-- The fault is that the document ends where it does. -/
def EndsWithin (octets : List UInt8) (f : Fault) : Prop :=
  ∃ spans last, Lexer.initial.run (Feed.whole octets).octets = .ok (spans, last) ∧
    last.stop none = some f

/-- More octets are more of the document, unless the mark at its start is not yet complete. -/
theorem octets_append (octets more : List UInt8) :
    (Feed.whole (octets ++ more)).octets = (Feed.whole octets).octets ++ more ∨
      read (.whole octets) = ⟨[], none⟩ := by
  have htake : (octets ++ more).take octets.length = octets := by simp
  by_cases hmark : Feed.markSize (octets ++ more) ≤ octets.length
  · have hsize := Feed.markSize_take hmark
    rw [htake] at hsize
    refine .inl ?_
    rw [Feed.whole_octets, Feed.whole_octets, hsize, List.drop_append_of_le_length hmark]
  · have hshort := Nat.lt_of_not_le hmark
    have hprefix : Feed.byteOrderMark <+: octets ++ more := by
      by_contra hno
      have hzero : Feed.markSize (octets ++ more) = 0 :=
        if_neg fun h => hno (List.isPrefixOf_iff_prefix.mp h)
      omega
    have hlength : octets.length < Feed.byteOrderMark.length :=
      hshort.trans_le (Feed.markSize_le_mark _)
    have hpart : octets = Feed.byteOrderMark.take octets.length := by
      obtain ⟨rest, hrest⟩ := hprefix
      have htaken : (Feed.byteOrderMark ++ rest).take octets.length = octets := by rw [hrest, htake]
      rw [List.take_append_of_le_length hlength.le] at htaken
      exact htaken.symm
    have hall : ∀ k < Feed.byteOrderMark.length,
        read (.whole (Feed.byteOrderMark.take k)) = ⟨[], none⟩ := by decide +kernel
    refine .inr ?_
    rw [hpart]
    exact hall _ hlength

theorem read_append (octets more : List UInt8) :
    (read (.whole octets)).items <+: (read (.whole (octets ++ more))).items ∧
      ∀ f, (read (.whole octets)).fault = some f → ¬ EndsWithin octets f →
        read (.whole (octets ++ more)) = read (.whole octets) := by
  obtain hoctets | hnothing := octets_append octets more
  · rw [read_eq, read_eq, flat_whole, flat_whole, hoctets]
    cases hrun : Lexer.initial.run (Feed.whole octets).octets with
    | error e =>
      -- The lexer does not get to the end, so it does not see what comes after it.
      obtain ⟨items, hread⟩ := Lexer.read_append_of_error hrun
      have hsame := (hread none more).trans (hread none []).symm
      rw [List.append_nil] at hsame
      rw [hsame]
      exact ⟨List.prefix_rfl, fun _ _ _ => rfl⟩
    | ok q =>
      obtain ⟨spans, last⟩ := q
      rw [Lexer.read_of_run none hrun, Lexer.read_append_of_run none more hrun]
      obtain ⟨hfits, hread⟩ | ⟨before, i, after, e, hitems, -, -, hread⟩ :=
        nestedFrom_cases (last.stop none) (spans.map Span.located)
      · rw [hread, nestedFrom_of_fits hfits]
        refine ⟨List.prefix_append _ _, fun f hf hends => ?_⟩
        exact absurd ⟨spans, last, hrun, hf⟩ hends
      · rw [hitems, List.append_assoc, List.cons_append, hread, hread]
        exact ⟨List.prefix_rfl, fun _ _ _ => rfl⟩
  · rw [hnothing]
    exact ⟨List.nil_prefix, nofun⟩

end BindingCoverage.Xml
