import BindingCoverage.Proofs.Xml.Buffer
import BindingCoverage.Proofs.Xml.Lexer
import BindingCoverage.Xml.Nesting

/-!
# Positions in a reading

* `nested_mapPosition`, `nested_tags`: how tags are nested has nothing to do with where they stand,
  nor with what stands between them.
* `Lexer.read_shift`: a document that begins later is read like one that begins earlier.
* `Lexer.read_between`: what comes between two tags makes no difference for the tags after them.
* `read_mark`: a byte-order mark that is taken for text moves the tags by its length.
-/

namespace BindingCoverage.Xml

def Located.mapPosition (f : Nat → Nat) (i : Located) : Located :=
  { i with position := f i.position }

def Fault.mapPosition (f : Nat → Nat) (e : Fault) : Fault := { e with position := f e.position }

namespace Reading

def mapPosition (f : Nat → Nat) (r : Reading) : Reading :=
  ⟨r.items.map (·.mapPosition f), r.fault.map (·.mapPosition f)⟩

/-- The reading without what stands between the tags. -/
def tags (r : Reading) : Reading := { r with items := r.items.filter (·.item ≠ .aside) }

theorem tags_cons_aside {i : Located} (h : i.item = .aside) (r : Reading) :
    (r.cons i).tags = r.tags := by
  simp [tags, cons, h]

theorem tags_cons {i : Located} (h : i.item ≠ .aside) (r : Reading) :
    (r.cons i).tags = r.tags.cons i := by
  simp [tags, cons, h]

theorem tags_mapPosition (f : Nat → Nat) (r : Reading) :
    (r.mapPosition f).tags = r.tags.mapPosition f := by
  simp only [tags, mapPosition, List.filter_map]
  rfl

end Reading

/-- The tags among the items, without their positions. -/
def outline (items : List Located) : List Located :=
  (items.filter (·.item ≠ .aside)).map (·.mapPosition fun _ => 0)

@[simp] theorem outline_append (xs ys : List Located) :
    outline (xs ++ ys) = outline xs ++ outline ys := by
  simp [outline]

theorem outline_cons_aside {i : Located} (h : i.item = .aside) (rest : List Located) :
    outline (i :: rest) = outline rest := by
  simp [outline, h]

theorem outline_cons {i : Located} (h : i.item ≠ .aside) (rest : List Located) :
    outline (i :: rest) = ⟨0, i.item⟩ :: outline rest := by
  simp [outline, h, Located.mapPosition]

theorem outline_of_asides {items : List Located} (h : ∀ i ∈ items, i.item = .aside) :
    outline items = [] := by
  rw [outline, List.filter_eq_nil_iff.mpr (by simpa using h), List.map_nil]

/-- The reading without what stands between the tags, and without positions. -/
def Reading.outline (r : Reading) : Reading := r.tags.mapPosition fun _ => 0

theorem Reading.outline_eq (r : Reading) :
    r.outline = ⟨Xml.outline r.items, r.fault.map (·.mapPosition fun _ => 0)⟩ := rfl

theorem Reading.outline_mapPosition (f : Nat → Nat) (r : Reading) :
    (r.mapPosition f).outline = r.outline := by
  rw [outline, outline, tags_mapPosition]
  simp only [mapPosition, List.map_map, Option.map_map]
  rfl

/-! ## Nesting -/

theorem nestedFrom_mapPosition (f : Nat → Nat) (fault : Option Fault) (items : List Located) :
    ∀ names, nestedFrom names (fault.map (·.mapPosition f)) (items.map (·.mapPosition f)) =
      (nestedFrom names fault items).mapPosition f := by
  induction items with
  | nil => intro names; rfl
  | cons i rest ih =>
    intro names
    have hItem : (i.mapPosition f).item = i.item := rfl
    rw [List.map_cons, nestedFrom, nestedFrom, hItem]
    cases nest names i.item with
    | ok names =>
      dsimp only
      rw [ih]
      rfl
    | error e => rfl

theorem nested_mapPosition (f : Nat → Nat) (r : Reading) :
    (r.mapPosition f).nested = r.nested.mapPosition f :=
  nestedFrom_mapPosition f r.fault r.items []

theorem nestedFrom_tags (fault : Option Fault) (items : List Located) :
    ∀ names, nestedFrom names fault (items.filter (·.item ≠ .aside)) =
      (nestedFrom names fault items).tags := by
  induction items with
  | nil => intro names; rfl
  | cons i rest ih =>
    intro names
    by_cases h : i.item = .aside
    · have hNest : nest names i.item = .ok names := by rw [h]; rfl
      rw [List.filter_cons_of_neg (by simpa using h), ih, nestedFrom, hNest]
      exact (Reading.tags_cons_aside h _).symm
    · rw [List.filter_cons_of_pos (by simpa using h), nestedFrom, nestedFrom]
      cases nest names i.item with
      | ok names => exact (congrArg (Reading.cons i) (ih names)).trans (Reading.tags_cons h _).symm
      | error e => rfl

theorem nested_tags (r : Reading) : r.tags.nested = r.nested.tags :=
  nestedFrom_tags r.fault r.items []

theorem nested_outline (r : Reading) : r.outline.nested = r.nested.outline := by
  rw [Reading.outline, nested_mapPosition, nested_tags, Reading.outline]

/-! ## Documents that begin later -/

namespace Lexer

/-- The lexer in a document before which there are `n` octets more. -/
def shift (n : Nat) (l : Lexer) : Lexer := ⟨l.mode, n + l.start, n + l.offset⟩

def Step.shift (n : Nat) : Step → Step
  | .more l => .more (l.shift n)
  | .item i l => .item (i.mapPosition (n + ·)) (l.shift n)
  | .fault f => .fault (f.mapPosition (n + ·))

section

variable (n : Nat) (l : Lexer)

theorem finishInstruction_shift (content : List UInt8) :
    (l.shift n).finishInstruction content = (l.finishInstruction content).shift n := by
  unfold finishInstruction
  split
  · rfl
  · rfl

theorem finishMarked_shift (opening : String) (e : SyntaxError) (content : List UInt8) :
    (l.shift n).finishMarked opening e content = (l.finishMarked opening e content).shift n := by
  unfold finishMarked
  split
  · rfl
  · rfl

theorem finishDoctype_shift (content : List UInt8) :
    (l.shift n).finishDoctype content = (l.finishDoctype content).shift n := by
  unfold finishDoctype
  dsimp only
  split
  · split
    · rfl
    · rfl
  · rfl

theorem stepTag_shift (quote : Option UInt8) (content : List UInt8) (b : UInt8) :
    (l.shift n).stepTag quote content b = (l.stepTag quote content b).shift n := by
  unfold stepTag
  split
  · rfl
  · split
    · rfl
    · split
      · rfl
      · rfl

end

theorem step_shift (n : Nat) (l : Lexer) (b : UInt8) :
    (l.shift n).step b = (l.step b).shift n := by
  obtain ⟨mode, start, offset⟩ := l
  cases mode with
  | text seen =>
    cases seen with
    | false =>
      simp only [step, shift]
      split
      · rfl
      · rfl
    | true =>
      simp only [step, shift]
      split
      · rfl
      · rfl
  | opened =>
    simp only [step, shift]
    split
    · rfl
    · split
      · rfl
      · exact stepTag_shift n ⟨.opened, start, offset⟩ none [] b
  | tag quote content => exact stepTag_shift n ⟨.tag quote content, start, offset⟩ quote content b
  | instruction content =>
    simp only [step, shift]
    split
    · exact finishInstruction_shift n ⟨.instruction content, start, offset⟩ content
    · rfl
  | bang =>
    simp only [step, shift]
    split
    · rfl
    · split
      · rfl
      · split
        · rfl
        · rfl
  | comment content =>
    simp only [step, shift]
    split
    · exact finishMarked_shift n ⟨.comment content, start, offset⟩ _ _ content
    · rfl
  | characterData content =>
    simp only [step, shift]
    split
    · exact finishMarked_shift n ⟨.characterData content, start, offset⟩ _ _ content
    · rfl
  | doctype depth content =>
    simp only [step, shift]
    split
    · cases depth with
      | zero => exact finishDoctype_shift n ⟨.doctype 0 content, start, offset⟩ content.reverse
      | succ depth => rfl
    · rfl

theorem stop_shift (n : Nat) (l : Lexer) (failure : Option String) :
    (l.shift n).stop failure = (l.stop failure).map (·.mapPosition (n + ·)) := by
  cases failure with
  | some text => rfl
  | none =>
    change (Mode.cutShort l.mode).map _ = ((Mode.cutShort l.mode).map _).map _
    rw [Option.map_map]
    rfl

theorem read_shift (n : Nat) (failure : Option String) (xs : List UInt8) :
    ∀ l : Lexer, read failure (l.shift n) xs = (read failure l xs).mapPosition (n + ·) := by
  induction xs with
  | nil =>
    intro l
    rw [read, read, stop_shift]
    rfl
  | cons b rest ih =>
    intro l
    rw [read, read, step_shift]
    cases l.step b with
    | more l' => exact ih l'
    | item i l' => exact congrArg (Reading.cons (i.mapPosition (n + ·))) (ih l')
    | fault f => rfl

/-- Between tags it makes no difference for the tags whether there was text already. -/
theorem read_text_tags (xs : List UInt8) :
    ∀ (seen : Bool) (start offset : Nat), (seen = false → start = offset) →
      (read none ⟨.text seen, start, offset⟩ xs).tags =
        (read none ⟨.text true, 0, offset⟩ xs).tags := by
  induction xs with
  | nil => intro seen start offset _; rfl
  | cons b rest ih =>
    intro seen start offset hStart
    by_cases hBracket : (b == 0x3C) = true
    · -- The bracket ends the text that there was; without text it is where the item starts.
      obtain rfl := eq_of_beq hBracket
      have hText : ∀ start, (read none ⟨.text true, start, offset⟩ (0x3C :: rest)).tags =
          (read none ⟨.opened, offset, offset + 1⟩ rest).tags := fun start =>
        Reading.tags_cons_aside (i := ⟨start, .aside⟩) rfl _
      cases seen with
      | true => exact (hText start).trans (hText 0).symm
      | false =>
        obtain rfl := hStart rfl
        exact (hText 0).symm
    · have hMore : ∀ seen start, step ⟨.text seen, start, offset⟩ b =
          .more ⟨.text true, start, offset + 1⟩ := fun _ _ => if_neg hBracket
      rw [read, read, hMore, hMore]
      exact ih true start (offset + 1) fun h => Bool.noConfusion h

/-- Wherever reading is taken up between tags, it finds the same tags. -/
theorem read_between {l : Lexer} {position : Nat} (h : l.Between position) (xs : List UInt8) :
    (read none l xs).outline = (read none initial xs).outline := by
  obtain ⟨seen, start, rfl, hstart⟩ := h
  have htags := (read_text_tags xs seen start position hstart).trans
    (read_text_tags xs false position position fun _ => rfl).symm
  have hshift := read_shift position none xs initial
  calc (read none ⟨.text seen, start, position⟩ xs).outline
      = (read none (initial.shift position) xs).outline := congrArg (Reading.mapPosition _) htags
    _ = (read none initial xs).outline := by rw [hshift, Reading.outline_mapPosition]

/-- A byte-order mark that is taken for text only moves the tags. -/
theorem read_mark (xs : List UInt8) :
    (read none initial (Feed.byteOrderMark ++ xs)).tags =
      (read none initial xs).tags.mapPosition (3 + ·) := by
  calc (read none initial (Feed.byteOrderMark ++ xs)).tags
      = (read none ⟨.text true, 0, 3⟩ xs).tags := rfl
    _ = (read none (initial.shift 3) xs).tags := (read_text_tags xs false 3 3 fun _ => rfl).symm
    _ = (read none initial xs).tags.mapPosition (3 + ·) := by
      rw [read_shift, Reading.tags_mapPosition]

end Lexer

end BindingCoverage.Xml
