import BindingCoverage.Proofs.Along
import BindingCoverage.Proofs.Xml.Content
import BindingCoverage.Proofs.Xml.Lexer
import BindingCoverage.Proofs.Xml.Position

/-!
# Fragments of a document

A `Fragment` is a stretch of a document that is complete in itself: texts, comments, character data
sections, instructions and elements. Between their brackets there can be anything but what ends
them.

* `Fragment.passes`: wherever the lexer is between tags, it gets through a fragment and is between
  tags again, and the items it has found write the elements of the fragment.
-/

namespace BindingCoverage.Xml

/-! ## The grammar -/

/-- Every closing bracket is in quotation marks, and every quotation ends. -/
inductive Quoted : List UInt8 → Prop where
  | nil : Quoted []
  | plain {b : UInt8} {rest : List UInt8} :
    b ≠ 0x3E → b ≠ 0x22 → b ≠ 0x27 → Quoted rest → Quoted (b :: rest)
  | quotation {q : UInt8} {xs rest : List UInt8} :
    q = 0x22 ∨ q = 0x27 → q ∉ xs → Quoted rest → Quoted (q :: (xs ++ q :: rest))

/-- The tag is that of an element: it has a name, and with brackets around it is not taken for
markup of another kind or for a shorter tag. -/
structure Tag.IsElement (tag : Tag) : Prop where
  named : tag.name ≠ []
  first : ∀ b, tag.content.head? = some b → b ≠ 0x21 ∧ b ≠ 0x2F ∧ b ≠ 0x3F
  content : Quoted tag.content

/-- The tag is a start tag, and its name can stand in an end tag. -/
structure Tag.IsStart (tag : Tag) : Prop extends tag.IsElement where
  last : tag.content.getLast? ≠ some 0x2F
  name : Quoted tag.name

/-- A stretch of a document that is complete in itself, and the elements in it. -/
inductive Fragment : List UInt8 → Content → Prop where
  | nothing : Fragment [] .nothing
  | text {xs rest : List UInt8} {d : Content} :
    0x3C ∉ xs → Fragment rest d → Fragment (xs ++ rest) d
  | comment {xs rest : List UInt8} {d : Content} :
    ¬ Utf8.encode "-->" <:+: xs → Fragment rest d →
    Fragment (Utf8.encode "<!--" ++ xs ++ Utf8.encode "-->" ++ rest) d
  | characterData {xs rest : List UInt8} {d : Content} :
    ¬ Utf8.encode "]]>" <:+: xs → Fragment rest d →
    Fragment (Utf8.encode "<![CDATA[" ++ xs ++ Utf8.encode "]]>" ++ rest) d
  /-- An instruction does not open and close with the same question mark. -/
  | instruction {xs rest : List UInt8} {d : Content} :
    ¬ Utf8.encode "?>" <:+: Utf8.encode "?" ++ xs → Fragment rest d →
    Fragment (Utf8.encode "<?" ++ xs ++ Utf8.encode "?>" ++ rest) d
  | empty {tag : Tag} {rest : List UInt8} {after : Content} :
    tag.IsElement → Fragment rest after →
    Fragment (Utf8.encode "<" ++ tag.content ++ Utf8.encode "/>" ++ rest)
      (.element tag .nothing after)
  | paired {tag : Tag} {blanks xs ys : List UInt8} {inner after : Content} :
    tag.IsStart → (∀ b ∈ blanks, isBlank b = true) → Fragment xs inner → Fragment ys after →
    Fragment (Utf8.encode "<" ++ tag.content ++ Utf8.encode ">" ++ xs ++
      (Utf8.encode "</" ++ tag.name ++ blanks ++ Utf8.encode ">") ++ ys) (.element tag inner after)

namespace Lexer

/-! ## Octets within an item -/

/-- The octets bring the lexer from one mode to the other, and no item ends in them. -/
def Carries (xs : List UInt8) (mode mode' : Mode) : Prop :=
  ∀ start offset, run ⟨mode, start, offset⟩ xs = .ok ([], ⟨mode', start, offset + xs.length⟩)

section

variable {xs ys : List UInt8} {mode mode' mode'' : Mode}

theorem Carries.nil : Carries [] mode mode := fun _ _ => rfl

theorem Carries.append (hxs : Carries xs mode mode') (hys : Carries ys mode' mode'') :
    Carries (xs ++ ys) mode mode'' := by
  intro start offset
  rw [run_append_ok (hxs start offset), hys, List.length_append, Nat.add_assoc]
  rfl

theorem carries_one {b : UInt8}
    (h : ∀ start offset, step ⟨mode, start, offset⟩ b = .more ⟨mode', start, offset + 1⟩) :
    Carries [b] mode mode' := by
  intro start offset
  rw [run, h]
  rfl

/-- One octet after another, each of which becomes part of the content. -/
theorem carries_of_along {f : List UInt8 → Mode} {content : List UInt8}
    (h : Along (fun before b => ∀ start offset,
      step ⟨f (before.reverse ++ content), start, offset⟩ b =
        .more ⟨f (b :: (before.reverse ++ content)), start, offset + 1⟩) xs) :
    Carries xs (f content) (f (xs.reverse ++ content)) := by
  induction xs using List.reverseRecOn with
  | nil => exact .nil
  | append_singleton xs b ih =>
    obtain ⟨hxs, hb⟩ := along_concat.mp h
    rw [List.reverse_append]
    exact (ih hxs).append (carries_one hb)

end

/-! ## Tags -/

theorem carries_quotation {q : UInt8} {xs : List UInt8} (h : q ∉ xs) (content : List UInt8) :
    Carries xs (.tag (some q) content) (.tag (some q) (xs.reverse ++ content)) := by
  refine carries_of_along (f := Mode.tag (some q)) ?_
  rintro before b after rfl start offset
  have hne : (b == q) = false := by
    rw [beq_eq_false_iff_ne]
    rintro rfl
    exact h (by simp)
  simp [step, stepTag, stay, hne]

theorem carries_quoted {xs : List UInt8} (h : Quoted xs) :
    ∀ content, Carries xs (.tag none content) (.tag none (xs.reverse ++ content)) := by
  induction h with
  | nil => exact fun _ => .nil
  | @plain b rest hend hdouble hsingle _ ih =>
    intro content
    have hfirst : Carries [b] (.tag none content) (.tag none (b :: content)) := by
      refine carries_one fun start offset => ?_
      simp [step, stepTag, stay, hend, hdouble, hsingle]
    simpa using hfirst.append (ih _)
  | @quotation q xs rest hq hxs _ ih =>
    intro content
    have hopening : Carries [q] (.tag none content) (.tag (some q) (q :: content)) := by
      rcases hq with rfl | rfl
      · exact fun _ _ => rfl
      · exact fun _ _ => rfl
    have hclosing : ∀ content, Carries [q] (.tag (some q) content) (.tag none (q :: content)) := by
      refine fun content => carries_one fun start offset => ?_
      simp [step, stepTag, stay]
    simpa using hopening.append ((carries_quotation hxs _).append ((hclosing _).append (ih _)))

/-- The content of a tag, from its opening bracket to its closing one. -/
theorem carries_tag {b : UInt8} {xs : List UInt8} (h : Quoted (b :: xs)) (hbang : b ≠ 0x21)
    (hmark : b ≠ 0x3F) : Carries (b :: xs) .opened (.tag none (b :: xs).reverse) := by
  have hfirst : ∀ start offset,
      step ⟨.opened, start, offset⟩ b = step ⟨.tag none [], start, offset⟩ b := by
    intro start offset
    simp [step, hbang, hmark, stepTag, stay, finish]
  intro start offset
  have htag := carries_quoted h [] start offset
  rw [List.append_nil] at htag
  rw [← htag, run, run, hfirst]

/-! ## Items that end with what is not in them -/

theorem exists_of_take_two {before content : List UInt8} {c : UInt8} (hlength : 2 ≤ before.length)
    (h : (before.reverse ++ content).take 2 = [c, c]) : ∃ earlier, before = earlier ++ [c, c] := by
  rw [List.take_append_of_le_length (by rwa [List.length_reverse])] at h
  refine ⟨(before.reverse.drop 2).reverse, List.reverse_injective ?_⟩
  rw [List.reverse_append, List.reverse_reverse]
  exact (h ▸ List.take_append_drop 2 before.reverse).symm

theorem carries_comment {xs : List UInt8} (h : ¬ Utf8.encode "-->" <:+: xs) :
    Carries xs (.comment [0x2D, 0x2D, 0x21]) (.comment (xs.reverse ++ [0x2D, 0x2D, 0x21])) := by
  refine carries_of_along ?_
  rintro before b after rfl start offset
  refine if_neg fun hends => ?_
  simp only [Bool.and_eq_true, beq_iff_eq, decide_eq_true_eq] at hends
  obtain ⟨⟨rfl, hlength⟩, htake⟩ := hends
  rw [List.length_append, List.length_reverse] at hlength
  obtain ⟨earlier, rfl⟩ := exists_of_take_two (Nat.le_of_add_le_add_right (b := 3) hlength) htake
  exact h ⟨earlier, after, by simp; rfl⟩

theorem carries_characterData {xs : List UInt8} (h : ¬ Utf8.encode "]]>" <:+: xs) :
    Carries xs (.characterData (octetsOf "![CDATA[").reverse)
      (.characterData (xs.reverse ++ (octetsOf "![CDATA[").reverse)) := by
  refine carries_of_along ?_
  rintro before b after rfl start offset
  refine if_neg fun hends => ?_
  simp only [Bool.and_eq_true, beq_iff_eq] at hends
  obtain ⟨rfl, htake⟩ := hends
  have hlength : 2 ≤ before.length := by
    rcases before with _ | ⟨x, _ | ⟨y, rest⟩⟩
    · cases htake
    · cases htake
    · simp
  obtain ⟨earlier, rfl⟩ := exists_of_take_two hlength htake
  exact h ⟨earlier, after, by simp; rfl⟩

theorem carries_instruction {xs : List UInt8} (h : ¬ Utf8.encode "?>" <:+: Utf8.encode "?" ++ xs) :
    Carries xs (.instruction [0x3F]) (.instruction (xs.reverse ++ [0x3F])) := by
  refine carries_of_along ?_
  rintro before b after rfl start offset
  refine if_neg fun hends => ?_
  simp only [Bool.and_eq_true, beq_iff_eq] at hends
  obtain ⟨rfl, hhead⟩ := hends
  rw [← List.reverse_cons, List.head?_reverse] at hhead
  obtain ⟨earlier, hearlier⟩ := List.getLast?_eq_some_iff.mp hhead
  refine h ⟨earlier, after, ?_⟩
  change earlier ++ [0x3F, 0x3E] ++ after = 0x3F :: before ++ 0x3E :: after
  rw [hearlier]
  simp

/-! ## From tags to tags -/

/-- Wherever the lexer is between tags, it gets through the octets, is between tags again, and has
found these tags. -/
def Passes (xs : List UInt8) (tags : List Located) : Prop :=
  ∀ (l : Lexer) (position : Nat), l.Between position → ∃ spans last, l.run xs = .ok (spans, last) ∧
    last.Between (position + xs.length) ∧ outline (spans.map Span.located) = tags

theorem Passes.nil : Passes [] [] := fun l _ h => ⟨[], l, rfl, h, rfl⟩

theorem Passes.append {xs ys : List UInt8} {is js : List Located} (hxs : Passes xs is)
    (hys : Passes ys js) : Passes (xs ++ ys) (is ++ js) := by
  intro l position hl
  obtain ⟨first, middle, hfirst, hmiddle, rfl⟩ := hxs l position hl
  obtain ⟨second, last, hsecond, hlast, rfl⟩ := hys middle _ hmiddle
  refine ⟨first ++ second, last, ?_, ?_, ?_⟩
  · rw [run_append_ok hfirst, hsecond]
    rfl
  · rwa [List.length_append, ← Nat.add_assoc]
  · rw [List.map_append, outline_append]

theorem passes_text {xs : List UInt8} (h : 0x3C ∉ xs) : Passes xs [] := by
  have hstep : ∀ b ∈ xs, ∀ seen start offset,
      step ⟨.text seen, start, offset⟩ b = .more ⟨.text true, start, offset + 1⟩ := by
    intro b hb seen start offset
    refine if_neg fun hbracket => ?_
    rw [eq_of_beq hbracket] at hb
    exact h hb
  rintro l position ⟨seen, start, rfl, hstart⟩
  cases xs with
  | nil => exact Passes.nil _ _ ⟨seen, start, rfl, hstart⟩
  | cons b rest =>
    obtain ⟨hb, hrest⟩ := List.forall_mem_cons.mp hstep
    have hcarries : Carries rest (.text true) (.text true) := by
      refine @carries_of_along rest (fun _ => .text true) [] ?_
      rintro before b after rfl start offset
      exact hrest b (by simp) true start offset
    refine ⟨[], _, ?_, ⟨true, start, rfl, nofun⟩, rfl⟩
    rw [run, hb, List.length_cons, Nat.add_comm rest.length, ← Nat.add_assoc]
    exact hcarries start (position + 1)

/-- An item with `xs` between its opening bracket and its closing one. -/
theorem passes_item {xs : List UInt8} {mode : Mode} {item : Item} (hxs : Carries xs .opened mode)
    (hclosing : ∀ start offset, step ⟨mode, start, offset⟩ 0x3E =
      .item ⟨start, item⟩ (fresh (offset + 1))) :
    Passes (0x3C :: (xs ++ [0x3E])) (outline [⟨0, item⟩]) := by
  intro l position hl
  have hlength : position + (0x3C :: (xs ++ [0x3E])).length = position + 1 + xs.length + 1 := by
    simp only [List.length_cons, List.length_append, List.length_nil]
    omega
  have hinside : run ⟨.opened, position, position + 1⟩ (xs ++ [0x3E]) =
      .ok ([⟨⟨position, item⟩, position + 1 + xs.length + 1⟩],
        fresh (position + 1 + xs.length + 1)) := by
    rw [run_append_ok (hxs position (position + 1)), run, hclosing]
    rfl
  have houtline : outline [⟨position, item⟩] = outline [⟨0, item⟩] := by
    by_cases hitem : item = .aside
    · rw [outline_cons_aside hitem, outline_cons_aside hitem]
    · rw [outline_cons hitem, outline_cons hitem]
  obtain ⟨seen, start, rfl, hstart⟩ := hl
  rw [hlength]
  cases seen with
  | false =>
    obtain rfl := hstart rfl
    exact ⟨_, _, hinside, between_fresh _, houtline⟩
  | true =>
    -- The text ends where the item starts.
    refine ⟨[⟨⟨start, .aside⟩, position⟩, ⟨⟨position, item⟩, position + 1 + xs.length + 1⟩], _, ?_,
      between_fresh _, (outline_cons_aside rfl [⟨position, item⟩]).trans houtline⟩
    have hbracket : step ⟨.text true, start, position⟩ 0x3C =
        .item ⟨start, .aside⟩ ⟨.opened, position, position + 1⟩ := rfl
    rw [run, hbracket]
    simp only [hinside]
    rfl

/-- An item without meaning, with `xs` between what opens it and what ends it. -/
theorem passes_aside {opening xs terminator : List UInt8} {mode mode' mode'' : Mode}
    (hopening : Carries opening .opened mode) (hxs : Carries xs mode mode')
    (hterminator : Carries terminator mode' mode'')
    (hclosing : ∀ start offset, step ⟨mode'', start, offset⟩ 0x3E =
      .item ⟨start, .aside⟩ (fresh (offset + 1))) :
    Passes (0x3C :: opening ++ xs ++ (terminator ++ [0x3E])) [] := by
  rw [← List.append_assoc]
  exact passes_item ((hopening.append hxs).append hterminator) hclosing

/-- What is between the brackets begins as it has to. -/
theorem finishMarked_append (l : Lexer) (opening : String) (e : SyntaxError) (xs : List UInt8) :
    l.finishMarked opening e (xs ++ (octetsOf opening).reverse) = l.finish .aside := by
  refine if_pos (List.isPrefixOf_iff_prefix.mpr ?_)
  rw [List.reverse_append, List.reverse_reverse]
  exact List.prefix_append _ _

theorem passes_comment {xs : List UInt8} (h : ¬ Utf8.encode "-->" <:+: xs) :
    Passes (Utf8.encode "<!--" ++ xs ++ Utf8.encode "-->") [] := by
  have hopening : Carries [0x21, 0x2D, 0x2D] .opened (.comment [0x2D, 0x2D, 0x21]) :=
    fun _ _ => rfl
  have hterminator : ∀ content, Carries [0x2D, 0x2D] (.comment content)
      (.comment (0x2D :: 0x2D :: content)) := fun _ _ _ => rfl
  refine passes_aside hopening (carries_comment h) (hterminator _) fun start offset => ?_
  unfold step
  dsimp only
  rw [if_pos (by simp)]
  exact finishMarked_append _ _ _ (0x2D :: 0x2D :: xs.reverse)

theorem passes_characterData {xs : List UInt8} (h : ¬ Utf8.encode "]]>" <:+: xs) :
    Passes (Utf8.encode "<![CDATA[" ++ xs ++ Utf8.encode "]]>") [] := by
  have hopening : Carries (octetsOf "![CDATA[") .opened
      (.characterData (octetsOf "![CDATA[").reverse) := fun _ _ => rfl
  have hterminator : ∀ content, Carries [0x5D, 0x5D] (.characterData content)
      (.characterData (0x5D :: 0x5D :: content)) := fun _ _ _ => rfl
  refine passes_aside hopening (carries_characterData h) (hterminator _) fun start offset => ?_
  unfold step
  dsimp only
  rw [if_pos (by simp)]
  exact finishMarked_append _ _ _ (0x5D :: 0x5D :: xs.reverse)

theorem passes_instruction {xs : List UInt8}
    (h : ¬ Utf8.encode "?>" <:+: Utf8.encode "?" ++ xs) :
    Passes (Utf8.encode "<?" ++ xs ++ Utf8.encode "?>") [] := by
  have hopening : Carries [0x3F] .opened (.instruction [0x3F]) := fun _ _ => rfl
  have hterminator : ∀ content, Carries [0x3F] (.instruction content)
      (.instruction (0x3F :: content)) := fun _ _ _ => rfl
  refine passes_aside hopening (carries_instruction h) (hterminator _) fun start offset => ?_
  unfold step finishInstruction
  dsimp only
  rw [if_pos (by simp), if_neg (by simp)]
  rfl

/-- A tag, with all that stands between its brackets. -/
theorem passes_tag {content : List UInt8} (h : Quoted content)
    (hfirst : ∃ b xs, content = b :: xs ∧ b ≠ 0x21 ∧ b ≠ 0x3F) :
    Passes (Utf8.encode "<" ++ content ++ Utf8.encode ">") (outline [⟨0, .ofTag content⟩]) := by
  obtain ⟨b, xs, rfl, hbang, hmark⟩ := hfirst
  refine passes_item (carries_tag h hbang hmark) fun start offset => ?_
  exact congrArg (fun content => Step.item ⟨start, .ofTag content⟩ (fresh (offset + 1)))
    (List.reverse_reverse (b :: xs))

end Lexer

/-! ## Tags of elements -/

theorem Tag.IsElement.exists_cons {tag : Tag} (h : tag.IsElement) :
    ∃ b xs, tag.content = b :: xs ∧ b ≠ 0x21 ∧ b ≠ 0x2F ∧ b ≠ 0x3F := by
  obtain ⟨b, xs, hcontent⟩ : ∃ b xs, tag.content = b :: xs := by
    refine List.exists_cons_of_ne_nil fun hnil => h.named ?_
    rw [Tag.name, hnil]
    rfl
  exact ⟨b, xs, hcontent, h.first b (by rw [hcontent]; rfl)⟩

theorem ofTag_start {tag : Tag} (h : tag.IsStart) : Item.ofTag tag.content = .start tag := by
  obtain ⟨b, xs, hcontent, -, hslash, -⟩ := h.exists_cons
  unfold Item.ofTag
  split
  · rename_i heq
    rw [hcontent] at heq
    exact absurd (List.cons.inj heq).1 hslash
  · exact if_neg h.last

theorem ofTag_empty {tag : Tag} (h : tag.IsElement) :
    Item.ofTag (tag.content ++ [0x2F]) = .empty tag := by
  obtain ⟨b, xs, hcontent, -, hslash, -⟩ := h.exists_cons
  unfold Item.ofTag
  split
  · rename_i heq
    rw [hcontent] at heq
    exact absurd (List.cons.inj heq).1 hslash
  · rw [if_pos List.getLast?_concat, List.dropLast_concat]

theorem ofTag_close {name blanks : List UInt8} (hnamed : name ≠ [])
    (hname : ∀ b ∈ name, isBlank b = false) (hblanks : ∀ b ∈ blanks, isBlank b = true) :
    Item.ofTag (0x2F :: (name ++ blanks)) = .close name := by
  have htrim : (name ++ blanks).reverse.dropWhile isBlank = name.reverse := by
    rw [List.reverse_append, List.dropWhile_append_of_pos (by simpa using hblanks),
      List.dropWhile_eq_self_iff]
    intro hlength hblank
    rw [hname _ (List.mem_reverse.mp (List.getElem_mem hlength))] at hblank
    cases hblank
  simp only [Item.ofTag, htrim, List.reverse_reverse, List.isEmpty_eq_false_iff.mpr hnamed]
  rfl

theorem Quoted.append {xs ys : List UInt8} (hxs : Quoted xs) (hys : Quoted ys) :
    Quoted (xs ++ ys) := by
  induction hxs with
  | nil => exact hys
  | plain hend hdouble hsingle _ ih => exact .plain hend hdouble hsingle ih
  | quotation hq hxs _ ih =>
    rw [List.cons_append, List.append_assoc, List.cons_append]
    exact .quotation hq hxs ih

theorem quoted_of_forall {xs : List UInt8}
    (h : ∀ b ∈ xs, b ≠ 0x3E ∧ b ≠ 0x22 ∧ b ≠ 0x27) : Quoted xs := by
  induction xs with
  | nil => exact .nil
  | cons b rest ih =>
    obtain ⟨⟨hend, hdouble, hsingle⟩, hrest⟩ := List.forall_mem_cons.mp h
    exact .plain hend hdouble hsingle (ih hrest)

theorem quoted_of_blanks {blanks : List UInt8} (h : ∀ b ∈ blanks, isBlank b = true) :
    Quoted blanks := by
  have hne : ∀ b d, isBlank b = true → isBlank d = false → b ≠ d := by
    rintro b _ hb hd rfl
    rw [hb] at hd
    cases hd
  exact quoted_of_forall fun b hb =>
    ⟨hne b _ (h b hb) rfl, hne b _ (h b hb) rfl, hne b _ (h b hb) rfl⟩

section

variable {tag : Tag}

theorem passes_start (h : tag.IsStart) :
    Lexer.Passes (Utf8.encode "<" ++ tag.content ++ Utf8.encode ">") [⟨0, .start tag⟩] := by
  obtain ⟨b, xs, hcontent, hbang, -, hmark⟩ := h.exists_cons
  have htag := Lexer.passes_tag h.content ⟨b, xs, hcontent, hbang, hmark⟩
  rwa [ofTag_start h] at htag

theorem passes_empty (h : tag.IsElement) :
    Lexer.Passes (Utf8.encode "<" ++ tag.content ++ Utf8.encode "/>") [⟨0, .empty tag⟩] := by
  obtain ⟨b, xs, hcontent, hbang, -, hmark⟩ := h.exists_cons
  have hslash : Quoted [0x2F] := .plain (by decide) (by decide) (by decide) .nil
  have hfirst : tag.content ++ [0x2F] = b :: (xs ++ [0x2F]) := by rw [hcontent]; rfl
  have htag := Lexer.passes_tag (h.content.append hslash) ⟨b, _, hfirst, hbang, hmark⟩
  rw [ofTag_empty h, ← List.append_assoc, List.append_assoc _ [0x2F]] at htag
  exact htag

theorem passes_close {blanks : List UInt8} (h : tag.IsStart)
    (hblanks : ∀ b ∈ blanks, isBlank b = true) :
    Lexer.Passes (Utf8.encode "</" ++ tag.name ++ blanks ++ Utf8.encode ">")
      [⟨0, .close tag.name⟩] := by
  have hquoted : Quoted (0x2F :: (tag.name ++ blanks)) :=
    .plain (by decide) (by decide) (by decide) (h.name.append (quoted_of_blanks hblanks))
  have hname : ∀ b ∈ tag.name, isBlank b = false := by
    intro b hb
    simpa using List.mem_takeWhile_imp hb
  have htag := Lexer.passes_tag hquoted ⟨_, _, rfl, by decide, by decide⟩
  rwa [ofTag_close h.named hname hblanks, ← List.cons_append, ← List.append_assoc] at htag

end

/-! ## Elements -/

theorem Spells.outline {items : List Located} {d : Content} (h : Spells items d) :
    Spells (outline items) d := by
  induction h with
  | nothing => exact .nothing
  | aside hi _ ih =>
    rw [outline_cons_aside hi]
    exact ih
  | empty hi _ ih =>
    rw [outline_cons (by rw [hi]; nofun)]
    exact .empty hi ih
  | paired hi _ hj _ ihInner ihAfter =>
    rw [outline_append, outline_cons (by rw [hi]; nofun), outline_cons (by rw [hj]; nofun)]
    exact .paired hi ihInner hj ihAfter

theorem nestAll_outline (items : List Located) :
    ∀ names, nestAll names (outline items) = nestAll names items := by
  induction items with
  | nil => intro names; rfl
  | cons i rest ih =>
    intro names
    by_cases h : i.item = .aside
    · rw [outline_cons_aside h, nestAll_cons, h]
      exact ih names
    · rw [outline_cons h, nestAll_cons, nestAll_cons]
      exact congrArg (nest names i.item >>= ·) (funext ih)

/-- Which elements items write depends on the tags among them, and not on where these stand. -/
theorem spells_outline_iff {items : List Located} {d : Content} :
    Spells (outline items) d ↔ Spells items d := by
  constructor
  · intro h
    have hnest := h.nestAll_eq []
    rw [nestAll_outline] at hnest
    obtain ⟨e, he⟩ := completes_of_nestAll items [] hnest
    rwa [h.unique he.outline]
  · exact Spells.outline

/-- The lexer gets through a fragment, and the tags in it write its elements. -/
theorem Fragment.passes {xs : List UInt8} {d : Content} (h : Fragment xs d) :
    ∃ tags, Lexer.Passes xs tags ∧ Spells tags d := by
  induction h with
  | nothing => exact ⟨[], .nil, .nothing⟩
  | text hxs _ ih =>
    obtain ⟨tags, hrest, htags⟩ := ih
    exact ⟨tags, (Lexer.passes_text hxs).append hrest, htags⟩
  | comment hxs _ ih =>
    obtain ⟨tags, hrest, htags⟩ := ih
    exact ⟨tags, (Lexer.passes_comment hxs).append hrest, htags⟩
  | characterData hxs _ ih =>
    obtain ⟨tags, hrest, htags⟩ := ih
    exact ⟨tags, (Lexer.passes_characterData hxs).append hrest, htags⟩
  | instruction hxs _ ih =>
    obtain ⟨tags, hrest, htags⟩ := ih
    exact ⟨tags, (Lexer.passes_instruction hxs).append hrest, htags⟩
  | empty htag _ ih =>
    obtain ⟨tags, hrest, htags⟩ := ih
    exact ⟨_, (passes_empty htag).append hrest, .empty rfl htags⟩
  | paired htag hblanks _ _ ihInner ihAfter =>
    obtain ⟨inner, hinner, hspellsInner⟩ := ihInner
    obtain ⟨after, hafter, hspellsAfter⟩ := ihAfter
    have hall := (((passes_start htag).append hinner).append (passes_close htag hblanks)).append
      hafter
    refine ⟨_, hall, ?_⟩
    rw [List.append_assoc]
    exact .paired rfl hspellsInner rfl hspellsAfter

end BindingCoverage.Xml
