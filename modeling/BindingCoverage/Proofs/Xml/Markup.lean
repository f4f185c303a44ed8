import BindingCoverage.Proofs.Xml.Feed
import BindingCoverage.Proofs.Xml.Fragment
import BindingCoverage.Proofs.Xml.Root
import BindingCoverage.Proofs.Xml.Written

/-!
# Writing documents

A `Markup` is a forest of elements as it is to be written. An element with nothing in it is written
as an empty-element tag.

* `fragment_write`: a written forest is a fragment with its `content`.
* `isDocument_write`: so a single element that is written is a document.
-/

namespace BindingCoverage.Xml

/-! ## Tags -/

theorem quoted_of_plain {xs : List UInt8} (h : ∀ b ∈ xs, isPlain b = true) : Quoted xs :=
  quoted_of_forall fun b hb =>
    ⟨ne_of_isPlain (h b hb) rfl, ne_of_isPlain (h b hb) rfl, ne_of_isPlain (h b hb) rfl⟩

theorem quoted_writeAttributes (attributes : List (String × String))
    (h : ∀ a ∈ attributes, Word a.1) : Quoted (Utf8.encode (writeAttributes attributes)) := by
  induction attributes with
  | nil => exact .nil
  | cons a rest ih =>
    obtain ⟨key, text⟩ := a
    obtain ⟨hkey, hrest⟩ := List.forall_mem_cons.mp h
    have hvalue : Quoted (0x22 :: (Utf8.encode (escape text) ++
        0x22 :: Utf8.encode (writeAttributes rest))) :=
      .quotation (.inl rfl) (quote_not_mem_encode_escape text) (ih hrest)
    rw [encode_writeAttributes_cons]
    refine .plain (by decide) (by decide) (by decide) ((quoted_of_plain hkey.plain).append ?_)
    exact .plain (by decide) (by decide) (by decide) hvalue

/-- Attributes, if there are any, end with a quotation mark. -/
theorem getLast?_writeAttributes (attributes : List (String × String)) :
    (Utf8.encode (writeAttributes attributes)).getLast?.getD 0x22 = 0x22 := by
  induction attributes with
  | nil => rfl
  | cons a rest ih =>
    rw [encode_writeAttributes_cons]
    simp [List.getLast?_append, List.getLast?_cons, ih]

section

variable {name : String} {attributes : List (String × String)}

theorem isElement_written (h : Writable name attributes) :
    (written name attributes).IsElement := by
  have hplain := h.name.plain
  refine ⟨?_, ?_, ?_⟩
  · rw [written_name h.name]
    exact h.name.nonempty
  · intro b hb
    obtain ⟨first, more, hname⟩ := List.exists_cons_of_ne_nil h.name.nonempty
    rw [written, Utf8.encode_append, hname] at hb
    obtain rfl : first = b := Option.some.inj hb
    have hfirst := hplain first (by rw [hname]; exact List.mem_cons_self)
    exact ⟨ne_of_isPlain hfirst rfl, ne_of_isPlain hfirst rfl, ne_of_isPlain hfirst rfl⟩
  · rw [written, Utf8.encode_append]
    exact (quoted_of_plain hplain).append (quoted_writeAttributes attributes h.keys)

theorem isStart_written (h : Writable name attributes) : (written name attributes).IsStart := by
  refine ⟨isElement_written h, ?_, ?_⟩
  · intro hlast
    rw [written, Utf8.encode_append, List.getLast?_append] at hlast
    have hattributes := getLast?_writeAttributes attributes
    cases hend : (Utf8.encode (writeAttributes attributes)).getLast? with
    | some d =>
      rw [hend] at hlast hattributes
      obtain rfl : d = 0x22 := hattributes
      cases hlast
    | none =>
      rw [hend] at hlast
      exact ne_of_isPlain (h.name.plain _ (List.mem_of_getLast? hlast)) rfl rfl
  · rw [written_name h.name]
    exact quoted_of_plain h.name.plain

end

/-! ## Forests -/

inductive Markup where
  | nothing
  | element (name : String) (attributes : List (String × String)) (inner after : Markup)
  deriving DecidableEq, Repr

namespace Markup

/-- An element around what is already written. -/
def wrap (name : String) (attributes : List (String × String)) (inner : String) : String :=
  if inner = "" then "<" ++ (name ++ writeAttributes attributes) ++ "/>"
  else "<" ++ (name ++ writeAttributes attributes) ++ ">" ++ inner ++ ("</" ++ name ++ ">")

def write : Markup → String
  | nothing => ""
  | element name attributes inner after => wrap name attributes inner.write ++ after.write

/-- The elements that are written. -/
def content : Markup → Content
  | nothing => .nothing
  | element name attributes inner after =>
    .element (written name attributes) inner.content after.content

def Proper : Markup → Prop
  | nothing => True
  | element name attributes inner after =>
    Writable name attributes ∧ inner.Proper ∧ after.Proper

theorem eq_nothing_of_write {m : Markup} (h : m.write = "") : m = nothing := by
  cases m with
  | nothing => rfl
  | element name attributes inner after =>
    exfalso
    have hlength := congrArg String.length h
    unfold write wrap at hlength
    split at hlength
    · simp at hlength
    · simp at hlength

end Markup

theorem fragment_write {m : Markup} (h : m.Proper) : Fragment (Utf8.encode m.write) m.content := by
  induction m with
  | nothing => exact .nothing
  | element name attributes inner after ihInner ihAfter =>
    obtain ⟨hwritable, hinner, hafter⟩ := h
    rw [Markup.write, Markup.wrap, Utf8.encode_append]
    by_cases hempty : inner.write = ""
    · obtain rfl := Markup.eq_nothing_of_write hempty
      rw [if_pos hempty, Utf8.encode_append, Utf8.encode_append]
      exact .empty (isElement_written hwritable) (ihAfter hafter)
    · have hblanks : ∀ b ∈ ([] : List UInt8), isBlank b = true := nofun
      have hpaired := Fragment.paired (isStart_written hwritable) hblanks (ihInner hinner)
        (ihAfter hafter)
      have hcontent : (written name attributes).content =
          Utf8.encode name ++ Utf8.encode (writeAttributes attributes) := Utf8.encode_append _ _
      rw [written_name hwritable.name, hcontent, List.append_nil] at hpaired
      simp only [if_neg hempty, Utf8.encode_append, List.append_assoc] at hpaired ⊢
      exact hpaired

/-- An element that is written is a document. -/
theorem isDocument_write {name : String} {attributes : List (String × String)} {inner : Markup}
    (h : (Markup.element name attributes inner .nothing).Proper) :
    (read (.whole (Utf8.encode (Markup.element name attributes inner .nothing).write))).IsDocument
      (written name attributes) inner.content := by
  obtain ⟨tags, hpasses, hspells⟩ := (fragment_write h).passes
  obtain ⟨spans, last, hrun, ⟨seen, start, rfl, -⟩, htags⟩ :=
    hpasses Lexer.initial 0 (Lexer.between_fresh 0)
  have hmark : Feed.markSize
      (Utf8.encode (Markup.element name attributes inner .nothing).write) = 0 := by
    rw [Markup.write, Markup.wrap, Utf8.encode_append]
    split
    · rw [Utf8.encode_append, Utf8.encode_append]
      rfl
    · simp only [Utf8.encode_append]
      rfl
  rw [isDocument_iff, Feed.whole_octets, hmark]
  refine ⟨spans, _, hrun, rfl, ?_⟩
  rw [← spells_outline_iff, htags]
  exact hspells

/-! ## Parts of a written forest -/

namespace Markup

variable {name : String} (attributes : List (String × String)) (inner after : Markup)
  (name' : String)

theorem outermost_content (h : Word name) :
    (element name attributes inner after).content.outermost (Utf8.encode name') =
      (if name = name' then [(written name attributes, inner.content)]
        else inner.content.outermost (Utf8.encode name')) ++
      after.content.outermost (Utf8.encode name') := by
  simp only [content, Content.outermost, written_name h, Utf8.encode_injective.eq_iff]

theorem children_content (h : Word name) :
    (element name attributes inner after).content.children (Utf8.encode name') =
      (if name = name' then [written name attributes] else []) ++
      after.content.children (Utf8.encode name') := by
  simp only [content, Content.children, written_name h, Utf8.encode_injective.eq_iff]

theorem everywhere_content (h : Word name) :
    (element name attributes inner after).content.everywhere (Utf8.encode name') =
      (if name = name' then [written name attributes] else []) ++
      inner.content.everywhere (Utf8.encode name') ++
      after.content.everywhere (Utf8.encode name') := by
  simp only [content, Content.everywhere, written_name h, Utf8.encode_injective.eq_iff]

end Markup

end BindingCoverage.Xml
