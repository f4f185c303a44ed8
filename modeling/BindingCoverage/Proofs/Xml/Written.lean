import BindingCoverage.Proofs.Text.Utf8
import BindingCoverage.Proofs.Xml.AttributeSyntax
import BindingCoverage.Proofs.Xml.Entity

/-!
# Writing tags

A tag is written as its name, followed by a blank, a key, an equals sign and the escaped text in
double quotes for each of its attributes.

* `spells_written`: what is written follows the grammar.
* `written_attributes`: the reader of attributes brings what was written.
* `written_readable`, `written_text?`: so the tag can be read, and each key has its own text.
-/

namespace BindingCoverage.Xml

/-- Octets that are no part of the syntax of tags. -/
def isPlain (b : UInt8) : Bool :=
  !(isBlank b || [0x21, 0x22, 0x27, 0x2F, 0x3D, 0x3E, 0x3F].contains b)

/-- A text that can be written as a name or a key. -/
structure Word (s : String) : Prop where
  nonempty : Utf8.encode s ≠ []
  plain : ∀ b ∈ Utf8.encode s, isPlain b = true

def isWord (s : String) : Bool := !(Utf8.encode s).isEmpty && (Utf8.encode s).all isPlain

theorem word_of_isWord {s : String} (h : isWord s = true) : Word s := by
  rw [isWord, Bool.and_eq_true, Bool.not_eq_true', List.isEmpty_eq_false_iff,
    List.all_eq_true] at h
  exact ⟨h.1, h.2⟩

def writeAttributes : List (String × String) → String
  | [] => ""
  | (key, text) :: rest => " " ++ key ++ "=\"" ++ escape text ++ "\"" ++ writeAttributes rest

/-- The tag that is written with this name and these attributes. -/
def written (name : String) (attributes : List (String × String)) : Tag :=
  ⟨Utf8.encode (name ++ writeAttributes attributes)⟩

/-- The attribute that is written for a key and its text. -/
def writtenAttribute (a : String × String) : Attribute :=
  ⟨Utf8.encode a.1, Utf8.encode (escape a.2)⟩

theorem encode_writeAttributes_cons (key text : String) (rest : List (String × String)) :
    Utf8.encode (writeAttributes ((key, text) :: rest)) =
      0x20 :: (Utf8.encode key ++ 0x3D :: 0x22 :: (Utf8.encode (escape text) ++
        0x22 :: Utf8.encode (writeAttributes rest))) := by
  have hblank : Utf8.encode " " = [0x20] := rfl
  have hopening : Utf8.encode "=\"" = [0x3D, 0x22] := rfl
  have hclosing : Utf8.encode "\"" = [0x22] := rfl
  simp only [writeAttributes, Utf8.encode_append, hblank, hopening, hclosing, List.append_assoc,
    List.cons_append, List.nil_append]

theorem isBlank_of_isPlain {b : UInt8} (h : isPlain b = true) : isBlank b = false := by
  rw [isPlain, Bool.not_eq_true', Bool.or_eq_false_iff] at h
  exact h.1

theorem ne_of_isPlain {b d : UInt8} (h : isPlain b = true) (hd : isPlain d = false) : b ≠ d := by
  rintro rfl
  rw [h] at hd
  cases hd

/-- An escaped text has no octet that ends a value in double quotes. -/
theorem quote_not_mem_encode_escape (text : String) : 0x22 ∉ Utf8.encode (escape text) := by
  intro h
  exact quote_not_mem_escape text (Utf8.mem_encode_of_lt h (by decide))

theorem written_name {name : String} {attributes : List (String × String)} (h : Word name) :
    (written name attributes).name = Utf8.encode name := by
  have hplain : ∀ b ∈ Utf8.encode name, (!isBlank b) = true := by
    intro b hb
    rw [isBlank_of_isPlain (h.plain b hb)]
    rfl
  unfold Tag.name written
  rw [Utf8.encode_append, List.takeWhile_append_of_pos hplain]
  cases attributes with
  | nil =>
    change Utf8.encode name ++ [] = _
    rw [List.append_nil]
  | cons a rest =>
    obtain ⟨key, text⟩ := a
    rw [encode_writeAttributes_cons]
    change Utf8.encode name ++ [] = _
    rw [List.append_nil]

/-! ## Reading what is written -/

theorem isKey_of_word {key : String} (h : Word key) : IsKey (Utf8.encode key) := by
  have hplain := h.plain
  obtain ⟨first, more, hkey⟩ := List.exists_cons_of_ne_nil h.nonempty
  rw [hkey] at hplain
  refine ⟨first, more, hkey, isBlank_of_isPlain (hplain first List.mem_cons_self), ?_⟩
  intro b hb
  have hb := hplain b (List.mem_cons_of_mem _ hb)
  rw [endsKey, isBlank_of_isPlain hb, Bool.or_false, beq_eq_false_iff_ne]
  exact ne_of_isPlain hb rfl

theorem spells_written (attributes : List (String × String)) (h : ∀ a ∈ attributes, Word a.1) :
    SpellsAttributes (attributes.map writtenAttribute)
      (Utf8.encode (writeAttributes attributes)) := by
  induction attributes with
  | nil => exact .nil (by decide)
  | cons a rest ih =>
    obtain ⟨key, text⟩ := a
    obtain ⟨hkey, hrest⟩ := List.forall_mem_cons.mp h
    have hone : SpellsAttribute (writtenAttribute (key, text))
        ([0x20] ++ (Utf8.encode key ++
          ([] ++ 0x3D :: ([] ++ 0x22 :: (Utf8.encode (escape text) ++ [0x22]))))) :=
      .mk (by decide) (isKey_of_word hkey) (by decide) (by decide) rfl
        (quote_not_mem_encode_escape text)
    have hall := SpellsAttributes.cons hone (ih hrest)
    rw [encode_writeAttributes_cons]
    simpa [writtenAttribute] using hall

/-- A tag that can be written: its name and keys are words, and no key comes twice. -/
structure Writable (name : String) (attributes : List (String × String)) : Prop where
  name : Word name
  keys : ∀ a ∈ attributes, Word a.1
  distinct : (attributes.map Prod.fst).Nodup

section

variable {name : String} {attributes : List (String × String)}

theorem written_attributes (h : Writable name attributes) :
    (written name attributes).attributes = ⟨attributes.map writtenAttribute, none⟩ := by
  refine Tag.attributes_of_spells ?_ ?_
  · rw [written_name h.name, written, Utf8.encode_append, List.drop_left]
    exact spells_written attributes h.keys
  · have hkeys : (attributes.map writtenAttribute).map Attribute.key =
        (attributes.map Prod.fst).map Utf8.encode := by
      rw [List.map_map, List.map_map]
      rfl
    rw [hkeys]
    exact h.distinct.map fun _ _ heq => Utf8.encode_injective heq

theorem writtenAttribute_text (a : String × String) : (writtenAttribute a).text = .ok a.2 :=
  Attribute.text_eq_ok_iff.mpr ⟨escape a.2, Utf8.decode_encode _, unescape_escape _⟩

theorem written_readable (h : Writable name attributes) : (written name attributes).Readable := by
  rw [Tag.readable_iff, written_attributes h]
  refine ⟨rfl, ?_⟩
  intro a ha
  obtain ⟨b, -, rfl⟩ := List.mem_map.mp ha
  exact ⟨b.2, writtenAttribute_text b⟩

theorem written_text? (h : Writable name attributes) (key : String) :
    (written name attributes).text? key = attributes.lookup key := by
  unfold Tag.text?
  rw [written_attributes h]
  clear h
  simp only
  induction attributes with
  | nil => rfl
  | cons a rest ih =>
    rw [List.map_cons, List.lookup_cons, List.find?_cons]
    by_cases hkey : key = a.1
    · have hfound : ((writtenAttribute a).key == Utf8.encode key) = true := by
        rw [hkey]
        exact beq_self_eq_true _
      have hlookup : (key == a.1) = true := beq_iff_eq.mpr hkey
      simp only [hfound, hlookup, Option.bind_some, writtenAttribute_text]
      rfl
    · have hother : ((writtenAttribute a).key == Utf8.encode key) = false := by
        rw [beq_eq_false_iff_ne]
        exact fun heq => hkey (Utf8.encode_injective heq).symm
      simp only [hother, beq_eq_false_iff_ne.mpr hkey]
      exact ih

end

end BindingCoverage.Xml
