import BindingCoverage.Json.Cursor
import BindingCoverage.Json.Printer
import BindingCoverage.Proofs.Text.Utf8

/-!
# Layouts of JSON

`Json.Writes v text` says that the octets `text` write the value `v`, with any blanks between its
tokens. Strings and numbers have one written form each, which is that of the printer.

* `writes_compact`, `writes_pretty`: the two layouts of the printer.
* `WritesFields.length_le`: there are not more fields than octets.
-/

namespace BindingCoverage.Json

/-- Octets that mean nothing between tokens. -/
def Blanks (octets : List UInt8) : Prop := ∀ b ∈ octets, isBlank b = true

theorem blanks_nil : Blanks [] := nofun

/-- What stands before an item or a field: blanks, with a comma among them unless it is the first
one. -/
inductive Separator : Bool → List UInt8 → Prop where
  | first {blanks : List UInt8} : Blanks blanks → Separator true blanks
  | comma {before after : List UInt8} :
      Blanks before → Blanks after → Separator false (before ++ 0x2C :: after)

mutual

inductive Writes : Json → List UInt8 → Prop where
  | null : Writes .null (Utf8.encode "null")
  | bool (b : Bool) : Writes (.bool b) (Utf8.encode (if b then "true" else "false"))
  | number (n : Number) : Writes (.number n) (Utf8.encode n.text)
  | string (s : String) : Writes (.string s) (Utf8.encode (quoted s))
  | array {items : List Json} {inner : List UInt8} :
      WritesItems true items inner → Writes (.array items) (0x5B :: (inner ++ [0x5D]))
  | object {fields : List (String × Json)} {inner : List UInt8} :
      WritesFields true fields inner → Writes (.object fields) (0x7B :: (inner ++ [0x7D]))

/-- The octets up to the closing bracket of an array write these items; the flag says that there are
no items before them. -/
inductive WritesItems : Bool → List Json → List UInt8 → Prop where
  | nil {first : Bool} {blanks : List UInt8} : Blanks blanks → WritesItems first [] blanks
  | cons {first : Bool} {v : Json} {rest : List Json} {separator item more : List UInt8} :
      Separator first separator → Writes v item → WritesItems false rest more →
      WritesItems first (v :: rest) (separator ++ (item ++ more))

/-- The octets up to the closing brace of an object write these fields. -/
inductive WritesFields : Bool → List (String × Json) → List UInt8 → Prop where
  | nil {first : Bool} {blanks : List UInt8} : Blanks blanks → WritesFields first [] blanks
  | cons {first : Bool} {key : String} {v : Json} {rest : List (String × Json)}
      {separator before after value more : List UInt8} :
      Separator first separator → Blanks before → Blanks after → Writes v value →
      WritesFields false rest more →
      WritesFields first ((key, v) :: rest)
        (separator ++ (Utf8.encode (quoted key) ++ (before ++ 0x3A :: (after ++ (value ++ more)))))

end

/-- Every field has an octet of its own, so the octets are enough for the fields. -/
theorem WritesFields.length_le {first : Bool}
    {fields : List (String × Json)} {text : List UInt8} (hText : WritesFields first fields text) :
    fields.length ≤ text.length := by
  induction fields generalizing first text with
  | nil => exact Nat.zero_le _
  | cons _ _ ih =>
    cases hText with
    | cons _ _ _ _ hMore =>
      have hRest := ih hMore
      simp only [List.length_cons, List.length_append]
      omega

/-! ## The layouts of the printer -/

theorem encode_comma : Utf8.encode "," = [0x2C] := by decide +kernel

theorem encode_colon : Utf8.encode ":" = [0x3A] := by decide +kernel

theorem encode_colon_space : Utf8.encode ": " = [0x3A, 0x20] := by decide +kernel

theorem encode_brackets (s : String) :
    Utf8.encode ("[" ++ s ++ "]") = 0x5B :: (Utf8.encode s ++ [0x5D]) := by
  have hOpen : Utf8.encode "[" = [0x5B] := by decide +kernel
  have hClose : Utf8.encode "]" = [0x5D] := by decide +kernel
  rw [Utf8.encode_append, Utf8.encode_append, hOpen, hClose]
  rfl

theorem encode_braces (s : String) :
    Utf8.encode ("\x7b" ++ s ++ "\x7d") = 0x7B :: (Utf8.encode s ++ [0x7D]) := by
  have hOpen : Utf8.encode "\x7b" = [0x7B] := by decide +kernel
  have hClose : Utf8.encode "\x7d" = [0x7D] := by decide +kernel
  rw [Utf8.encode_append, Utf8.encode_append, hOpen, hClose]
  rfl

/-- The first item may stand at the beginning. -/
theorem WritesItems.start {v : Json} {rest : List Json} {item more : List UInt8}
    (hItem : Writes v item) (hMore : WritesItems false rest more) :
    WritesItems true (v :: rest) (item ++ more) :=
  .cons (.first blanks_nil) hItem hMore

/-- A field with its blanks before the key and after the colon. -/
theorem WritesFields.field {key : String} {v : Json} {rest : List (String × Json)}
    {before after value more : List UInt8} (hBefore : Blanks before) (hAfter : Blanks after)
    (hValue : Writes v value) (hMore : WritesFields false rest more) :
    WritesFields true ((key, v) :: rest)
      (before ++ (Utf8.encode (quoted key) ++ 0x3A :: (after ++ (value ++ more)))) :=
  @WritesFields.cons true key v rest before [] after value more (.first hBefore) blanks_nil hAfter
    hValue hMore

/-- A comma makes the first item one of the others. -/
theorem WritesItems.after_comma {v : Json} {rest : List Json} {text : List UInt8}
    (h : WritesItems true (v :: rest) text) : WritesItems false (v :: rest) (0x2C :: text) := by
  cases h with
  | cons hSeparator hItem hMore =>
    cases hSeparator with
    | first hBlanks => exact .cons (.comma blanks_nil hBlanks) hItem hMore

theorem WritesFields.after_comma {f : String × Json} {rest : List (String × Json)}
    {text : List UInt8} (h : WritesFields true (f :: rest) text) :
    WritesFields false (f :: rest) (0x2C :: text) := by
  cases h with
  | cons hSeparator hBefore hAfter hValue hMore =>
    cases hSeparator with
    | first hBlanks => exact .cons (.comma blanks_nil hBlanks) hBefore hAfter hValue hMore

mutual

theorem writes_compact : ∀ v : Json, Writes v (Utf8.encode (compact v))
  | .null => .null
  | .bool b => .bool b
  | .number n => .number n
  | .string s => .string s
  | .array items => by
    rw [compact, encode_brackets]
    exact .array (writesItems_compact items)
  | .object fields => by
    rw [compact, encode_braces]
    exact .object (writesFields_compact fields)

theorem writesItems_compact :
    ∀ items : List Json, WritesItems true items (Utf8.encode (compactItems items))
  | [] => .nil blanks_nil
  | [v] => by
    rw [compactItems, ← List.append_nil (Utf8.encode (compact v))]
    exact .start (writes_compact v) (.nil blanks_nil)
  | v :: w :: rest => by
    rw [compactItems, Utf8.encode_append, Utf8.encode_append, List.append_assoc, encode_comma]
    exact .start (writes_compact v) (writesItems_compact (w :: rest)).after_comma

theorem writesFields_compact :
    ∀ fields : List (String × Json), WritesFields true fields (Utf8.encode (compactFields fields))
  | [] => .nil blanks_nil
  | [(key, v)] => by
    have hField : WritesFields true [(key, v)] _ :=
      .field blanks_nil blanks_nil (writes_compact v) (.nil blanks_nil)
    simpa only [compactFields, Utf8.encode_append, encode_colon, List.append_assoc,
      List.cons_append, List.nil_append, List.append_nil] using hField
  | (key, v) :: f :: rest => by
    have hField : WritesFields true ((key, v) :: f :: rest) _ :=
      .field blanks_nil blanks_nil (writes_compact v) (writesFields_compact (f :: rest)).after_comma
    simpa only [compactFields, Utf8.encode_append, encode_colon, encode_comma, List.append_assoc,
      List.cons_append, List.nil_append] using hField

end

theorem blanks_space : Blanks [0x20] := by
  intro b hb
  rw [List.mem_singleton.mp hb]
  rfl

theorem blanks_newline (level : Nat) : Blanks (Utf8.encode (newline level)) := by
  intro b hb
  rw [Utf8.encode_eq, newline, String.toList_ofList, List.flatMap_cons, List.mem_append,
    List.mem_flatMap] at hb
  rcases hb with hb | ⟨c, hc, hb⟩
  · rw [List.mem_singleton.mp hb]
    rfl
  · obtain rfl := List.eq_of_mem_replicate hc
    rw [List.mem_singleton.mp hb]
    rfl

/-- Blanks may stand after the last item. -/
theorem WritesItems.append_blanks {first : Bool} {items : List Json} {text blanks : List UInt8}
    (h : WritesItems first items text) (hBlanks : Blanks blanks) :
    WritesItems first items (text ++ blanks) := by
  induction items generalizing first text with
  | nil =>
    cases h with
    | nil hText => exact .nil fun b hb => (List.mem_append.mp hb).elim (hText b) (hBlanks b)
  | cons v rest ih =>
    cases h with
    | cons hSeparator hItem hMore =>
      rw [List.append_assoc, List.append_assoc]
      exact .cons hSeparator hItem (ih hMore)

theorem WritesFields.append_blanks {first : Bool} {fields : List (String × Json)}
    {text blanks : List UInt8} (h : WritesFields first fields text) (hBlanks : Blanks blanks) :
    WritesFields first fields (text ++ blanks) := by
  induction fields generalizing first text with
  | nil =>
    cases h with
    | nil hText => exact .nil fun b hb => (List.mem_append.mp hb).elim (hText b) (hBlanks b)
  | cons f rest ih =>
    cases h with
    | cons hSeparator hBefore hAfter hValue hMore =>
      simp only [List.append_assoc, List.cons_append]
      exact .cons hSeparator hBefore hAfter hValue (ih hMore)

mutual

theorem writes_prettyAt (level : Nat) : ∀ v : Json, Writes v (Utf8.encode (prettyAt level v))
  | .null => .null
  | .bool b => .bool b
  | .number n => .number n
  | .string s => .string s
  | .array [] => .array (.nil blanks_nil)
  | .array (v :: rest) => by
    have hInner := encode_brackets (prettyItems (level + 1) (v :: rest) ++ newline level)
    rw [Utf8.encode_append (prettyItems _ _), ← String.append_assoc] at hInner
    rw [prettyAt, hInner]
    exact .array ((writesItems_pretty (level + 1) (v :: rest)).append_blanks (blanks_newline level))
  | .object [] => .object (.nil blanks_nil)
  | .object (f :: rest) => by
    have hInner := encode_braces (prettyFields (level + 1) (f :: rest) ++ newline level)
    rw [Utf8.encode_append (prettyFields _ _), ← String.append_assoc] at hInner
    rw [prettyAt, hInner]
    exact .object
      ((writesFields_pretty (level + 1) (f :: rest)).append_blanks (blanks_newline level))

theorem writesItems_pretty (level : Nat) :
    ∀ items : List Json, WritesItems true items (Utf8.encode (prettyItems level items))
  | [] => .nil blanks_nil
  | [v] => by
    rw [prettyItems, Utf8.encode_append, ← List.append_nil (Utf8.encode (prettyAt level v))]
    exact .cons (.first (blanks_newline level)) (writes_prettyAt level v) (.nil blanks_nil)
  | v :: w :: rest => by
    simp only [prettyItems, Utf8.encode_append, List.append_assoc, encode_comma]
    exact .cons (.first (blanks_newline level)) (writes_prettyAt level v)
      (writesItems_pretty level (w :: rest)).after_comma

theorem writesFields_pretty (level : Nat) :
    ∀ fields : List (String × Json),
      WritesFields true fields (Utf8.encode (prettyFields level fields))
  | [] => .nil blanks_nil
  | [(key, v)] => by
    simp only [prettyFields, Utf8.encode_append, List.append_assoc, encode_colon_space]
    rw [← List.append_nil (Utf8.encode (prettyAt level v))]
    exact .field (blanks_newline level) blanks_space (writes_prettyAt level v) (.nil blanks_nil)
  | (key, v) :: f :: rest => by
    simp only [prettyFields, Utf8.encode_append, List.append_assoc, encode_colon_space,
      encode_comma]
    exact .field (blanks_newline level) blanks_space (writes_prettyAt level v)
      (writesFields_pretty level (f :: rest)).after_comma

end

theorem writes_pretty (v : Json) : Writes v (Utf8.encode (pretty v)) := writes_prettyAt 0 v

end BindingCoverage.Json
