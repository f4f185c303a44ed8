import Mathlib
import BindingCoverage.CommandLine.Execution
import BindingCoverage.Proofs.Declaration.Canonical
import BindingCoverage.Proofs.Host.Files

/-!
# The layouts of a symbol list

The same names can be written in many ways: with blanks around them, blank lines and comments among
them, and either of two line ends.

* `Layout names text`: the text has these names, in this order and each on a line of its own, and
  nothing else that counts.
* `symbols_eq_iff`: what is read from a text are the names that it is a layout of.
-/

namespace BindingCoverage

namespace Text

/-! ## Trimming -/

/-- The characters begin and end with no blank. -/
structure Trimmed (cs : List Char) : Prop where
  begins : ∀ c ∈ cs.head?, isBlank c = false
  ends : ∀ c ∈ cs.getLast?, isBlank c = false

-- the instance for all characters would go through every one of them
instance (cs : List Char) : Decidable (Trimmed cs) :=
  have := Option.decidableForallMem (p := fun c => isBlank c = false) cs.head?
  have := Option.decidableForallMem (p := fun c => isBlank c = false) cs.getLast?
  decidable_of_iff ((∀ c ∈ cs.head?, isBlank c = false) ∧ ∀ c ∈ cs.getLast?, isBlank c = false)
    ⟨fun h => ⟨h.1, h.2⟩, fun h => ⟨h.begins, h.ends⟩⟩

theorem dropWhile_of_head {cs : List Char} (h : ∀ c ∈ cs.head?, isBlank c = false) :
    cs.dropWhile isBlank = cs := by
  cases cs with
  | nil => rfl
  | cons c rest => exact List.dropWhile_cons_of_neg (Bool.eq_false_iff.mp (h c rfl))

theorem Trimmed.reverse {cs : List Char} (h : Trimmed cs) : Trimmed cs.reverse :=
  ⟨by rw [List.head?_reverse]; exact h.ends, by rw [List.getLast?_reverse]; exact h.begins⟩

theorem trimChars_append {before cs after : List Char} (hBefore : ∀ c ∈ before, isBlank c)
    (hTrimmed : Trimmed cs) (hAfter : ∀ c ∈ after, isBlank c) :
    trimChars (before ++ cs ++ after) = cs := by
  have hAfter' : ∀ c ∈ after.reverse, isBlank c := fun c hc => hAfter c (List.mem_reverse.mp hc)
  unfold trimChars
  rw [List.append_assoc, List.dropWhile_append_of_pos hBefore]
  cases hcs : cs with
  | nil =>
    rw [List.nil_append, List.dropWhile_eq_nil_iff.mpr hAfter]
    rfl
  | cons c rest =>
    have hBegins : ∀ d ∈ (cs ++ after).head?, isBlank d = false := by
      rw [hcs]
      exact fun d hd => hTrimmed.begins d (by rw [hcs]; exact hd)
    rw [← hcs, dropWhile_of_head hBegins, List.reverse_append,
      List.dropWhile_append_of_pos hAfter', dropWhile_of_head hTrimmed.reverse.begins,
      List.reverse_reverse]

theorem head_dropWhile (cs : List Char) :
    ∀ c ∈ (cs.dropWhile isBlank).head?, isBlank c = false := by
  intro c hc
  have hHead := List.head?_dropWhile_not isBlank cs
  rw [hc] at hHead
  exact hHead

theorem trimChars_trimmed (cs : List Char) : Trimmed (trimChars cs) := by
  refine ⟨fun c hc => ?_, ?_⟩
  · -- what is cut off at the end leaves the first character as it is
    obtain ⟨after, hAfter⟩ := List.rdropWhile_prefix isBlank (cs.dropWhile isBlank)
    refine head_dropWhile cs c ?_
    rw [← hAfter, List.head?_append]
    exact Option.mem_def.mpr (Option.or_eq_some_iff.mpr (.inl hc))
  · rw [trimChars, List.getLast?_reverse]
    exact head_dropWhile _

theorem trimChars_append_left {before : List Char} (h : ∀ c ∈ before, isBlank c) (cs : List Char) :
    trimChars (before ++ cs) = trimChars cs := by
  rw [trimChars, List.dropWhile_append_of_pos h, trimChars]

theorem head?_trimChars {c : Char} {rest : List Char} (h : isBlank c = false) :
    (trimChars (c :: rest)).head? = some c := by
  have hSame : (c :: rest).dropWhile isBlank = c :: rest :=
    List.dropWhile_cons_of_neg (Bool.eq_false_iff.mp h)
  obtain ⟨after, hAfter⟩ := List.rdropWhile_prefix isBlank (c :: rest)
  rw [trimChars, hSame]
  cases hLeft : (c :: rest).rdropWhile isBlank with
  | nil =>
    rw [List.rdropWhile_eq_nil_iff] at hLeft
    rw [hLeft c List.mem_cons_self] at h
    cases h
  | cons d more =>
    rw [hLeft, List.cons_append, List.cons.injEq] at hAfter
    rw [← List.rdropWhile, hLeft, hAfter.1]
    rfl

/-- Trimming takes nothing away but blanks. -/
theorem exists_eq_append_trimChars (cs : List Char) :
    ∃ before after, cs = before ++ trimChars cs ++ after ∧ (∀ c ∈ before, isBlank c) ∧
      ∀ c ∈ after, isBlank c := by
  refine ⟨cs.takeWhile isBlank, (cs.dropWhile isBlank).rtakeWhile isBlank, ?_,
    fun c => List.mem_takeWhile_imp, fun c => List.mem_rtakeWhile_imp⟩
  calc cs = cs.takeWhile isBlank ++ cs.dropWhile isBlank := List.takeWhile_append_dropWhile.symm
    _ = cs.takeWhile isBlank ++ (trimChars cs ++ (cs.dropWhile isBlank).rtakeWhile isBlank) := by
      rw [trimChars, ← List.rdropWhile, List.rdropWhile_append_rtakeWhile]
    _ = _ := (List.append_assoc _ _ _).symm

end Text

namespace SymbolList

open Text

/-! ## Layouts -/

/-- A name stands on one line, begins and ends with no blank, and does not begin as a comment. -/
structure IsName (name : String) : Prop where
  nonempty : name ≠ ""
  oneLine : '\n' ∉ name.toList
  trimmed : Trimmed name.toList
  notComment : name.toList.head? ≠ some '#'

/-- Blanks within a line. -/
def Gap (cs : List Char) : Prop := ∀ c ∈ cs, isBlank c ∧ c ≠ '\n'

instance (name : String) : Decidable (IsName name) :=
  decidable_of_iff (name ≠ "" ∧ '\n' ∉ name.toList ∧ Trimmed name.toList ∧
      name.toList.head? ≠ some '#')
    ⟨fun h => ⟨h.1, h.2.1, h.2.2.1, h.2.2.2⟩,
      fun h => ⟨h.nonempty, h.oneLine, h.trimmed, h.notComment⟩⟩

instance (cs : List Char) : Decidable (Gap cs) :=
  List.decidableBAll (fun c => isBlank c ∧ c ≠ '\n') cs

/-- A line, without its end, and the names on it. -/
inductive Line : List String → List Char → Prop
  | name {before after : List Char} {name : String} (hBefore : Gap before) (hName : IsName name)
      (hAfter : Gap after) : Line [name] (before ++ name.toList ++ after)
  | blank {cs : List Char} (h : Gap cs) : Line [] cs
  | comment {before rest : List Char} (hBefore : Gap before) (hRest : '\n' ∉ rest) :
      Line [] (before ++ '#' :: rest)

inductive LineEnd : List Char → Prop
  | feed : LineEnd ['\n']
  | returnFeed : LineEnd ['\r', '\n']

/-- Lines one after the other. The last one has no end; it is a blank line when all others are
ended. -/
inductive Layout : List String → List Char → Prop
  | last {names : List String} {line : List Char} (hLine : Line names line) : Layout names line
  | line {names more : List String} {line lineEnd rest : List Char} (hLine : Line names line)
      (hEnd : LineEnd lineEnd) (hRest : Layout more rest) :
      Layout (names ++ more) (line ++ lineEnd ++ rest)

/-! ## One line -/

theorem isSymbol_ofList_iff {cs : List Char} :
    isSymbol (String.ofList cs) ↔ cs ≠ [] ∧ cs.head? ≠ some '#' := by
  rw [isSymbol, Bool.and_eq_true, bne_iff_ne, Bool.not_eq_true', ← Bool.not_eq_true,
    String.isEmpty_iff, String.ofList_eq_empty_iff, String.toList_ofList]

/-- The symbol on a line, if there is one. -/
def inLine (line : List Char) : List String := [trim (String.ofList line)].filter isSymbol

theorem inLine_eq (line : List Char) :
    inLine line = [String.ofList (trimChars line)].filter isSymbol := by
  rw [inLine, trim, String.toList_ofList]

theorem Gap.blank {cs : List Char} (h : Gap cs) : ∀ c ∈ cs, isBlank c := fun c hc => (h c hc).1

theorem Gap.append {cs cs' : List Char} (h : Gap cs) (h' : Gap cs') : Gap (cs ++ cs') := by
  intro c hc
  rcases List.mem_append.mp hc with hc | hc
  · exact h c hc
  · exact h' c hc

theorem Gap.oneLine {cs : List Char} (h : Gap cs) : '\n' ∉ cs := fun hMem => (h _ hMem).2 rfl

theorem gap_return : Gap ['\r'] := by
  intro c hc
  rw [List.mem_singleton] at hc
  subst hc
  decide

section

variable {names : List String} {line : List Char}

theorem Line.oneLine (h : Line names line) : '\n' ∉ line := by
  cases h with
  | name hBefore hName hAfter =>
    simp only [List.mem_append, not_or]
    exact ⟨⟨hBefore.oneLine, hName.oneLine⟩, hAfter.oneLine⟩
  | blank h => exact h.oneLine
  | comment hBefore hRest =>
    simp only [List.mem_append, List.mem_cons, not_or]
    exact ⟨hBefore.oneLine, by decide, hRest⟩

/-- A carriage return before the line feed is one more blank, or is part of a comment. -/
theorem Line.append_return (h : Line names line) : Line names (line ++ ['\r']) := by
  cases h with
  | name hBefore hName hAfter =>
    rw [List.append_assoc]
    exact .name hBefore hName (hAfter.append gap_return)
  | blank h => exact .blank (h.append gap_return)
  | comment hBefore hRest =>
    rw [List.append_assoc, List.cons_append]
    refine .comment hBefore ?_
    rw [List.mem_append, not_or]
    exact ⟨hRest, gap_return.oneLine⟩

theorem inLine_of_line (h : Line names line) : inLine line = names := by
  rw [inLine_eq]
  cases h with
  | @name before after name hBefore hName hAfter =>
    have hSymbol : isSymbol (String.ofList name.toList) :=
      isSymbol_ofList_iff.mpr ⟨by simpa using hName.nonempty, hName.notComment⟩
    rw [trimChars_append hBefore.blank hName.trimmed hAfter.blank,
      List.filter_cons_of_pos hSymbol, String.ofList_toList, List.filter_nil]
  | blank h =>
    rw [trimChars_eq_nil.mpr h.blank]
    rfl
  | @comment before rest hBefore hRest =>
    have hHead : (trimChars ('#' :: rest)).head? = some '#' := head?_trimChars (by decide)
    rw [trimChars_append_left hBefore.blank]
    exact List.filter_cons_of_neg fun hSymbol => (isSymbol_ofList_iff.mp hSymbol).2 hHead

theorem line_inLine (h : '\n' ∉ line) : Line (inLine line) line := by
  obtain ⟨before, after, hLine, hBefore, hAfter⟩ := exists_eq_append_trimChars line
  have hTrimmed := trimChars_trimmed line
  rw [inLine_eq]
  generalize trimChars line = cs at hLine hTrimmed
  subst hLine
  simp only [List.mem_append, not_or] at h
  obtain ⟨⟨hBeforeOne, hOne⟩, hAfterOne⟩ := h
  have hBefore : Gap before := fun c hc => ⟨hBefore c hc, fun hEnd => hBeforeOne (hEnd ▸ hc)⟩
  have hAfter : Gap after := fun c hc => ⟨hAfter c hc, fun hEnd => hAfterOne (hEnd ▸ hc)⟩
  by_cases hSymbol : isSymbol (String.ofList cs)
  · have hName : IsName (String.ofList cs) := by
      obtain ⟨hNonempty, hNotComment⟩ := isSymbol_ofList_iff.mp hSymbol
      exact ⟨mt String.ofList_eq_empty_iff.mp hNonempty, by rwa [String.toList_ofList],
        by rwa [String.toList_ofList], by rwa [String.toList_ofList]⟩
    have hNamed := Line.name hBefore hName hAfter
    rw [List.filter_cons_of_pos hSymbol, List.filter_nil]
    rwa [String.toList_ofList] at hNamed
  · rw [List.filter_cons_of_neg hSymbol, List.filter_nil]
    rw [isSymbol_ofList_iff, not_and, not_not] at hSymbol
    cases cs with
    | nil =>
      rw [List.append_nil]
      exact .blank (hBefore.append hAfter)
    | cons c rest =>
      obtain rfl : c = '#' := Option.some.inj (hSymbol (List.cons_ne_nil c rest))
      rw [List.append_assoc, List.cons_append]
      refine .comment hBefore ?_
      rw [List.mem_append, not_or]
      exact ⟨fun hMem => hOne (List.mem_cons_of_mem _ hMem), hAfterOne⟩

end

/-! ## All lines -/

theorem dropReturn_eq (line : List Char) :
    dropReturn line = line ∨ line = dropReturn line ++ ['\r'] := by
  unfold dropReturn
  split
  · next h => exact .inr (List.dropLast_append_getLast? _ h).symm
  · exact .inl rfl

/-- It does not matter whether the carriage return before a line feed belongs to the line end. -/
theorem inLine_dropReturn {line : List Char} (h : '\n' ∉ line) :
    inLine (dropReturn line) = inLine line := by
  rcases dropReturn_eq line with hSame | hReturn
  · rw [hSame]
  · rw [hReturn, List.mem_append, not_or] at h
    conv_rhs => rw [hReturn]
    exact (inLine_of_line (line_inLine h.1).append_return).symm

theorem flatMap_linesFrom (cs : List Char) : ∀ current, '\n' ∉ current →
    (linesFrom current cs).flatMap inLine =
      ((current.reverse ++ cs).splitOn '\n').flatMap inLine := by
  induction cs with
  | nil =>
    intro current hCurrent
    rw [← List.mem_reverse] at hCurrent
    rw [List.append_nil, List.splitOn_eq_singleton hCurrent, linesFrom]
    split
    · next hEmpty =>
      rw [List.isEmpty_iff.mp hEmpty]
      rfl
    · rfl
  | cons c rest ih =>
    intro current hCurrent
    rw [linesFrom]
    split
    · next hEnd =>
      rw [← List.mem_reverse] at hCurrent
      subst hEnd
      rw [List.splitOn_append_cons_self_of_not_mem hCurrent, List.flatMap_cons, List.flatMap_cons,
        inLine_dropReturn hCurrent, ih [] List.not_mem_nil, List.reverse_nil, List.nil_append]
    · next hMore =>
      rw [ih (c :: current) (by simpa [eq_comm] using ⟨hMore, hCurrent⟩), List.reverse_cons,
        List.append_assoc]
      rfl

theorem filter_map_trim (lines : List (List Char)) :
    (lines.map fun line => trim (String.ofList line)).filter isSymbol = lines.flatMap inLine := by
  induction lines with
  | nil => rfl
  | cons line rest ih =>
    rw [List.flatMap_cons, ← ih, inLine, ← List.filter_append]
    rfl

/-- The lines of a text are what line feeds separate. -/
theorem symbols_eq (text : String) :
    symbols text = (text.toList.splitOn '\n').flatMap inLine := by
  have hLines : symbols text = (linesFrom [] text.toList).flatMap inLine := by
    rw [symbols, lines, List.map_map, ← filter_map_trim]
    rfl
  rw [hLines, flatMap_linesFrom _ _ List.not_mem_nil, List.reverse_nil, List.nil_append]

theorem symbols_sublist (text : String) :
    (symbols text).Sublist
      ((text.toList.splitOn '\n').map fun line => trim (String.ofList line)) := by
  rw [symbols_eq, ← filter_map_trim]
  exact List.filter_sublist

theorem symbols_of_layout {names : List String} {cs : List Char} (h : Layout names cs) :
    (cs.splitOn '\n').flatMap inLine = names := by
  induction h with
  | @last names line hLine =>
    rw [List.splitOn_eq_singleton hLine.oneLine, List.flatMap_singleton, inLine_of_line hLine]
  | @line names more line lineEnd rest hLine hEnd hRest ih =>
    -- with the carriage return as a part of the line there is one line end only
    obtain ⟨line', hLine', hFeed⟩ :
        ∃ line', Line names line' ∧ line ++ lineEnd ++ rest = line' ++ '\n' :: rest := by
      cases hEnd with
      | feed => exact ⟨line, hLine, by simp⟩
      | returnFeed => exact ⟨line ++ ['\r'], hLine.append_return, by simp⟩
    rw [hFeed, List.splitOn_append_cons_self_of_not_mem hLine'.oneLine, List.flatMap_cons,
      inLine_of_line hLine', ih]

theorem layout_symbols (cs : List Char) : Layout ((cs.splitOn '\n').flatMap inLine) cs := by
  by_cases hEnd : '\n' ∈ cs
  · obtain ⟨line, rest, hText, hLine⟩ := List.eq_append_cons_of_mem hEnd
    have hRest := layout_symbols rest
    rw [hText, List.splitOn_append_cons_self_of_not_mem hLine, List.flatMap_cons,
      List.append_cons]
    exact .line (line_inLine hLine) .feed hRest
  · rw [List.splitOn_eq_singleton hEnd, List.flatMap_singleton]
    exact .last (line_inLine hEnd)
termination_by cs.length
decreasing_by
  rw [hText, List.length_append, List.length_cons]
  omega

theorem symbols_eq_iff {text : String} {names : List String} :
    symbols text = names ↔ Layout names text.toList := by
  rw [symbols_eq]
  constructor
  · rintro rfl
    exact layout_symbols text.toList
  · exact symbols_of_layout

theorem Layout.isName {names : List String} {cs : List Char} (h : Layout names cs) :
    ∀ name ∈ names, IsName name := by
  have hLineNames {names line} (hLine : Line names line) : ∀ name ∈ names, IsName name := by
    cases hLine with
    | name _ hName _ =>
      intro name hMem
      rw [List.mem_singleton.mp hMem]
      exact hName
    | blank _ => exact fun name hMem => absurd hMem List.not_mem_nil
    | comment _ _ => exact fun name hMem => absurd hMem List.not_mem_nil
  induction h with
  | last hLine => exact hLineNames hLine
  | line hLine _ _ ih =>
    intro name hMem
    rcases List.mem_append.mp hMem with hMem | hMem
    · exact hLineNames hLine name hMem
    · exact ih name hMem

end SymbolList

namespace CommandLine

open SymbolList

/-- A symbol list gives the names that its text is a layout of. Every text is the layout of some
names, and these are trimmed lines of the text in their order. -/
theorem symbolsIn_layout (files : Host.Files) (path text : String)
    (hFile : files.readOctets path = .ok (Utf8.encode text)) :
    (∀ names, Layout names text.toList → symbolsIn files path = .ok names) ∧
      ∃ names, symbolsIn files path = .ok names ∧ Layout names text.toList ∧
        (∀ name ∈ names, IsName name) ∧
        names.Sublist
          ((text.toList.splitOn '\n').map fun line => Text.trim (String.ofList line)) := by
  have hRead : symbolsIn files path = .ok (symbols text) := by
    rw [symbolsIn, Host.Files.readText_eq_ok hFile]
  have hLayout : Layout (symbols text) text.toList := symbols_eq_iff.mp rfl
  refine ⟨fun names hNames => ?_, symbols text, hRead, hLayout, hLayout.isName,
    symbols_sublist text⟩
  rw [hRead, symbols_eq_iff.mpr hNames]

/-- Comments, a blank line, blanks around a name, both line ends, and none at the end. -/
def annotated : String := "# rados bindings\r\nrados_create\n\n \trados_connect \r\n#rados_close"

def annotatedFiles : Host.Files where
  nodes := [([], .directory), (["symbols"], .file (Utf8.encode annotated) false)]
  working := []

theorem symbolsIn_layout_annotated :
    symbolsIn annotatedFiles "/symbols" = .ok ["rados_create", "rados_connect"] := by
  have hFirst : Line [] ([] ++ '#' :: " rados bindings".toList) := .comment (by decide) (by decide)
  have hCreate : Line ["rados_create"] ([] ++ "rados_create".toList ++ []) :=
    .name (by decide) (by decide) (by decide)
  have hBlank : Line [] [] := .blank (by decide)
  have hConnect : Line ["rados_connect"] ([' ', '\t'] ++ "rados_connect".toList ++ [' ']) :=
    .name (by decide) (by decide) (by decide)
  have hLast : Line [] ([] ++ '#' :: "rados_close".toList) := .comment (by decide) (by decide)
  have hLayout : Layout ["rados_create", "rados_connect"] annotated.toList :=
    .line hFirst .returnFeed (.line hCreate .feed (.line hBlank .feed
      (.line hConnect .returnFeed (.last hLast))))
  exact (symbolsIn_layout annotatedFiles "/symbols" annotated (by decide +kernel)).1 _ hLayout

end CommandLine

end BindingCoverage
