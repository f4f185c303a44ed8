import Mathlib
import BindingCoverage.Host.Shell.Fields

/-!
# Patterns and fields

`Stands` says for which texts the elements of a pattern stand. What is quoted stands for itself.

* `matchesAll_iff`: the matcher accepts the texts that a pattern stands for.
* `dropStart_spec`, `dropEnd_spec`: what is dropped is the shortest or the longest part that
  matches.
* `flatten_fieldsOf`: splitting loses separators and nothing else, and only those that an expansion
  without quotes brought.
-/

namespace BindingCoverage.Host.Shell

namespace Pattern

/-! ## What a pattern stands for -/

inductive Stands : List Element → List Char → Prop where
  | nil : Stands [] []
  | char (c : Char) {p : List Element} {s : List Char} (rest : Stands p s) :
      Stands (.char c :: p) (c :: s)
  | any (c : Char) {p : List Element} {s : List Char} (rest : Stands p s) :
      Stands (.any :: p) (c :: s)
  | set {c : Char} {isNegated : Bool} {items : List CharKind.Item} {p : List Element}
      {s : List Char} (member : (items.any (·.holds c) != isNegated) = true) (rest : Stands p s) :
      Stands (.set isNegated items :: p) (c :: s)
  | many (skipped : List Char) {p : List Element} {s : List Char} (rest : Stands p s) :
      Stands (.many :: p) (skipped ++ s)

theorem stands_many_iff {p : List Element} {s : List Char} :
    Stands (.many :: p) s ↔ ∃ skipped rest, s = skipped ++ rest ∧ Stands p rest := by
  constructor
  · rintro ⟨⟩
    exact ⟨_, _, rfl, ‹_›⟩
  · rintro ⟨skipped, rest, rfl, h⟩
    exact .many skipped h

theorem stands_many_nil_iff {p : List Element} : Stands (.many :: p) [] ↔ Stands p [] := by
  simp [stands_many_iff, and_assoc]

theorem stands_many_cons_iff {p : List Element} {c : Char} {s : List Char} :
    Stands (.many :: p) (c :: s) ↔ Stands p (c :: s) ∨ Stands (.many :: p) s := by
  simp only [stands_many_iff]
  constructor
  · rintro ⟨_ | ⟨d, skipped⟩, rest, hText, h⟩
    · exact .inl (hText ▸ h)
    · obtain ⟨-, rfl⟩ := List.cons.inj hText
      exact .inr ⟨skipped, rest, rfl, h⟩
  · rintro (h | ⟨skipped, rest, rfl, h⟩)
    · exact ⟨[], c :: s, rfl, h⟩
    · exact ⟨c :: skipped, rest, rfl, h⟩

theorem matchesAll_iff (p : List Element) (s : List Char) : matchesAll p s ↔ Stands p s := by
  induction p, s using matchesAll.induct with
  | case1 s =>
    rw [matchesAll, List.isEmpty_iff]
    exact ⟨by rintro rfl; exact .nil, by rintro ⟨⟩; rfl⟩
  | case2 c p d s ih =>
    rw [matchesAll, Bool.and_eq_true, beq_iff_eq, ih]
    exact ⟨by rintro ⟨rfl, h⟩; exact .char c h, by rintro ⟨⟩; exact ⟨rfl, ‹_›⟩⟩
  | case3 p c s ih =>
    rw [matchesAll, ih]
    exact ⟨.any c, by rintro ⟨⟩; assumption⟩
  | case4 isNegated items p c s ih =>
    rw [matchesAll, Bool.and_eq_true, ih]
    exact ⟨fun h => .set h.1 h.2, by rintro ⟨⟩; exact ⟨‹_›, ‹_›⟩⟩
  | case5 p ih => rw [matchesAll, ih, stands_many_nil_iff]
  | case6 p c s ihSkip ihMore =>
    rw [matchesAll, Bool.or_eq_true, ihSkip, ihMore, stands_many_cons_iff]
  | case7 e p hMany =>
    have hFalse : matchesAll (e :: p) [] = false := by
      cases e with
      | many => exact absurd rfl hMany
      | char | any | set => rw [matchesAll]; simp
    rw [hFalse]
    refine ⟨nofun, fun h => ?_⟩
    generalize hText : [] = text at h
    cases h with
    | many => exact absurd rfl hMany
    | char | any | set => cases hText

/-- A cell that stands for its character alone. -/
def IsPlain (cell : Cell) : Prop :=
  cell.isQuoted = true ∨ cell.char ∉ ['*', '?', '\\', '[']

theorem elementsFrom_of_plain {cells : List Cell} (h : ∀ cell ∈ cells, IsPlain cell) {fuel : Nat}
    (hFuel : cells.length ≤ fuel) : elementsFrom fuel cells = cells.map (.char ·.char) := by
  induction cells generalizing fuel with
  | nil => cases fuel <;> rfl
  | cons cell rest ih =>
    obtain ⟨hCell, hRest⟩ := List.forall_mem_cons.mp h
    obtain _ | fuel := fuel
    · simp at hFuel
    have hNext := ih hRest (by simpa using hFuel)
    obtain ⟨c, isQuoted⟩ := cell
    cases isQuoted with
    | true => simp only [elementsFrom, hNext, List.map_cons]
    | false =>
      have hOrdinary := hCell.resolve_left nofun
      simp only [List.mem_cons, List.not_mem_nil, or_false, not_or] at hOrdinary
      obtain ⟨hMany, hAny, hBackslash, hBracket⟩ := hOrdinary
      rw [elementsFrom] <;> simp_all

/-- A pattern without anything special in it stands for its own text. -/
theorem isMatch_of_plain {cells : List Cell} (h : ∀ cell ∈ cells, IsPlain cell) (s : List Char) :
    isMatch cells s ↔ s = cells.map (·.char) := by
  have hStands : ∀ t : List Char, Stands (t.map .char) s ↔ s = t := by
    intro t
    induction t generalizing s with
    | nil => exact ⟨by rintro ⟨⟩; rfl, by rintro rfl; exact .nil⟩
    | cons c t ih =>
      constructor
      · intro hStands
        cases hStands with
        | char _ rest => rw [(ih _).mp rest]
      · rintro rfl
        exact .char c ((ih t).mpr rfl)
  rw [isMatch, elements, elementsFrom_of_plain h le_rfl, matchesAll_iff, ← hStands]
  simp [List.map_map, Function.comp_def]

/-! ## Dropping what matches -/

/-- The first of a list in order comes before all others that pass the test. -/
theorem first_of_find? {α : Type} {R : α → α → Prop} {xs : List α} {test : α → Bool} {a : α}
    (hOrder : xs.Pairwise R) (h : xs.find? test = some a) :
    a ∈ xs ∧ test a ∧ ∀ b ∈ xs, test b → b = a ∨ R a b := by
  obtain ⟨hTest, before, after, rfl, hBefore⟩ := List.find?_eq_some_iff_append.mp h
  refine ⟨by simp, hTest, fun b hb hPasses => ?_⟩
  rcases List.mem_append.mp hb with hb | hb
  · have hFails := hBefore b hb
    rw [hPasses] at hFails
    cases hFails
  · refine (List.mem_cons.mp hb).imp_right fun hb => ?_
    exact (List.pairwise_cons.mp (List.pairwise_append.mp hOrder).2.1).1 b hb

/-- Lengths up to a greatest one, in falling or in rising order. -/
def lengths (falls : Bool) (greatest : Nat) : List Nat :=
  if falls then (List.range (greatest + 1)).reverse else List.range (greatest + 1)

theorem mem_lengths {falls : Bool} {greatest n : Nat} :
    n ∈ lengths falls greatest ↔ n ≤ greatest := by
  unfold lengths
  split_ifs <;> simp

theorem pairwise_lengths (falls : Bool) (greatest : Nat) :
    (lengths falls greatest).Pairwise fun n k => if falls then k < n else n < k := by
  cases falls with
  | true => exact List.pairwise_reverse.mpr List.pairwise_lt_range
  | false => exact List.pairwise_lt_range

/-- What is found among the lengths is the greatest or the least one. -/
theorem of_find?_lengths (falls : Bool) (greatest : Nat) (test : Nat → Bool) :
    match (lengths falls greatest).find? test with
    | some n => n ≤ greatest ∧ test n ∧
        ∀ k ≤ greatest, test k → if falls then k ≤ n else n ≤ k
    | none => ∀ k ≤ greatest, ¬ test k := by
  cases h : (lengths falls greatest).find? test with
  | none =>
    intro k hk
    exact List.find?_eq_none.mp h k (mem_lengths.mpr hk)
  | some n =>
    obtain ⟨hMem, hTest, hFirst⟩ := first_of_find? (pairwise_lengths falls greatest) h
    refine ⟨mem_lengths.mp hMem, hTest, fun k hk hPasses => ?_⟩
    rcases hFirst k (mem_lengths.mpr hk) hPasses with rfl | hOrder
    · split_ifs <;> exact le_rfl
    · split_ifs at hOrder ⊢ <;> exact hOrder.le

/-- From the start is dropped the longest or the shortest part for which the pattern stands. -/
theorem dropStart_spec (longest : Bool) (cells : List Cell) (s : List Char) :
    (dropStart longest cells s = s ∧
      ∀ n ≤ s.length, ¬ Stands (elements cells) (s.take n)) ∨
    ∃ n ≤ s.length, dropStart longest cells s = s.drop n ∧ Stands (elements cells) (s.take n) ∧
      ∀ k ≤ s.length, Stands (elements cells) (s.take k) → if longest then k ≤ n else n ≤ k := by
  have hFound := of_find?_lengths longest s.length fun n => matchesAll (elements cells) (s.take n)
  have hDrop : dropStart longest cells s =
      match (lengths longest s.length).find?
        fun n => matchesAll (elements cells) (s.take n) with
      | some n => s.drop n
      | none => s := rfl
  simp only [matchesAll_iff] at hFound
  rw [hDrop]
  split at hFound
  · exact .inr ⟨_, hFound.1, rfl, hFound.2⟩
  · exact .inl ⟨rfl, hFound⟩

/-- From the end is dropped the longest or the shortest part for which the pattern stands. -/
theorem dropEnd_spec (longest : Bool) (cells : List Cell) (s : List Char) :
    (dropEnd longest cells s = s ∧
      ∀ n ≤ s.length, ¬ Stands (elements cells) (s.drop n)) ∨
    ∃ n ≤ s.length, dropEnd longest cells s = s.take n ∧ Stands (elements cells) (s.drop n) ∧
      ∀ k ≤ s.length, Stands (elements cells) (s.drop k) → if longest then n ≤ k else k ≤ n := by
  have hFound := of_find?_lengths (!longest) s.length fun n =>
    matchesAll (elements cells) (s.drop n)
  have hDrop : dropEnd longest cells s =
      match (lengths (!longest) s.length).find?
        fun n => matchesAll (elements cells) (s.drop n) with
      | some n => s.take n
      | none => s := by
    cases longest <;> rfl
  simp only [matchesAll_iff] at hFound
  rw [hDrop]
  split at hFound
  · obtain ⟨hInside, hStands, hFirst⟩ := hFound
    refine .inr ⟨_, hInside, rfl, hStands, fun k hk hOther => ?_⟩
    simpa using hFirst k hk hOther
  · exact .inl ⟨rfl, hFound⟩

end Pattern

/-! ## Fields -/

namespace Piece

/-- The cells of a piece that do not separate fields. -/
def kept (separators : List Char) : Piece → List Cell
  | .plain s => s.toList.map (⟨·, false⟩)
  | .literal s => s.toList.map (⟨·, true⟩)
  | .value s => (s.toList.filter (!separators.contains ·)).map (⟨·, false⟩)
  | .parameters vs => vs.flatMap fun v => v.toList.map (⟨·, true⟩)
  | .values vs => vs.flatMap fun v => (v.toList.filter (!separators.contains ·)).map (⟨·, false⟩)

end Piece

namespace Splitting

/-- All cells that have been taken, in their order. -/
def held (s : Splitting) : List Cell := s.done.reverse.flatten ++ s.current.reverse

theorem held_cut (s : Splitting) : s.cut.held = s.held := by
  simp [cut, held]

theorem held_push (s : Splitting) (isQuoted : Bool) (text : List Char) :
    (s.push isQuoted text).held = s.held ++ text.map (⟨·, isQuoted⟩) := by
  have hCurrent : ∀ cells : List Cell,
      text.foldl (fun cs c => ⟨c, isQuoted⟩ :: cs) cells =
        (text.map (Cell.mk · isQuoted)).reverse ++ cells := by
    induction text with
    | nil => exact fun _ => rfl
    | cons c text ih => intro cells; simp [ih]
  simp [push, held, hCurrent]

theorem held_separate (wasAfterParameters isBlank : Bool) (s : Splitting) :
    (s.separate wasAfterParameters isBlank).held = s.held := by
  have hEnd : ∀ s : Splitting,
      (if s.isUnbegun && s.afterBlank then { s with afterBlank := false } else s.cut).held =
        s.held := by
    intro s
    split_ifs
    · rfl
    · exact held_cut s
  unfold separate
  cases s.afterBlank with
  | true => rfl
  | false =>
    cases wasAfterParameters with
    | true => exact hEnd s
    | false => exact hEnd { s with afterBlank := isBlank }

theorem held_char (separators : List Char) (wasAfterParameters : Bool) (s : Splitting) (c : Char) :
    (s.char separators wasAfterParameters c).held =
      s.held ++ ([c].filter (!separators.contains ·)).map (⟨·, false⟩) := by
  unfold char
  cases hSeparator : separators.contains c with
  | true =>
    rw [if_pos rfl, held_separate, List.filter_cons_of_neg (by simpa using hSeparator)]
    simp
  | false =>
    rw [if_neg nofun, List.filter_cons_of_pos (by simpa using hSeparator)]
    simp [held]

theorem held_chars (separators : List Char) (wasAfterParameters : Bool) (text : List Char)
    (s : Splitting) :
    (text.foldl (char separators wasAfterParameters) s).held =
      s.held ++ (text.filter (!separators.contains ·)).map (⟨·, false⟩) := by
  induction text generalizing s with
  | nil => simp
  | cons c text ih =>
    rw [List.foldl_cons, ih, held_char, List.append_assoc, ← List.map_append, ← List.filter_append,
      List.singleton_append]

theorem held_eachOf {one : Splitting → String → Splitting} {between : Splitting → Splitting}
    {cells : String → List Cell} (hOne : ∀ s v, (one s v).held = s.held ++ cells v)
    (hBetween : ∀ s, (between s).held = s.held) (vs : List String) (s : Splitting) :
    (eachOf one between s vs).held = s.held ++ vs.flatMap cells := by
  induction vs generalizing s with
  | nil => simp [eachOf]
  | cons v vs ih =>
    cases vs with
    | nil => simp [eachOf, hOne]
    | cons w vs =>
      have hStep : eachOf one between s (v :: w :: vs) =
          eachOf one between (between (one s v)) (w :: vs) := rfl
      rw [hStep, ih, hBetween, hOne, List.append_assoc]
      rfl

theorem held_piece (separators : List Char) (s : Splitting) (p : Piece) :
    (s.piece separators p).held = s.held ++ p.kept separators := by
  cases p with
  | plain text => exact held_push s false _
  | literal text => exact held_push s true _
  | value text => exact held_chars separators _ _ _
  | values vs =>
    exact held_eachOf (fun t v => held_chars separators s.afterParameters v.toList t)
      (held_separate s.afterParameters true) vs
      { s with afterBlank := false, afterParameters := false }
  | parameters vs =>
    have hOne : ∀ (t : Splitting) (v : String),
        held { t.push true v.toList with isMarked := true } =
          t.held ++ v.toList.map (⟨·, true⟩) :=
      fun t v => held_push t true v.toList
    exact held_eachOf hOne held_cut vs { s with afterBlank := false, afterParameters := true }

end Splitting

/-- The fields of a word have all of its cells, in their order, but for the separators in the values
of expansions without quotes. -/
theorem flatten_fieldsOf (separators : String) (pieces : List Piece) :
    (fieldsOf separators pieces).flatten = pieces.flatMap (Piece.kept separators.toList) := by
  have hPieces : ∀ (pieces : List Piece) (s : Splitting),
      (pieces.foldl (Splitting.piece separators.toList) s).held =
        s.held ++ pieces.flatMap (Piece.kept separators.toList) := by
    intro pieces
    induction pieces with
    | nil => simp
    | cons p rest ih =>
      intro s
      rw [List.foldl_cons, ih, Splitting.held_piece, List.flatMap_cons, List.append_assoc]
  have hHeld := hPieces pieces {}
  rw [show ({} : Splitting).held = [] from rfl, List.nil_append] at hHeld
  rw [← hHeld, fieldsOf]
  generalize pieces.foldl (Splitting.piece separators.toList) {} = s
  split_ifs with hUnbegun
  · -- the field under way is not begun, so nothing is in it
    have hEmpty : s.current = [] := by
      simp only [Splitting.isUnbegun, Bool.and_eq_true, List.isEmpty_iff] at hUnbegun
      exact hUnbegun.1
    simp [Splitting.held, hEmpty]
  · rw [← Splitting.held_cut s]
    simp [Splitting.held, Splitting.cut]

end BindingCoverage.Host.Shell
