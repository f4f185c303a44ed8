import Mathlib
import BindingCoverage.Host.Utility.Generating
import BindingCoverage.Host.Utility.Ordering
import BindingCoverage.Proofs.Host.Program

/-!
# What utilities make of their input

A pipe cuts a text into parts, and a program gets one after the other. It must not matter where the
cuts are: a program that works on lines does the same as one that is given all lines at once
(`goes_run`), and `cat` writes what it reads (`goes_cat`). For `tr` it is enough that the
translation of a part goes on where the one before it ended (`apply_append`).

The numbers that `factor` prints are the prime factors in their order
(`factorsFrom_eq_primeFactorsList`).
-/

namespace BindingCoverage.Host.Utility

open Program (Goes)

/-- A text that a program prints is written. -/
theorem goes_print {d : Nat} {parts : List String} (c : Call) (text : String)
    (next : Unit → Action) : Goes d (c.print text next, parts) text (next (), parts) :=
  Program.goes_write text _

/-! ## Part by part -/

/-- What a pipe gives at once. -/
def IsInput (parts : List String) : Prop :=
  ∀ part ∈ parts, part ≠ "" ∧ part.length ≤ Program.readSize

variable {σ : Type} {d : Nat} {parts : List String}

/-- What comes of parts: the last state, all that is written, and the parts that nobody wants. -/
def treated (f : σ → String → σ × String × Bool) : σ → List String → σ × String × List String
  | s, [] => (s, "", [])
  | s, part :: rest =>
    let (s, text, wantsMore) := f s part
    if wantsMore then
      let (s, more, left) := treated f s rest
      (s, text ++ more, left)
    else (s, text, rest)

/-- A program that makes something of each part makes it of all of them. -/
theorem goes_forPieces {step : σ → String → Program (σ × Bool)}
    {f : σ → String → σ × String × Bool}
    (hStep : ∀ s part next parts, Goes d (step s part next, parts) (f s part).2.1
      (next ((f s part).1, (f s part).2.2), parts))
    (hParts : IsInput parts) (hFew : parts.length < Program.unbounded) (s : σ)
    (next : σ × Option SystemError → Action) :
    Goes d (forPieces d s step next, parts) (treated f s parts).2.1
      (next ((treated f s parts).1, none), (treated f s parts).2.2) := by
  unfold forPieces Program.loop
  generalize Program.unbounded = fuel at hFew
  induction parts generalizing s fuel with
  | nil =>
    obtain _ | fuel := fuel
    · cases hFew
    · exact .ended (.refl _)
  | cons part rest ih =>
    obtain _ | fuel := fuel
    · cases hFew
    obtain ⟨⟨hFull, hFits⟩, hRest⟩ := List.forall_mem_cons.mp hParts
    refine .read hFits ?_
    have hPart := hStep s part
    simp only [treated]
    cases hWants : (f s part).2.2 with
    | true =>
      rw [hWants] at hPart
      exact (hPart _ rest).trans (ih hRest (f s part).1 fuel (by simpa using hFew))
    | false =>
      rw [hWants] at hPart
      exact hPart _ rest

/-! ## Line by line -/

/-- The lines of a text, when the characters of the line under way are known already, the last one
first. -/
def linesFrom (current text : List Char) : List Line :=
  let (complete, rest) := splitLines current [] text
  complete.map (⟨·, true⟩) ++ (if rest.isEmpty then [] else [⟨rest.reverse, false⟩])

theorem splitLines_done (current : List Char) (done : List (List Char)) (text : List Char) :
    splitLines current done text =
      (done.reverse ++ (splitLines current [] text).1, (splitLines current [] text).2) := by
  induction text generalizing current done with
  | nil => simp [splitLines]
  | cons c rest ih =>
    by_cases hEnd : c = '\n'
    · subst hEnd
      rw [splitLines, splitLines, ih, ih [] [current.reverse]]
      simp
    · rw [splitLines, splitLines, ih]
      · exact hEnd
      · exact hEnd

theorem splitLines_append (current s t : List Char) :
    splitLines current [] (s ++ t) =
      ((splitLines current [] s).1 ++ (splitLines (splitLines current [] s).2 [] t).1,
        (splitLines (splitLines current [] s).2 [] t).2) := by
  induction s generalizing current with
  | nil => simp [splitLines]
  | cons c rest ih =>
    by_cases hEnd : c = '\n'
    · subst hEnd
      rw [List.cons_append, splitLines, splitLines, splitLines_done, ih,
        splitLines_done [] [current.reverse] rest]
      simp
    · rw [List.cons_append, splitLines, splitLines, ih]
      · exact hEnd
      · exact hEnd

theorem linesFrom_append (current s t : List Char) :
    linesFrom current (s ++ t) =
      (splitLines current [] s).1.map (⟨·, true⟩) ++ linesFrom (splitLines current [] s).2 t := by
  simp only [linesFrom, splitLines_append, List.map_append, List.append_assoc]

namespace LineFilter

variable {f : LineFilter σ}

theorem lines_output (s : σ) (output : List String) (ls : List Line) :
    f.lines s output ls = ((f.lines s [] ls).1,
      String.join output.reverse ++ (f.lines s [] ls).2.1, (f.lines s [] ls).2.2) := by
  induction ls generalizing s output with
  | nil => simp [lines]
  | cons l rest ih =>
    rw [lines, lines]
    rcases f.line s l with ⟨s', text, _ | _⟩
    · simp [String.join_append]
    · dsimp only
      rw [if_pos rfl, if_pos rfl, ih, ih s' [text]]
      simp [String.join_append, String.append_assoc]

theorem lines_cons (s : σ) (l : Line) (rest : List Line) :
    f.lines s [] (l :: rest) =
      if (f.line s l).2.2 then
        ((f.lines (f.line s l).1 [] rest).1,
          (f.line s l).2.1 ++ (f.lines (f.line s l).1 [] rest).2.1,
          (f.lines (f.line s l).1 [] rest).2.2)
      else f.line s l := by
  rw [lines]
  rcases f.line s l with ⟨s', text, _ | _⟩
  · simp
  · dsimp only
    rw [if_pos rfl, if_pos rfl, lines_output]
    simp

/-- Lines that come later are treated if nothing before them was the last one wanted. -/
theorem lines_append (s : σ) (a b : List Line) :
    f.lines s [] (a ++ b) =
      if (f.lines s [] a).2.2 then
        ((f.lines (f.lines s [] a).1 [] b).1,
          (f.lines s [] a).2.1 ++ (f.lines (f.lines s [] a).1 [] b).2.1,
          (f.lines (f.lines s [] a).1 [] b).2.2)
      else f.lines s [] a := by
  induction a generalizing s with
  | nil => simp [lines]
  | cons l rest ih =>
    rw [List.cons_append, lines_cons, lines_cons, ih]
    split_ifs <;> simp_all [String.append_assoc]

/-- What a filter makes of a part, when it knows the line under way. -/
def ofPart (f : LineFilter σ) :
    σ × List Char × Bool → String → (σ × List Char × Bool) × String × Bool
  | (s, current, _), part =>
    let (complete, rest) := splitLines current [] part.toList
    let (s, output, wantsMore) := f.lines s [] (complete.map (⟨·, true⟩))
    ((s, rest, wantsMore), output, wantsMore)

/-- What it makes of the line under way when nothing comes any more. -/
def atEnd (f : LineFilter σ) : σ × List Char × Bool → σ × String × Bool
  | (s, current, wantsMore) =>
    if wantsMore && !current.isEmpty then f.line s ⟨current.reverse, false⟩ else (s, "", wantsMore)

/-- It does not matter into which parts the lines are cut. -/
theorem lines_treated {s : σ} {current : List Char} {t : σ × List Char × Bool} {text : String}
    {left : List String} (h : treated f.ofPart (s, current, true) parts = (t, text, left)) :
    f.lines s [] (linesFrom current (String.join parts).toList) =
      ((f.atEnd t).1, text ++ (f.atEnd t).2.1, (f.atEnd t).2.2) := by
  induction parts generalizing s current text with
  | nil =>
    obtain ⟨rfl, rfl, rfl⟩ := h
    cases current with
    | nil => rfl
    | cons c current =>
      rw [String.join_nil, String.toList_empty, linesFrom, splitLines]
      rcases hLine : f.line s ⟨(c :: current).reverse, false⟩ with ⟨s', output, _ | _⟩ <;>
        simp_all [atEnd, lines_cons, lines]
  | cons part rest ih =>
    rw [String.join_cons, String.toList_append, linesFrom_append, lines_append]
    rcases hSplit : splitLines current [] part.toList with ⟨complete, current'⟩
    rcases hLines : f.lines s [] (complete.map (⟨·, true⟩)) with ⟨s', output, _ | _⟩
    · simp only [treated, ofPart, hSplit, hLines] at h ⊢
      obtain ⟨rfl, rfl, rfl⟩ := h
      simp [atEnd]
    · rcases hRest : treated f.ofPart (s', current', true) rest with ⟨t', more, left'⟩
      simp only [treated, ofPart, hSplit, hLines, if_pos, hRest] at h ⊢
      obtain ⟨rfl, rfl, rfl⟩ := h
      rw [ih hRest, String.append_assoc]

/-- Parts are left only if no more lines are wanted. -/
theorem left_of_treated {s : σ × List Char × Bool} {t : σ × List Char × Bool} {text : String}
    {left : List String} (h : treated f.ofPart s parts = (t, text, left)) (hWants : t.2.2 = true) :
    left = [] := by
  induction parts generalizing s text with
  | nil =>
    obtain ⟨-, -, rfl⟩ := h
    rfl
  | cons part rest ih =>
    obtain ⟨s, current, wanted⟩ := s
    rcases hSplit : splitLines current [] part.toList with ⟨complete, current'⟩
    rcases hLines : f.lines s [] (complete.map (⟨·, true⟩)) with ⟨s', output, _ | _⟩
    · simp only [treated, ofPart, hSplit, hLines] at h
      obtain ⟨rfl, -, -⟩ := h
      cases hWants
    · rcases hRest : treated f.ofPart (s', current', true) rest with ⟨t', more, left'⟩
      simp only [treated, ofPart, hSplit, hLines, if_pos, hRest] at h
      obtain ⟨rfl, -, rfl⟩ := h
      exact ih hRest

/-- What a program that works on lines does with a part. -/
def treat (c : Call) (f : LineFilter σ) (t : σ × List Char × Bool) (part : String) :
    Program ((σ × List Char × Bool) × Bool) := do
  c.print (f.ofPart t part).2.1
  return ((f.ofPart t part).1, (f.ofPart t part).2.2)

/-- A program that works on lines makes of all parts what it makes of all lines, and leaves none
unless it wants no more lines. -/
theorem goes_run (c : Call) (f : LineFilter σ) (start : σ) (hParts : IsInput parts)
    (hFew : parts.length < Program.unbounded)
    (next : σ × Bool × Option SystemError → Action) :
    ∃ left, ((f.lines start [] (linesOf (String.join parts))).2.2 = true → left = []) ∧
      Goes d (f.run c d start next, parts)
        (f.lines start [] (linesOf (String.join parts))).2.1
        (next ((f.lines start [] (linesOf (String.join parts))).1,
          (f.lines start [] (linesOf (String.join parts))).2.2, none), left) := by
  have hLines : linesOf (String.join parts) = linesFrom [] (String.join parts).toList := rfl
  have hRun : f.run c d start =
      forPieces d (start, ([] : List Char), true) (treat c f) >>= fun (t, e) =>
        if t.2.2 && !t.2.1.isEmpty then do
          c.print (f.line t.1 ⟨t.2.1.reverse, false⟩).2.1
          return ((f.line t.1 ⟨t.2.1.reverse, false⟩).1,
            (f.line t.1 ⟨t.2.1.reverse, false⟩).2.2, e)
        else return (t.1, t.2.2, e) := rfl
  have hStep : ∀ t part next parts, Goes d (treat c f t part next, parts) (f.ofPart t part).2.1
      (next ((f.ofPart t part).1, (f.ofPart t part).2.2), parts) :=
    fun t part next parts => goes_print c (f.ofPart t part).2.1 _
  rcases hTreated : treated f.ofPart (start, [], true) parts with
    ⟨⟨s, current, wantsMore⟩, text, left⟩
  have hAll := goes_forPieces hStep hParts hFew (start, [], true)
  rw [hTreated] at hAll
  rw [hLines, lines_treated hTreated, hRun]
  refine ⟨left, fun hWants => left_of_treated hTreated ?_, (hAll _).trans ?_⟩
  · cases wantsMore with
    | true => rfl
    | false => exact hWants
  · cases hLast : wantsMore && !current.isEmpty with
    | true =>
      simp only [atEnd, hLast]
      exact goes_print c _ _
    | false =>
      simp only [atEnd, hLast]
      exact .refl _

end LineFilter

/-! ## cat and tr -/

theorem treated_copy (parts : List String) :
    treated (fun (_ : Unit) part => ((), part, true)) () parts = ((), String.join parts, []) := by
  induction parts with
  | nil => rfl
  | cons part rest ih =>
    simp only [treated, ih, if_pos, String.join_cons]

/-- Without arguments `cat` writes what it reads. -/
theorem goes_cat (name : String) (environment : Environment) (hParts : IsInput parts)
    (hFew : parts.length < Program.unbounded) :
    Goes 0 (Program.toAction (cat ⟨name, [], environment⟩), parts) (String.join parts)
      (.exit (.exited 0), []) := by
  have hStep : ∀ (s : Unit) part next parts,
      Goes 0 ((do Call.print ⟨name, [], environment⟩ part; return ((), true) :
        Program (Unit × Bool)) next, parts) part (next ((), true), parts) :=
    fun _ part next parts => goes_print _ part _
  have hCopy := goes_forPieces (f := fun _ part => ((), part, true)) hStep hParts hFew ()
  rw [treated_copy] at hCopy
  exact hCopy _

theorem Translation.apply_done (t : Translation) (before : Option Char) (done s : List Char) :
    t.apply before done s = (done.reverse ++ (t.apply before [] s).1, (t.apply before [] s).2) := by
  induction s generalizing before done with
  | nil => simp [apply]
  | cons c rest ih =>
    unfold apply
    split_ifs
    · exact ih before done
    · dsimp only
      split_ifs
      · exact ih before done
      · rw [ih, ih _ [_]]
        simp

/-- It does not matter where the translation of a text is interrupted. -/
theorem Translation.apply_append (t : Translation) (before : Option Char) (a b : List Char) :
    t.apply before [] (a ++ b) =
      ((t.apply before [] a).1 ++ (t.apply (t.apply before [] a).2 [] b).1,
        (t.apply (t.apply before [] a).2 [] b).2) := by
  induction a generalizing before with
  | nil => simp [apply]
  | cons c rest ih =>
    have hFirst : ∀ s, t.apply before [] (c :: s) =
        if t.deletes && (t.isDeleted[c.toNat]?).getD false then t.apply before [] s
        else
          let d := (t.image[c.toNat]?).getD c
          if t.squeezes && before = some d && (t.isSqueezed[d.toNat]?).getD false then
            t.apply before [] s
          else t.apply (some d) [d] s := fun s => by rw [apply]
    rw [List.cons_append, hFirst, hFirst]
    split_ifs
    · exact ih before
    · dsimp only
      split_ifs
      · exact ih before
      · rw [apply_done, ih, apply_done t _ [_] rest]
        simp

/-! ## factor -/

/-- When everything less than `d` has been tried, the first factor that is found is the least. -/
theorem factorsFrom_eq_primeFactorsList {fuel d n : Nat} (hn : 0 < n) (hd : d = 2 ∨ 2 < d ∧ Odd d)
    (hLeast : ∀ p, p.Prime → p ∣ n → d ≤ p) (hFuel : n.sqrt + 1 - d + Nat.log 2 n < fuel) :
    factorsFrom fuel d n = n.primeFactorsList := by
  have hTwo : 2 ≤ d := by omega
  induction fuel generalizing d n with
  | zero => cases hFuel
  | succ fuel ih =>
    rw [factorsFrom]
    split_ifs with hOne hSquare hDivides hEven
    · obtain rfl : n = 1 := by omega
      rw [Nat.primeFactorsList_one]
    · -- a number that is not prime has a factor whose square is not greater
      have hPrime : n.Prime := by
        by_contra hComposite
        have hFactor := hLeast n.minFac (Nat.minFac_prime (by omega)) n.minFac_dvd
        have hBound := Nat.minFac_sq_le_self hn hComposite
        nlinarith
      rw [Nat.primeFactorsList_prime hPrime]
    · have hDvd : d ∣ n := Nat.dvd_of_mod_eq_zero hDivides
      have hMin : n.minFac = d :=
        le_antisymm (Nat.minFac_le_of_dvd hTwo hDvd)
          (hLeast n.minFac (Nat.minFac_prime (by omega)) n.minFac_dvd)
      have hRest : 0 < n / d := Nat.div_pos (Nat.le_of_dvd hn hDvd) (by omega)
      have hSqrt : (n / d).sqrt ≤ n.sqrt := Nat.sqrt_le_sqrt (Nat.div_le_self n d)
      have hLog : Nat.log 2 (n / d) ≤ Nat.log 2 n - 1 := by
        rw [← Nat.log_div_base]
        exact Nat.log_mono_right (Nat.div_le_div_left hTwo (by omega))
      have hPositive : 0 < Nat.log 2 n := Nat.log_pos (by omega) (by omega)
      obtain ⟨k, rfl⟩ : ∃ k, n = k + 2 := ⟨n - 2, by omega⟩
      rw [Nat.primeFactorsList_add_two, hMin]
      refine congrArg _ (ih hRest hd (fun p hp hpn => ?_) (by omega) hTwo)
      exact hLeast p hp (hpn.trans (Nat.div_dvd_of_dvd hDvd))
    all_goals
      have hRoot : d ≤ n.sqrt := Nat.le_sqrt.mpr (by omega)
      have hLater : ∀ p, p.Prime → p ∣ n → d < p := by
        intro p hp hpn
        refine lt_of_le_of_ne (hLeast p hp hpn) ?_
        rintro rfl
        exact hDivides (Nat.mod_eq_zero_of_dvd hpn)
    · subst hEven
      exact ih hn (.inr ⟨by omega, by decide⟩) hLater (by omega) (by omega)
    · -- both `d` and every prime that is left are odd
      obtain ⟨-, hOdd⟩ := hd.resolve_left hEven
      refine ih hn (.inr ⟨by omega, hOdd.add_even (by decide)⟩) (fun p hp hpn => ?_) (by omega)
        (by omega)
      have hAfter := hLater p hp hpn
      obtain ⟨k, hk⟩ := hOdd
      obtain ⟨l, hl⟩ := hp.odd_of_ne_two (by omega)
      omega

/-- The line that is printed for a number, if it can be taken apart in time. -/
theorem factorRow_eq {n : Nat} (hn : 0 < n) (h : n.sqrt + Nat.log 2 n ≤ 4000000) :
    factorRow n =
      s!"{n}:" ++ String.join (n.primeFactorsList.map fun p => s!" {p}") ++ "\n" := by
  have hRoot : 0 < n.sqrt := Nat.sqrt_pos.mpr hn
  rw [factorRow, factorsFrom_eq_primeFactorsList hn (.inl rfl) fun p hp _ => hp.two_le]
  omega

end BindingCoverage.Host.Utility
