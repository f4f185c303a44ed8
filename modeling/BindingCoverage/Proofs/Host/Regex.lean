import Mathlib
import BindingCoverage.Host.Regex.Basic

/-!
# What regular expressions match

`Matches` says what an expression matches, one case for each kind of expression. A search finds all
that matches, up to matches that need not be told apart (`represents_ends`), with the longest first
(`descending_ends`).

Two matches are told apart by their groups only if the expression refers back to a group. If it does
not, what it matches depends on the place alone (`respects_matches`).

* `search_eq_none_iff`: nothing is found if nothing matches from the place on.
* `search_eq_some`: what is found begins first, and is the longest of what begins there.
-/

namespace BindingCoverage.Host.Regex

/-! ## Matches -/

/-- As many steps of a relation. -/
def Steps {α : Type} (R : α → α → Prop) : Nat → α → α → Prop
  | 0, a, b => a = b
  | n + 1, a, b => ∃ c, R a c ∧ Steps R n c b

/-- The next character passes a test. -/
def One (s : Subject) (test : Char → Bool) (f g : Found) : Prop :=
  (∃ c, s.text[f.stop]? = some c ∧ test c) ∧ g = { f with stop := f.stop + 1 }

/-- The expression matches what stands between the two places, with the groups of the second one. -/
def Matches (s : Subject) : Regex → Found → Found → Prop
  | .char c, f, g => One s (s.equal c) f g
  | .any, f, g => One s (fun _ => true) f g
  | .set isNegated items, f, g => One s (s.holds isNegated items) f g
  | .sequence a b, f, h => ∃ g, Matches s a f g ∧ Matches s b g h
  | .either a b, f, g => Matches s a f g ∨ Matches s b f g
  | .many r, f, g => Relation.ReflTransGen (fun f g => Matches s r f g ∧ f.stop < g.stop) f g
  | .repeated r least most, f, g =>
    ∃ n, least ≤ n ∧ n ≤ max least most ∧ Steps (Matches s r) n f g
  | .group n r, f, g => ∃ h, Matches s r f h ∧ g = h.withGroup n f.stop
  | .same n, f, g => ∃ start stop, f.group? n = some (start, stop) ∧
      s.repeats start (stop - start) f.stop ∧ g = { f with stop := f.stop + (stop - start) }
  | r, f, g => s.fits f.stop r ∧ g = f

variable {s : Subject}

/-- A match goes forward, and not beyond the end of the text. -/
theorem stop_of_matches {r : Regex} {f g : Found} (h : Matches s r f g) :
    f.stop ≤ g.stop ∧ g.stop ≤ max f.stop s.text.size := by
  have hTrans : ∀ {a b c : Found}, a.stop ≤ b.stop ∧ b.stop ≤ max a.stop s.text.size →
      b.stop ≤ c.stop ∧ c.stop ≤ max b.stop s.text.size →
      a.stop ≤ c.stop ∧ c.stop ≤ max a.stop s.text.size := by
    intro a b c
    omega
  have hOne : ∀ {test : Char → Bool} {f g : Found}, One s test f g →
      f.stop ≤ g.stop ∧ g.stop ≤ max f.stop s.text.size := by
    rintro test f g ⟨⟨c, hc, -⟩, rfl⟩
    obtain ⟨hInside, -⟩ := Array.getElem?_eq_some_iff.mp hc
    dsimp only
    omega
  induction r generalizing f g with
  | char | any | set => exact hOne h
  | sequence a b iha ihb =>
    obtain ⟨m, hFirst, hSecond⟩ := h
    exact hTrans (iha hFirst) (ihb hSecond)
  | either a b iha ihb => exact h.elim iha ihb
  | many r ih =>
    induction h with
    | refl => omega
    | tail _ hStep ihSteps => exact hTrans ihSteps (ih hStep.1)
  | repeated r least most ih =>
    obtain ⟨n, -, -, hSteps⟩ := h
    induction n generalizing f with
    | zero =>
      obtain rfl := hSteps
      omega
    | succ n ihSteps =>
      obtain ⟨m, hFirst, hRest⟩ := hSteps
      exact hTrans (ih hFirst) (ihSteps hRest)
  | group n r ih =>
    obtain ⟨m, hMatch, rfl⟩ := h
    have hStop := ih hMatch
    exact hStop
  | same n =>
    obtain ⟨start, stop, -, hRepeats, rfl⟩ := h
    simp only [Subject.repeats, Bool.and_eq_true, decide_eq_true_eq] at hRepeats
    dsimp only
    omega
  | empty | lineStart | lineEnd | textStart | textEnd | wordStart | wordEnd | wordBound =>
    obtain ⟨-, rfl⟩ := h
    omega

/-! ## Matches that are alike -/

variable {isExact : Bool}

theorem alike_refl (f : Found) : alike isExact f f := by
  cases isExact <;> simp [alike]

theorem alike_trans {f g h : Found} (hfg : alike isExact f g) (hgh : alike isExact g h) :
    alike isExact f h := by
  cases isExact <;> simp_all [alike]

theorem stop_of_alike {f g : Found} (h : alike isExact f g) : f.stop = g.stop := by
  cases isExact <;> simp_all [alike]

/-- From places that are alike the relation leads to places that are alike. -/
def Respects (isExact : Bool) (R : Found → Found → Prop) : Prop :=
  ∀ f f' g, alike isExact f f' → R f g → ∃ g', R f' g' ∧ alike isExact g g'

namespace Respects

variable {R S : Found → Found → Prop}

theorem exact (R : Found → Found → Prop) : Respects true R := by
  intro f f' g hAlike hStep
  have hSame : f = f' := by simpa [alike] using hAlike
  exact ⟨g, hSame ▸ hStep, alike_refl g⟩

theorem comp (hR : Respects isExact R) (hS : Respects isExact S) :
    Respects isExact fun f h => ∃ g, R f g ∧ S g h := by
  rintro f f' h hAlike ⟨g, hFirst, hSecond⟩
  obtain ⟨g', hFirst', hAlike'⟩ := hR f f' g hAlike hFirst
  obtain ⟨h', hSecond', hAlike''⟩ := hS g g' h hAlike' hSecond
  exact ⟨h', ⟨g', hFirst', hSecond'⟩, hAlike''⟩

theorem steps (hR : Respects isExact R) (n : Nat) : Respects isExact (Steps R n) := by
  induction n with
  | zero =>
    rintro f f' g hAlike rfl
    exact ⟨f', rfl, hAlike⟩
  | succ n ih => exact hR.comp ih

theorem forward (hR : Respects isExact R) :
    Respects isExact fun f g => R f g ∧ f.stop < g.stop := by
  rintro f f' g hAlike ⟨hStep, hForward⟩
  obtain ⟨g', hStep', hAlike'⟩ := hR f f' g hAlike hStep
  refine ⟨g', ⟨hStep', ?_⟩, hAlike'⟩
  rwa [← stop_of_alike hAlike, ← stop_of_alike hAlike']

theorem closure (hR : Respects isExact R) : Respects isExact (Relation.ReflTransGen R) := by
  intro f f' g hAlike hSteps
  induction hSteps with
  | refl => exact ⟨f', .refl, hAlike⟩
  | tail _ hStep ih =>
    obtain ⟨g', hSteps', hAlike'⟩ := ih
    obtain ⟨h', hStep', hAlike''⟩ := hR _ _ _ hAlike' hStep
    exact ⟨h', hSteps'.tail hStep', hAlike''⟩

theorem one (s : Subject) (test : Char → Bool) : Respects isExact (One s test) := by
  cases isExact with
  | true => exact exact _
  | false =>
    rintro f f' g hAlike ⟨⟨c, hc, hTest⟩, rfl⟩
    have hStop := stop_of_alike hAlike
    refine ⟨{ f' with stop := f'.stop + 1 }, ⟨⟨c, hStop ▸ hc, hTest⟩, rfl⟩, ?_⟩
    simp [alike, hStop]

end Respects

/-- Without back references it does not matter what groups there were before. -/
theorem respects_matches (s : Subject) {r : Regex} (h : isExact = true ∨ r.refersBack = false) :
    Respects isExact (Matches s r) := by
  cases isExact with
  | true => exact .exact _
  | false =>
    have hBack : r.refersBack = false := h.resolve_left nofun
    induction r with
    | char | any | set => exact .one s _
    | sequence a b iha ihb =>
      simp only [refersBack, Bool.or_eq_false_iff] at hBack
      exact (iha (.inr hBack.1) hBack.1).comp (ihb (.inr hBack.2) hBack.2)
    | either a b iha ihb =>
      simp only [refersBack, Bool.or_eq_false_iff] at hBack
      rintro f f' g hAlike (hMatch | hMatch)
      · obtain ⟨g', hMatch', hAlike'⟩ := iha (.inr hBack.1) hBack.1 f f' g hAlike hMatch
        exact ⟨g', .inl hMatch', hAlike'⟩
      · obtain ⟨g', hMatch', hAlike'⟩ := ihb (.inr hBack.2) hBack.2 f f' g hAlike hMatch
        exact ⟨g', .inr hMatch', hAlike'⟩
    | many r ih => exact (ih (.inr hBack) hBack).forward.closure
    | repeated r least most ih =>
      rintro f f' g hAlike ⟨n, hLeast, hMost, hSteps⟩
      obtain ⟨g', hSteps', hAlike'⟩ := (ih (.inr hBack) hBack).steps n f f' g hAlike hSteps
      exact ⟨g', ⟨n, hLeast, hMost, hSteps'⟩, hAlike'⟩
    | group n r ih =>
      rintro f f' _ hAlike ⟨g, hMatch, rfl⟩
      obtain ⟨g', hMatch', hAlike'⟩ := ih (.inr hBack) hBack f f' g hAlike hMatch
      exact ⟨_, ⟨g', hMatch', rfl⟩, by simpa [alike, Found.withGroup] using hAlike'⟩
    | same n => cases hBack
    | empty | lineStart | lineEnd | textStart | textEnd | wordStart | wordEnd | wordBound =>
      rintro f f' _ hAlike ⟨hFits, rfl⟩
      exact ⟨f', ⟨stop_of_alike hAlike ▸ hFits, rfl⟩, hAlike⟩

/-! ## Lists of matches -/

/-- In the list is nothing without the property, and of everything with the property something
alike. -/
structure Represents (isExact : Bool) (fs : List Found) (P : Found → Prop) : Prop where
  sound : ∀ g ∈ fs, P g
  complete : ∀ g, P g → ∃ g' ∈ fs, alike isExact g g'

namespace Represents

variable {fs gs : List Found} {P Q : Found → Prop}

theorem congr (h : Represents isExact fs P) (hPQ : ∀ f, P f ↔ Q f) : Represents isExact fs Q :=
  ⟨fun g hg => (hPQ g).mp (h.sound g hg), fun g hg => h.complete g ((hPQ g).mpr hg)⟩

theorem of_mem_iff (h : ∀ g, g ∈ fs ↔ P g) : Represents isExact fs P :=
  ⟨fun g hg => (h g).mp hg, fun g hg => ⟨g, (h g).mpr hg, alike_refl g⟩⟩

theorem append (hf : Represents isExact fs P) (hg : Represents isExact gs Q) :
    Represents isExact (fs ++ gs) fun f => P f ∨ Q f := by
  constructor
  · intro g hMem
    exact (List.mem_append.mp hMem).imp (hf.sound g) (hg.sound g)
  · rintro g (hP | hQ)
    · obtain ⟨g', hMem, hAlike⟩ := hf.complete g hP
      exact ⟨g', List.mem_append_left _ hMem, hAlike⟩
    · obtain ⟨g', hMem, hAlike⟩ := hg.complete g hQ
      exact ⟨g', List.mem_append_right _ hMem, hAlike⟩

theorem flatMap {step : Found → List Found} {R : Found → Found → Prop}
    (hf : Represents isExact fs P) (hStep : ∀ f, Represents isExact (step f) (R f))
    (hR : Respects isExact R) :
    Represents isExact (fs.flatMap step) fun h => ∃ g, P g ∧ R g h := by
  constructor
  · intro h hMem
    obtain ⟨g, hg, hh⟩ := List.mem_flatMap.mp hMem
    exact ⟨g, hf.sound g hg, (hStep g).sound h hh⟩
  · rintro h ⟨g, hg, hh⟩
    obtain ⟨g', hMem, hAlike⟩ := hf.complete g hg
    obtain ⟨h', hh', hAlike'⟩ := hR g g' h hAlike hh
    obtain ⟨h'', hMem', hAlike''⟩ := (hStep g').complete h' hh'
    exact ⟨h'', List.mem_flatMap.mpr ⟨g', hMem, hMem'⟩, alike_trans hAlike' hAlike''⟩

theorem mem_distinct {seen fs : List Found} :
    (∀ g ∈ distinct isExact seen fs, g ∈ seen ∨ g ∈ fs) ∧
      ∀ g, g ∈ seen ∨ g ∈ fs → ∃ g' ∈ distinct isExact seen fs, alike isExact g g' := by
  induction fs generalizing seen with
  | nil =>
    simp only [distinct, List.mem_reverse, List.not_mem_nil, or_false]
    exact ⟨fun _ hg => hg, fun g hg => ⟨g, hg, alike_refl g⟩⟩
  | cons f rest ih =>
    rw [distinct]
    split_ifs with hSeen
    · -- `f` is left out, and something like it is there
      refine ⟨fun g hg => (ih.1 g hg).imp_right (List.mem_cons_of_mem f), ?_⟩
      rintro g (hg | hg)
      · exact ih.2 g (.inl hg)
      · rcases List.mem_cons.mp hg with rfl | hg
        · obtain ⟨g', hg', hAlike⟩ := List.any_eq_true.mp hSeen
          obtain ⟨g'', hg'', hAlike'⟩ := ih.2 g' (.inl hg')
          exact ⟨g'', hg'', alike_trans hAlike hAlike'⟩
        · exact ih.2 g (.inr hg)
    · refine ⟨fun g hg => ?_, fun g hg => ih.2 g ?_⟩
      · rcases ih.1 g hg with hg | hg
        · exact (List.mem_cons.mp hg).elim (fun h => .inr (h ▸ List.mem_cons_self)) .inl
        · exact .inr (List.mem_cons_of_mem f hg)
      · rcases hg with hg | hg
        · exact .inl (List.mem_cons_of_mem f hg)
        · exact (List.mem_cons.mp hg).elim (fun h => .inl (h ▸ List.mem_cons_self)) .inr

theorem distinct (hf : Represents isExact fs P) :
    Represents isExact (distinct isExact [] fs) P := by
  obtain ⟨hSound, hComplete⟩ := @mem_distinct isExact [] fs
  refine ⟨fun g hg => hf.sound g ((hSound g hg).resolve_left nofun), fun g hg => ?_⟩
  obtain ⟨g', hMem, hAlike⟩ := hf.complete g hg
  obtain ⟨g'', hMem', hAlike'⟩ := hComplete g' (.inr hMem)
  exact ⟨g'', hMem', alike_trans hAlike hAlike'⟩

theorem mergeSort (hf : Represents isExact fs P) (le : Found → Found → Bool) :
    Represents isExact (fs.mergeSort le) P := by
  refine ⟨fun g hg => hf.sound g (List.mem_mergeSort.mp hg), fun g hg => ?_⟩
  obtain ⟨g', hMem, hAlike⟩ := hf.complete g hg
  exact ⟨g', List.mem_mergeSort.mpr hMem, hAlike⟩

theorem ordered (hf : Represents isExact fs P) : Represents isExact (ordered isExact fs) P := by
  unfold Regex.ordered
  split
  · exact hf
  · exact hf
  · exact hf.distinct.mergeSort _

end Represents

/-! ## Repetitions -/

theorem single?_eq_some {r : Regex} {test : Char → Bool} (h : s.single? r = some test)
    (f g : Found) : Matches s r f g ↔ One s test f g := by
  cases r with
  | char | any | set =>
    obtain rfl := Option.some.inj h
    rfl
  | _ => cases h

/-- One character after the other leads to all places up to the first character that fails. -/
theorem mem_run {test : Char → Bool} {groups : List (Nat × Nat × Nat)} (g : Found) :
    ∀ (fuel i : Nat) (found : List Found), s.text.size ≤ i + fuel →
      (g ∈ run s test groups fuel i found ↔
        g ∈ found ∨
          Relation.ReflTransGen (fun f g => One s test f g ∧ f.stop < g.stop) ⟨i, groups⟩ g) := by
  intro fuel
  induction fuel with
  | zero =>
    intro i found hFuel
    rw [run, List.mem_cons, or_comm, Relation.ReflTransGen.cases_head_iff]
    refine or_congr_right ⟨fun h => .inl h.symm, ?_⟩
    rintro (h | ⟨g', ⟨⟨⟨c, hc, -⟩, -⟩, -⟩, -⟩)
    · exact h.symm
    · have hInside : i < s.text.size := (Array.getElem?_eq_some_iff.mp hc).1
      omega
  | succ fuel ih =>
    intro i found hFuel
    rw [run, Relation.ReflTransGen.cases_head_iff]
    split_ifs with hTest
    · rw [ih (i + 1) _ (by omega), List.mem_cons]
      obtain ⟨c, hc, hTrue⟩ := (Option.any_eq_true _ _).mp hTest
      have hNext : One s test ⟨i, groups⟩ ⟨i + 1, groups⟩ := ⟨⟨c, hc, hTrue⟩, rfl⟩
      constructor
      · rintro ((h | h) | h)
        · exact .inr (.inl h.symm)
        · exact .inl h
        · exact .inr (.inr ⟨_, ⟨hNext, Nat.lt_succ_self i⟩, h⟩)
      · rintro (h | h | ⟨g', ⟨⟨-, rfl⟩, -⟩, h⟩)
        · exact .inl (.inr h)
        · exact .inl (.inl h.symm)
        · exact .inr h
    · rw [List.mem_cons, or_comm]
      refine or_congr_right ⟨fun h => .inl h.symm, ?_⟩
      rintro (h | ⟨g', ⟨⟨⟨c, hc, hTrue⟩, -⟩, -⟩, -⟩)
      · exact h.symm
      · exact absurd ((Option.any_eq_true _ _).mpr ⟨c, hc, hTrue⟩) hTest

theorem represents_times {step : Found → List Found} {R : Found → Found → Prop}
    (hStep : ∀ f, Represents isExact (step f) (R f)) (hR : Respects isExact R) :
    ∀ (least extra : Nat) {fs : List Found} {P : Found → Prop}, Represents isExact fs P →
      Represents isExact (times isExact step least extra fs) fun g =>
        ∃ n, least ≤ n ∧ n ≤ least + extra ∧ ∃ f, P f ∧ Steps R n f g := by
  intro least
  induction least with
  | zero =>
    intro extra
    induction extra with
    | zero =>
      intro fs P hf
      rw [times]
      refine hf.congr fun g => ⟨fun hg => ⟨0, by omega, by omega, g, hg, rfl⟩, ?_⟩
      rintro ⟨n, -, hn, f, hP, hSteps⟩
      obtain rfl : n = 0 := by omega
      exact hSteps ▸ hP
    | succ extra ih =>
      intro fs P hf
      rw [times]
      refine ((ih (hf.flatMap hStep hR).ordered).append hf).ordered.congr fun g => ?_
      constructor
      · rintro (⟨n, -, hn, m, ⟨f, hP, hFirst⟩, hSteps⟩ | hP)
        · exact ⟨n + 1, by omega, by omega, f, hP, m, hFirst, hSteps⟩
        · exact ⟨0, by omega, by omega, g, hP, rfl⟩
      · rintro ⟨_ | n, -, hn, f, hP, hSteps⟩
        · exact .inr (hSteps ▸ hP)
        · obtain ⟨m, hFirst, hRest⟩ := hSteps
          exact .inl ⟨n, by omega, by omega, m, ⟨f, hP, hFirst⟩, hRest⟩
  | succ least ih =>
    intro extra fs P hf
    rw [times]
    refine (ih extra (hf.flatMap hStep hR).ordered).congr fun g => ?_
    constructor
    · rintro ⟨n, hLeast, hMost, m, ⟨f, hP, hFirst⟩, hSteps⟩
      exact ⟨n + 1, by omega, by omega, f, hP, m, hFirst, hSteps⟩
    · rintro ⟨_ | n, hLeast, hMost, f, hP, hSteps⟩
      · omega
      · obtain ⟨m, hFirst, hRest⟩ := hSteps
        exact ⟨n, by omega, by omega, m, ⟨f, hP, hFirst⟩, hRest⟩

/-- What has been found when the steps from `fs` are explored, where `seen` was known before. -/
structure Explored (isExact : Bool) (step : Found → List Found) (seen fs found : List Found) :
    Prop where
  kept : ∀ g ∈ seen, g ∈ found
  reached : ∀ f ∈ fs, ∃ g ∈ found, alike isExact f g
  sound : ∀ g ∈ found, g ∈ seen ∨ ∃ f ∈ fs, Relation.ReflTransGen (fun f g => g ∈ step f) f g
  closed : ∀ g ∈ found, g ∈ seen ∨ ∀ h ∈ step g, ∃ h' ∈ found, alike isExact h h'

namespace Explored

variable {step : Found → List Found} {seen found found' fs : List Found} {f : Found}

theorem nil : Explored isExact step seen [] seen :=
  ⟨fun _ hg => hg, nofun, fun _ hg => .inl hg, fun _ hg => .inl hg⟩

theorem cons (hFirst : Explored isExact step seen [f] found)
    (hRest : Explored isExact step found fs found') :
    Explored isExact step seen (f :: fs) found' := by
  refine ⟨fun g hg => hRest.kept g (hFirst.kept g hg), ?_, ?_, ?_⟩
  · intro g hg
    rcases List.mem_cons.mp hg with rfl | hg
    · obtain ⟨g', hMem, hAlike⟩ := hFirst.reached g List.mem_cons_self
      exact ⟨g', hRest.kept g' hMem, hAlike⟩
    · exact hRest.reached g hg
  · intro g hg
    rcases hRest.sound g hg with hg | ⟨f', hf', hSteps⟩
    · refine (hFirst.sound g hg).imp_right ?_
      rintro ⟨f', hf', hSteps⟩
      exact ⟨f', List.mem_cons.mpr (.inl (List.mem_singleton.mp hf')), hSteps⟩
    · exact .inr ⟨f', List.mem_cons_of_mem f hf', hSteps⟩
  · intro g hg
    rcases hRest.closed g hg with hg | hClosed
    · refine (hFirst.closed g hg).imp_right fun hClosed h hh => ?_
      obtain ⟨h', hMem, hAlike⟩ := hClosed h hh
      exact ⟨h', hRest.kept h' hMem, hAlike⟩
    · exact .inr hClosed

/-- When everything that comes next has been explored, so has the place itself. -/
theorem push (h : Explored isExact step seen (step f) found) :
    Explored isExact step seen [f] (f :: found) := by
  refine ⟨fun g hg => List.mem_cons_of_mem f (h.kept g hg), ?_, ?_, ?_⟩
  · intro g hg
    rw [List.mem_singleton.mp hg]
    exact ⟨f, List.mem_cons_self, alike_refl f⟩
  · intro g hg
    rcases List.mem_cons.mp hg with rfl | hg
    · exact .inr ⟨g, List.mem_singleton_self g, .refl⟩
    · refine (h.sound g hg).imp_right ?_
      rintro ⟨f', hf', hSteps⟩
      exact ⟨f, List.mem_singleton_self f, .head hf' hSteps⟩
  · intro g hg
    rcases List.mem_cons.mp hg with rfl | hg
    · refine .inr fun g' hg' => ?_
      obtain ⟨h', hMem, hAlike⟩ := h.reached g' hg'
      exact ⟨h', List.mem_cons_of_mem _ hMem, hAlike⟩
    · refine (h.closed g hg).imp_right fun hClosed g' hg' => ?_
      obtain ⟨h', hMem, hAlike⟩ := hClosed g' hg'
      exact ⟨h', List.mem_cons_of_mem _ hMem, hAlike⟩

end Explored

/-- Since every step goes on in the text, the exploration ends before its fuel does. -/
theorem explored_explore {step : Found → List Found} {bound : Nat}
    (hBound : ∀ f, ∀ g ∈ step f, f.stop ≤ bound → g.stop ≤ bound) :
    ∀ (fuel : Nat) (seen : List Found) (f : Found), f.stop ≤ bound → bound < fuel + f.stop →
      Explored isExact (fun f => (step f).filter (f.stop < ·.stop)) seen [f]
        (explore isExact step fuel seen f) := by
  intro fuel
  induction fuel with
  | zero =>
    intro seen f hf hFuel
    omega
  | succ fuel ih =>
    intro seen f hf hFuel
    rw [explore]
    split_ifs with hSeen
    · obtain ⟨g, hg, hAlike⟩ := List.any_eq_true.mp hSeen
      refine ⟨fun g hg => hg, ?_, fun g hg => .inl hg, fun g hg => .inl hg⟩
      intro f' hf'
      rw [List.mem_singleton.mp hf']
      exact ⟨g, hg, hAlike⟩
    · clear hSeen
      refine .push ?_
      have hNext : ∀ g ∈ (step f).filter (f.stop < ·.stop), g.stop ≤ bound ∧ f.stop < g.stop := by
        intro g hg
        obtain ⟨hMem, hForward⟩ := List.mem_filter.mp hg
        exact ⟨hBound f g hMem hf, by simpa using hForward⟩
      generalize (step f).filter (f.stop < ·.stop) = next at hNext
      induction next generalizing seen with
      | nil => exact .nil
      | cons g rest ihRest =>
        obtain ⟨⟨hInside, hForward⟩, hRest⟩ := List.forall_mem_cons.mp hNext
        exact .cons (ih seen g hInside (by omega)) (ihRest _ hRest)

theorem represents_explore {step : Found → List Found} {R : Found → Found → Prop}
    (hStep : ∀ f, Represents isExact (step f) (R f)) (hR : Respects isExact R)
    (hStop : ∀ f g, R f g → g.stop ≤ max f.stop s.text.size) (f : Found) :
    Represents isExact (explore isExact step (s.text.size + 1) [] f)
      (Relation.ReflTransGen (fun f g => R f g ∧ f.stop < g.stop) f) := by
  have hBound : ∀ f', ∀ g ∈ step f', f'.stop ≤ max f.stop s.text.size →
      g.stop ≤ max f.stop s.text.size := by
    intro f' g hg hf'
    have hNext := hStop f' g ((hStep f').sound g hg)
    omega
  have hExplored : Explored isExact (fun f => (step f).filter (f.stop < ·.stop)) [] [f]
      (explore isExact step (s.text.size + 1) [] f) :=
    explored_explore hBound (s.text.size + 1) [] f (by omega) (by omega)
  constructor
  · intro g hg
    obtain ⟨f', hf', hSteps⟩ := (hExplored.sound g hg).resolve_left nofun
    rw [List.mem_singleton.mp hf'] at hSteps
    refine Relation.ReflTransGen.mono (fun a b hb => ?_) f g hSteps
    obtain ⟨hMem, hForward⟩ := List.mem_filter.mp hb
    exact ⟨(hStep a).sound b hMem, by simpa using hForward⟩
  · intro g hSteps
    induction hSteps with
    | refl => exact hExplored.reached f (List.mem_singleton_self f)
    | tail _ hNext ih =>
      obtain ⟨g', hMem, hAlike⟩ := ih
      obtain ⟨h, hNext, hAlikeNext⟩ := hR.forward _ g' _ hAlike hNext
      obtain ⟨h', hMemNext, hAlikeStep⟩ := (hStep g').complete h hNext.1
      -- what is alike ends in the same place, so it is a step forward as well
      have hForward : g'.stop < h'.stop := stop_of_alike hAlikeStep ▸ hNext.2
      obtain ⟨h'', hFound, hAlikeFound⟩ := (hExplored.closed g' hMem).resolve_left nofun h'
        (List.mem_filter.mpr ⟨hMemNext, by simpa using hForward⟩)
      exact ⟨h'', hFound, alike_trans hAlikeNext (alike_trans hAlikeStep hAlikeFound)⟩

/-! ## All matches at a place -/

namespace Represents

theorem one (s : Subject) (test : Char → Bool) (f : Found) : Represents isExact
    (if (s.text[f.stop]?).any test then [{ f with stop := f.stop + 1 }] else [])
    (One s test f) := by
  refine .of_mem_iff fun g => ?_
  rw [One, ← Option.any_eq_true]
  split_ifs with hTest <;> simp [hTest]

theorem place (s : Subject) (r : Regex) (f : Found) : Represents isExact
    (if s.fits f.stop r then [f] else []) fun g => s.fits f.stop r ∧ g = f := by
  refine .of_mem_iff fun g => ?_
  split_ifs with hFits <;> simp [hFits]

theorem withGroup {fs : List Found} {P : Found → Prop} (h : Represents isExact fs P)
    (n start : Nat) :
    Represents isExact (fs.map (·.withGroup n start)) fun g =>
      ∃ f, P f ∧ g = f.withGroup n start := by
  constructor
  · intro g hg
    obtain ⟨f, hf, rfl⟩ := List.mem_map.mp hg
    exact ⟨f, h.sound f hf, rfl⟩
  · rintro _ ⟨f, hf, rfl⟩
    obtain ⟨f', hMem, hAlike⟩ := h.complete f hf
    refine ⟨f'.withGroup n start, List.mem_map_of_mem hMem, ?_⟩
    cases isExact with
    | true =>
      obtain rfl : f = f' := by simpa [alike] using hAlike
      exact alike_refl _
    | false => simpa [alike, Found.withGroup] using hAlike

theorem many_of_single {r : Regex} {test : Char → Bool} (h : s.single? r = some test)
    (f : Found) :
    Represents isExact (ends s isExact (.many r) f) (Matches s (.many r) f) := by
  have hRun : ends s isExact (.many r) f =
      run s test f.groups (s.text.size - f.stop) f.stop [] := by
    simp only [ends, h]
  refine .of_mem_iff fun g => ?_
  rw [hRun, mem_run g _ _ _ (by omega), or_iff_right List.not_mem_nil]
  have hOne : (fun f g => One s test f g ∧ f.stop < g.stop) =
      fun f g => Matches s r f g ∧ f.stop < g.stop := by
    funext f g
    rw [single?_eq_some h]
  rw [hOne]
  rfl

theorem same (s : Subject) (n : Nat) (f : Found) :
    Represents isExact (ends s isExact (.same n) f) (Matches s (.same n) f) := by
  refine .of_mem_iff fun g => ?_
  change g ∈ ends s isExact (.same n) f ↔ ∃ start stop, f.group? n = some (start, stop) ∧
    s.repeats start (stop - start) f.stop ∧ g = { f with stop := f.stop + (stop - start) }
  rw [ends]
  rcases hGroup : f.group? n with - | ⟨start, stop⟩
  · simp
  · dsimp only
    split_ifs with hRepeats <;> simp [hRepeats]

end Represents

/-- The search finds all that matches. -/
theorem represents_ends (s : Subject) {r : Regex} (h : isExact = true ∨ r.refersBack = false) :
    ∀ f, Represents isExact (ends s isExact r f) (Matches s r f) := by
  induction r with
  | char c => exact .one s (s.equal c)
  | any => exact .one s fun _ => true
  | set isNegated items => exact .one s (s.holds isNegated items)
  | sequence a b iha ihb =>
    have hBack : isExact = true ∨ a.refersBack = false ∧ b.refersBack = false := by
      rwa [refersBack, Bool.or_eq_false_iff] at h
    have ha := iha (hBack.imp_right And.left)
    have hb := hBack.imp_right And.right
    intro f
    exact ((ha f).flatMap (ihb hb) (respects_matches s hb)).ordered
  | either a b iha ihb =>
    have hBack : isExact = true ∨ a.refersBack = false ∧ b.refersBack = false := by
      rwa [refersBack, Bool.or_eq_false_iff] at h
    intro f
    exact ((iha (hBack.imp_right And.left) f).append (ihb (hBack.imp_right And.right) f)).ordered
  | many r ih =>
    intro f
    cases hSingle : s.single? r with
    | some test => exact .many_of_single hSingle f
    | none =>
      have hEnds : ends s isExact (.many r) f =
          (explore isExact (ends s isExact r) (s.text.size + 1) [] f).mergeSort
            fun a b => b.stop ≤ a.stop := by
        simp only [ends, hSingle]
      rw [hEnds]
      have hStop : ∀ f g, Matches s r f g → g.stop ≤ max f.stop s.text.size :=
        fun f g hMatch => (stop_of_matches hMatch).2
      exact (represents_explore (ih h) (respects_matches s h) hStop f).mergeSort _
  | repeated r least most ih =>
    intro f
    have hStart : Represents isExact [f] (· = f) := .of_mem_iff fun g => List.mem_singleton
    refine (represents_times (ih h) (respects_matches s h) least (most - least) hStart).congr ?_
    intro g
    refine exists_congr fun n => and_congr_right fun _ => and_congr ?_ exists_eq_left
    omega
  | group n r ih => exact fun f => (ih h f).withGroup n f.stop
  | same n => exact .same s n
  | empty => exact .place s .empty
  | lineStart => exact .place s .lineStart
  | lineEnd => exact .place s .lineEnd
  | textStart => exact .place s .textStart
  | textEnd => exact .place s .textEnd
  | wordStart => exact .place s .wordStart
  | wordEnd => exact .place s .wordEnd
  | wordBound isNegated => exact .place s (.wordBound isNegated)

/-! ## The longest match -/

/-- The longest match comes first. -/
def Descending (fs : List Found) : Prop := fs.Pairwise fun a b => b.stop ≤ a.stop

theorem descending_mergeSort (fs : List Found) :
    Descending (fs.mergeSort fun a b => b.stop ≤ a.stop) := by
  refine (List.pairwise_mergeSort ?_ ?_ fs).imp fun h => by simpa using h
  · intro a b c hab hbc
    simp only [decide_eq_true_eq] at *
    omega
  · intro a b
    simp only [Bool.or_eq_true, decide_eq_true_eq]
    omega

theorem descending_ordered (fs : List Found) : Descending (ordered isExact fs) := by
  unfold ordered
  split
  · exact .nil
  · exact List.pairwise_singleton _ _
  · exact descending_mergeSort _

theorem descending_run {test : Char → Bool} {groups : List (Nat × Nat × Nat)} :
    ∀ (fuel i : Nat) (found : List Found), Descending found → (∀ f ∈ found, f.stop ≤ i) →
      Descending (run s test groups fuel i found) := by
  intro fuel
  induction fuel with
  | zero => exact fun i found hFound hBefore => hFound.cons hBefore
  | succ fuel ih =>
    intro i found hFound hBefore
    rw [run]
    split_ifs
    · refine ih (i + 1) _ (hFound.cons hBefore) ?_
      intro f hf
      rcases List.mem_cons.mp hf with rfl | hf
      · exact Nat.le_succ i
      · exact (hBefore f hf).trans (Nat.le_succ i)
    · exact hFound.cons hBefore

theorem descending_times {step : Found → List Found} :
    ∀ (least extra : Nat) {fs : List Found}, Descending fs →
      Descending (times isExact step least extra fs) := by
  intro least
  induction least with
  | zero =>
    intro extra fs hfs
    rw [times.eq_def]
    cases extra with
    | zero => exact hfs
    | succ extra => exact descending_ordered _
  | succ least ih =>
    intro extra fs _
    rw [times]
    exact ih extra (descending_ordered _)

theorem descending_ite (c : Bool) (f : Found) :
    Descending (if c then [f] else []) := by
  split_ifs
  · exact List.pairwise_singleton _ _
  · exact .nil

theorem descending_ends (s : Subject) (r : Regex) (f : Found) :
    Descending (ends s isExact r f) := by
  induction r generalizing f with
  | sequence | either => exact descending_ordered _
  | many r =>
    rw [ends]
    split
    · exact descending_run _ _ _ .nil nofun
    · exact descending_mergeSort _
  | repeated r least most => exact descending_times _ _ (List.pairwise_singleton _ _)
  | group n r ih => exact List.pairwise_map.mpr (ih f)
  | same n =>
    rw [ends]
    split
    · exact descending_ite _ _
    · exact .nil
  | char | any | set => exact descending_ite _ _
  | empty => exact descending_ite (s.fits f.stop .empty) f
  | lineStart => exact descending_ite (s.fits f.stop .lineStart) f
  | lineEnd => exact descending_ite (s.fits f.stop .lineEnd) f
  | textStart => exact descending_ite (s.fits f.stop .textStart) f
  | textEnd => exact descending_ite (s.fits f.stop .textEnd) f
  | wordStart => exact descending_ite (s.fits f.stop .wordStart) f
  | wordEnd => exact descending_ite (s.fits f.stop .wordEnd) f
  | wordBound isNegated => exact descending_ite (s.fits f.stop (.wordBound isNegated)) f

/-! ## Searches -/

theorem matchAt?_eq_none_iff {r : Regex} (h : isExact = true ∨ r.refersBack = false) (i : Nat) :
    r.matchAt? s isExact i = none ↔ ∀ g, ¬ Matches s r ⟨i, []⟩ g := by
  obtain ⟨hSound, hComplete⟩ := represents_ends s h ⟨i, []⟩
  rw [matchAt?, Option.map_eq_none_iff, List.head?_eq_none_iff]
  constructor
  · intro hNone g hMatch
    obtain ⟨g', hMem, -⟩ := hComplete g hMatch
    rw [hNone] at hMem
    cases hMem
  · intro hNone
    exact List.eq_nil_iff_forall_not_mem.mpr fun g hg => hNone g (hSound g hg)

/-- What is found at a place is a match, and none is longer. -/
theorem of_matchAt? {r : Regex} (h : isExact = true ∨ r.refersBack = false) {i : Nat} {m : Match}
    (hFound : r.matchAt? s isExact i = some m) :
    m.start = i ∧ Matches s r ⟨i, []⟩ ⟨m.stop, m.groups⟩ ∧
      ∀ g, Matches s r ⟨i, []⟩ g → g.stop ≤ m.stop := by
  obtain ⟨hSound, hComplete⟩ := represents_ends s h ⟨i, []⟩
  have hDescending : Descending (ends s isExact r ⟨i, []⟩) := descending_ends s r ⟨i, []⟩
  obtain ⟨f, hFirst, rfl⟩ := Option.map_eq_some_iff.mp hFound
  obtain ⟨rest, hEnds⟩ := List.head?_eq_some_iff.mp hFirst
  rw [hEnds] at hSound hComplete hDescending
  refine ⟨rfl, hSound f List.mem_cons_self, ?_⟩
  intro g hMatch
  obtain ⟨g', hMem, hAlike⟩ := hComplete g hMatch
  rw [stop_of_alike hAlike]
  rcases List.mem_cons.mp hMem with rfl | hMem
  · exact le_rfl
  · exact (List.pairwise_cons.mp hDescending).1 g' hMem

theorem searchFrom_eq_none_iff {r : Regex} (fuel start : Nat) :
    searchFrom r s isExact fuel start = none ↔
      ∀ i, start ≤ i → i < start + fuel → r.matchAt? s isExact i = none := by
  induction fuel generalizing start with
  | zero => exact ⟨fun _ i _ _ => by omega, fun _ => rfl⟩
  | succ fuel ih =>
    rw [searchFrom, Option.or_eq_none_iff, ih]
    constructor
    · rintro ⟨hFirst, hRest⟩ i hStart hEnd
      rcases Nat.eq_or_lt_of_le hStart with rfl | hLater
      · exact hFirst
      · exact hRest i hLater (by omega)
    · intro h
      exact ⟨h start le_rfl (by omega), fun i hStart hEnd => h i (by omega) (by omega)⟩

/-- What is found is found at the first place at which there is anything. -/
theorem of_searchFrom {r : Regex} {fuel start : Nat} {m : Match}
    (h : searchFrom r s isExact fuel start = some m) :
    ∃ i, start ≤ i ∧ i < start + fuel ∧ r.matchAt? s isExact i = some m ∧
      ∀ j, start ≤ j → j < i → r.matchAt? s isExact j = none := by
  induction fuel generalizing start with
  | zero => cases h
  | succ fuel ih =>
    rw [searchFrom, Option.or_eq_some_iff] at h
    rcases h with hFirst | ⟨hNone, hRest⟩
    · exact ⟨start, le_rfl, by omega, hFirst, fun j _ _ => by omega⟩
    · obtain ⟨i, hStart, hEnd, hFound, hBefore⟩ := ih hRest
      refine ⟨i, by omega, by omega, hFound, fun j hj hji => ?_⟩
      rcases Nat.eq_or_lt_of_le hj with rfl | hLater
      · exact hNone
      · exact hBefore j hLater hji

theorem exact_or_not (r : Regex) : r.refersBack = true ∨ r.refersBack = false := by
  cases r.refersBack <;> simp

/-- Nothing is found exactly if nothing matches from the place on. -/
theorem search_eq_none_iff {r : Regex} {start : Nat} :
    search r s start = none ↔
      ∀ i, start ≤ i → i ≤ s.text.size → ∀ g, ¬ Matches s r ⟨i, []⟩ g := by
  rw [search, searchFrom_eq_none_iff]
  simp only [matchAt?_eq_none_iff r.exact_or_not]
  exact forall_congr' fun i => forall_congr' fun hStart =>
    ⟨fun h hEnd => h (by omega), fun h hEnd => h (by omega)⟩

/-- What is found is a match from the place on. Nothing before it matches, and nothing longer
matches where it begins. -/
theorem search_eq_some {r : Regex} {start : Nat} {m : Match} (h : search r s start = some m) :
    (start ≤ m.start ∧ m.start ≤ s.text.size) ∧ Matches s r ⟨m.start, []⟩ ⟨m.stop, m.groups⟩ ∧
      (∀ i g, start ≤ i → i < m.start → ¬ Matches s r ⟨i, []⟩ g) ∧
      ∀ g, Matches s r ⟨m.start, []⟩ g → g.stop ≤ m.stop := by
  obtain ⟨i, hStart, hEnd, hFound, hBefore⟩ := of_searchFrom h
  obtain ⟨rfl, hMatch, hLongest⟩ := of_matchAt? r.exact_or_not hFound
  refine ⟨⟨hStart, by omega⟩, hMatch, ?_, hLongest⟩
  intro i g hi hBeforeMatch
  exact (matchAt?_eq_none_iff r.exact_or_not i).mp (hBefore i hi hBeforeMatch) g

end BindingCoverage.Host.Regex
