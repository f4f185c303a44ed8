import Mathlib
import BindingCoverage.Host.Shell.Start

/-!
# Variables of a shell

* `binding?_withVariable`, `binding?_withoutVariable`: what a variable is after a change.
* `nodup_initialVariables`, `Distinct.withVariable`, `Distinct.popFrames`: no variable is there
  twice, from the start of a shell on.
* `mem_environment_iff`: a program that is started is given the exported variables with a value.
* `binding?_restoreFrame`: what was local to a function is what it was before the function began.
-/

namespace BindingCoverage.Host.Shell

namespace State

variable {s : State} {name other : String} {v : Variable}

/-- No variable is there twice. -/
def Distinct (s : State) : Prop := (s.vars.map (·.1)).Nodup

theorem binding?_eq_none_iff : s.binding? name = none ↔ ∀ e ∈ s.vars, e.1 ≠ name := by
  simp [binding?]

theorem vars_withVariable_of_none (h : s.binding? name = none) (v : Variable) :
    (s.withVariable name v).vars = s.vars ++ [(name, v)] := by
  have hNew : s.vars.any (·.1 == name) = false := by
    simpa using binding?_eq_none_iff.mp h
  rw [withVariable, hNew]
  rfl

theorem vars_withVariable_of_some {old : Variable} (h : s.binding? name = some old)
    (v : Variable) :
    (s.withVariable name v).vars = s.vars.map fun e => if e.1 = name then (e.1, v) else e := by
  have hThere : s.vars.any (·.1 == name) = true := by
    obtain ⟨e, hFound, -⟩ := Option.map_eq_some_iff.mp h
    have hName : (e.1 == name) = true := by simpa using List.find?_some hFound
    exact List.any_eq_true.mpr ⟨e, List.mem_of_find?_eq_some hFound, hName⟩
  rw [withVariable, hThere]
  rfl

/-- A change of one variable is a change of no other one. -/
theorem binding?_withVariable (s : State) (name other : String) (v : Variable) :
    (s.withVariable name v).binding? other =
      if other = name then some v else s.binding? other := by
  cases h : s.binding? name with
  | none =>
    have hNone := binding?_eq_none_iff.mp h
    rw [binding?, vars_withVariable_of_none h, List.find?_append]
    split_ifs with hSame
    · subst hSame
      have hBefore : s.vars.find? (·.1 == other) = none := by simpa using hNone
      simp [hBefore]
    · simp [binding?, Ne.symm hSame]
  | some old =>
    -- the names stay what they are, so the same entry is found, with the new value or the old one
    have hNames : (fun e : String × Variable => e.1 == other) ∘
        (fun e => if e.1 = name then (e.1, v) else e) = (·.1 == other) := by
      funext e
      dsimp only [Function.comp_apply]
      split_ifs <;> rfl
    rw [binding?, vars_withVariable_of_some h, List.find?_map, hNames]
    split_ifs with hSame
    · subst hSame
      obtain ⟨e, hFound, -⟩ := Option.map_eq_some_iff.mp h
      have hName : e.1 = other := by simpa using List.find?_some hFound
      simp [hFound, hName]
    · cases hFound : s.vars.find? (·.1 == other) with
      | none => simp [binding?, hFound]
      | some e =>
        have hName : e.1 = other := by simpa using List.find?_some hFound
        have hKept : e.1 ≠ name := hName ▸ hSame
        simp [binding?, hFound, hKept]

theorem binding?_withoutVariable (s : State) (name other : String) :
    (s.withoutVariable name).binding? other = if other = name then none else s.binding? other := by
  simp only [binding?, withoutVariable, List.find?_filter]
  split_ifs with hSame
  · subst hSame
    simp
  · congr 2
    funext e
    by_cases hOther : e.1 = other
    · simp [hOther, hSame]
    · simp [hOther]

theorem Distinct.withVariable (h : s.Distinct) (name : String) (v : Variable) :
    (s.withVariable name v).Distinct := by
  unfold Distinct at h ⊢
  cases hBinding : s.binding? name with
  | none =>
    rw [vars_withVariable_of_none hBinding, List.map_append, List.nodup_append]
    refine ⟨h, List.nodup_singleton _, ?_⟩
    rintro _ hMem _ hName rfl
    obtain ⟨e, he, hEq⟩ := List.mem_map.mp hMem
    exact binding?_eq_none_iff.mp hBinding e he (hEq.trans (List.mem_singleton.mp hName))
  | some old =>
    have hNames : ∀ e : String × Variable, (if e.1 = name then (e.1, v) else e).1 = e.1 := by
      intro e
      split_ifs <;> rfl
    rw [vars_withVariable_of_some hBinding, List.map_map]
    simpa only [Function.comp_def, hNames] using h

theorem Distinct.withoutVariable (h : s.Distinct) (name : String) :
    (s.withoutVariable name).Distinct :=
  h.sublist (List.filter_sublist.map _)

theorem binding?_eq_some_iff (h : s.Distinct) :
    s.binding? name = some v ↔ (name, v) ∈ s.vars := by
  constructor
  · intro hBinding
    obtain ⟨e, hFound, rfl⟩ := Option.map_eq_some_iff.mp hBinding
    obtain rfl : e.1 = name := by simpa using List.find?_some hFound
    exact List.mem_of_find?_eq_some hFound
  · intro hMem
    obtain ⟨e, hFound⟩ : ∃ e, s.vars.find? (·.1 == name) = some e := by
      rw [← Option.isSome_iff_exists, List.find?_isSome]
      exact ⟨_, hMem, by simp⟩
    have hName : e.1 = name := by simpa using List.find?_some hFound
    have hSame : e = (name, v) :=
      List.inj_on_of_nodup_map h (List.mem_of_find?_eq_some hFound) hMem hName
    rw [binding?, hFound, hSame]
    rfl

/-- A program that is started is given the variables that are exported and have a value. -/
theorem mem_environment_iff (h : s.Distinct) (text : String) :
    (name, text) ∈ s.environment ↔
      ∃ v, s.binding? name = some v ∧ v.isExported ∧ v.value = some text := by
  simp only [environment, List.mem_filterMap, binding?_eq_some_iff h]
  constructor
  · rintro ⟨⟨n, v⟩, hMem, hGiven⟩
    dsimp only at hGiven
    split_ifs at hGiven with hExported
    obtain ⟨text', hValue, hPair⟩ := Option.map_eq_some_iff.mp hGiven
    cases hPair
    exact ⟨v, hMem, hExported, hValue⟩
  · rintro ⟨v, hMem, hExported, hValue⟩
    exact ⟨(name, v), hMem, by simp [hExported, hValue]⟩

theorem Distinct.restoreFrame (h : s.Distinct) (frame : List (String × Option Variable)) :
    (Script.restoreFrame frame s).Distinct := by
  induction frame generalizing s with
  | nil => exact h
  | cons e rest ih =>
    obtain ⟨other, v⟩ := e
    rw [Script.restoreFrame, List.foldl_cons]
    cases v with
    | some v => exact ih (h.withVariable other v)
    | none => exact ih (h.withoutVariable other)

theorem Distinct.popFrames (h : s.Distinct) (depth : Nat) : (Script.popFrames depth s).Distinct :=
  Distinct.restoreFrame (s := { s with frames := s.frames.drop (s.frames.length - depth) }) h _

end State

theorem name_ne_of_mem_filter {α β : Type} {taken : List (String × α)} {list : List (String × β)}
    {a b : String} (ha : a ∈ taken.map (·.1))
    (hb : b ∈ (list.filter fun e => !taken.any (·.1 == e.1)).map (·.1)) : a ≠ b := by
  obtain ⟨f, hf, rfl⟩ := List.mem_map.mp ha
  obtain ⟨e, he, rfl⟩ := List.mem_map.mp hb
  have hNone := (List.mem_filter.mp he).2
  simp only [Bool.not_eq_true', List.any_eq_false, beq_iff_eq] at hNone
  exact hNone f hf

/-- The shell takes each of the variables that it is given once, and its own ones come on top. -/
theorem nodup_initialVariables {environment : Environment}
    (hGiven : (environment.map (·.1)).Nodup) (identity : Identity) (working : String) :
    ((initialVariables identity working environment).map (·.1)).Nodup := by
  unfold initialVariables
  extract_lets given own forced defaults others imported
  have hForced : forced.map (·.1) = ["IFS", "OPTIND", "PPID", "PWD"] := rfl
  have hDefaults : defaults.map (·.1) = ["PATH", "PS1", "PS2", "PS4"] := rfl
  have hImported : imported.map (·.1) = others.map (·.1) := by
    simp only [imported, List.map_map, Function.comp_def]
  have hOthers : (others.map (·.1)).Nodup :=
    hGiven.sublist ((List.filter_sublist.trans List.filter_sublist).map _)
  have hBesideForced : ∀ a ∈ forced.map (·.1), ∀ b ∈ others.map (·.1), a ≠ b :=
    fun _ ha _ hb => name_ne_of_mem_filter ha hb
  have hKept : (defaults.filter fun e => !imported.any (·.1 == e.1)).Sublist defaults :=
    List.filter_sublist
  rw [List.map_append, List.map_append, List.nodup_append, List.nodup_append, hImported]
  refine ⟨⟨by rw [hForced]; decide, hOthers, hBesideForced⟩, ?_, ?_⟩
  · exact List.Nodup.sublist (hKept.map _) (by rw [hDefaults]; decide)
  · intro a ha b hb hSame
    rcases List.mem_append.mp ha with hOwn | hTaken
    · -- the names with a default are other ones than those that are always set
      have hDefault : b ∈ defaults.map (·.1) := (hKept.map _).subset hb
      rw [hForced] at hOwn
      rw [hDefaults, ← hSame] at hDefault
      revert hOwn hDefault
      simp only [List.mem_cons, List.not_mem_nil, or_false]
      rintro (rfl | rfl | rfl | rfl) <;> decide
    · rw [← hImported] at hTaken
      exact name_ne_of_mem_filter hTaken hb hSame

namespace Script

/-- What a frame says of a variable counts, and of several times the last one. -/
theorem binding?_restoreFrame (frame : List (String × Option Variable)) (s : State)
    (name : String) :
    (restoreFrame frame s).binding? name =
      ((frame.reverse.find? (·.1 == name)).map (·.2)).getD (s.binding? name) := by
  induction frame generalizing s with
  | nil => rfl
  | cons e rest ih =>
    obtain ⟨other, v⟩ := e
    have hStep : (restoreFrame ((other, v) :: rest) s).binding? name =
        ((rest.reverse.find? (·.1 == name)).map (·.2)).getD
          (if name = other then v else s.binding? name) := by
      rw [restoreFrame, List.foldl_cons]
      cases v with
      | some v => rw [← State.binding?_withVariable]; exact ih _
      | none => rw [← State.binding?_withoutVariable]; exact ih _
    rw [hStep, List.reverse_cons, List.find?_append]
    cases rest.reverse.find? (·.1 == name) with
    | some found => rfl
    | none =>
      by_cases hSame : name = other
      · simp [hSame]
      · simp [hSame, Ne.symm hSame]

/-- When frames are left, what is in none of them stays, and what was made local is what it was
before the outermost of them. -/
theorem binding?_popFrames (depth : Nat) (s : State) (name : String) :
    (popFrames depth s).binding? name =
      (((s.frames.take (s.frames.length - depth)).flatten.reverse.find? (·.1 == name)).map
        (·.2)).getD (s.binding? name) :=
  binding?_restoreFrame _ _ _

end Script

end BindingCoverage.Host.Shell
