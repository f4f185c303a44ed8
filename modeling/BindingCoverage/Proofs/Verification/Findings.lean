import Mathlib
import BindingCoverage.Proofs.Activity
import BindingCoverage.Proofs.Coverage.Registry
import BindingCoverage.Verification.Basic

/-!
# What is found, and what is entered

A `Finding` is how the search for the declarations of a library ended. All that a registration does
to the registry is to enter its finding, and what stands there after several findings is the latest
success of each library (`expected?_foldl_enter`).

* `declarations_run`, `register_run`: one search and one registration, from beginning to end.
* `enter_comm`: findings for different libraries can be entered in any order.
* `numbered`: services for samples, with which a search can end in three ways.
-/

namespace BindingCoverage.Verification

structure Finding where
  /-- Nothing if what was asked for is no library. -/
  library : Option Library
  found : Answer Error DeclarationSet

namespace Finding

/-- The declarations of a library, if they are what was found. -/
def success? (l : Library) (f : Finding) : Option DeclarationSet :=
  match f.found with
  | .given s => if f.library = some l then some s else none
  | _ => none

theorem success?_eq_some {l : Library} {f : Finding} {s : DeclarationSet} :
    f.success? l = some s ↔ f.library = some l ∧ f.found = .given s := by
  unfold success?
  split
  · next s' hFound => simp [hFound]
  · next hNone =>
    refine ⟨nofun, ?_⟩
    rintro ⟨-, hFound⟩
    exact absurd hFound (hNone s)

/-- The declarations of a library that were found last. -/
def latest (l : Library) (findings : List Finding) : Option DeclarationSet :=
  (findings.filterMap (success? l)).getLast?

theorem latest_eq_none {l : Library} {findings : List Finding} :
    latest l findings = none ↔ ∀ f ∈ findings, f.success? l = none := by
  unfold latest
  rw [List.getLast?_eq_none_iff, List.filterMap_eq_nil_iff]

theorem latest_cons (l : Library) (f : Finding) (rest : List Finding) :
    latest l (f :: rest) = (latest l rest).or (f.success? l) := by
  unfold latest
  rw [← List.singleton_append, List.filterMap_append, List.getLast?_append]
  cases hFound : f.success? l <;> simp [hFound]

theorem latest_eq_some {l : Library} {findings : List Finding} {s : DeclarationSet} :
    latest l findings = some s ↔
      ∃ (i : Nat) (f : Finding), findings[i]? = some f ∧ f.success? l = some s ∧
        ∀ (j : Nat) (f' : Finding), i < j → findings[j]? = some f' → f'.success? l = none := by
  induction findings with
  | nil => simp [latest]
  | cons f rest ih =>
    rw [latest_cons, Option.or_eq_some_iff, ih]
    constructor
    · rintro (⟨i, g, hg, hSuccess, hLater⟩ | ⟨hNone, hSuccess⟩)
      · refine ⟨i + 1, g, hg, hSuccess, ?_⟩
        rintro (_ | j) f' hj hf'
        · omega
        · exact hLater j f' (by omega) hf'
      · refine ⟨0, f, rfl, hSuccess, ?_⟩
        rintro (_ | j) f' hj hf'
        · omega
        · exact latest_eq_none.mp hNone f' (List.mem_of_getElem? hf')
    · rintro ⟨_ | i, g, hg, hSuccess, hLater⟩
      · obtain rfl := Option.some.inj hg
        refine .inr ⟨latest_eq_none.mpr ?_, hSuccess⟩
        intro f' hf'
        obtain ⟨j, hj⟩ := List.mem_iff_getElem?.mp hf'
        exact hLater (j + 1) f' (by omega) hj
      · exact .inl ⟨i, g, hg, hSuccess, fun j f' hj hf' => hLater (j + 1) f' (by omega) hf'⟩

theorem exists_of_latest {l : Library} {findings : List Finding} {s : DeclarationSet}
    (h : latest l findings = some s) : ∃ f ∈ findings, f.success? l = some s :=
  List.mem_filterMap.mp (List.mem_of_getLast? h)

/-- The registry after a finding: a success replaces what stands there for its library. -/
def enter (r : Registry) (f : Finding) : Registry :=
  match f.library, f.found with
  | some l, .given s => r.put l s
  | _, _ => r

theorem enter_of_not_given {f : Finding} (h : ∀ s, f.found ≠ .given s) (r : Registry) :
    enter r f = r := by
  unfold enter
  split
  · next hFound => exact absurd hFound (h _)
  · rfl

theorem expected?_enter (r : Registry) (f : Finding) (l : Library) :
    (enter r f).expected? l.symbolPrefix =
      (f.success? l).or (r.expected? l.symbolPrefix) := by
  unfold enter success?
  split
  · next l' s hLibrary hFound =>
    simp only [hFound, hLibrary]
    by_cases hSame : l' = l
    · subst hSame
      rw [Registry.expected?_put_self, if_pos rfl, Option.some_or]
    · have hPrefix : l.symbolPrefix ≠ l'.symbolPrefix := fun h =>
        hSame (Library.symbolPrefix_inj h).symm
      rw [Registry.expected?_put_of_ne hPrefix, if_neg (by simpa using hSame), Option.none_or]
  · next hNone =>
    split
    · next s hFound =>
      rw [if_neg fun hLibrary => hNone l s hLibrary hFound, Option.none_or]
    · rw [Option.none_or]

theorem expected?_enter_of_ne {text : String} (h : ∀ l : Library, text ≠ l.symbolPrefix)
    (r : Registry) (f : Finding) : (enter r f).expected? text = r.expected? text := by
  unfold enter
  split
  · exact Registry.expected?_put_of_ne (h _) r _
  · rfl

/-- After any findings the registry has the latest declarations of every library. -/
theorem expected?_foldl_enter (findings : List Finding) (r : Registry) (l : Library) :
    (findings.foldl enter r).expected? l.symbolPrefix =
      (latest l findings).or (r.expected? l.symbolPrefix) := by
  induction findings generalizing r with
  | nil => rfl
  | cons f rest ih => rw [List.foldl_cons, ih, expected?_enter, latest_cons, Option.or_assoc]

theorem expected?_foldl_enter_of_ne {text : String} (h : ∀ l : Library, text ≠ l.symbolPrefix)
    (findings : List Finding) (r : Registry) :
    (findings.foldl enter r).expected? text = r.expected? text := by
  induction findings generalizing r with
  | nil => rfl
  | cons f rest ih => rw [List.foldl_cons, ih, expected?_enter_of_ne h]

theorem enter_comm {f f' : Finding} (h : f.library ≠ f'.library) (r : Registry) :
    enter (enter r f) f' = enter (enter r f') f := by
  obtain ⟨library, found⟩ := f
  obtain ⟨library', found'⟩ := f'
  cases library <;> cases library' <;> cases found <;> cases found' <;> try rfl
  exact Registry.put_comm (fun hEq => h (congrArg some hEq)) r _ _

end Finding

section

variable {σ : Type} (services : Services σ) (settings : Settings) (l : Library)

/-- The whole search, if nobody else acts. -/
theorem declarations_run (x : σ) :
    (declarations services settings l).run x =
      match (services.store l).run x with
      | (.failed e, y) => (.failed (.system e), y)
      | (.brokenOff, y) => (.brokenOff, y)
      | (.given file, y) =>
        let replied := (services.extract (.extract settings file.text)).run y
        (decodeReply replied.1, ((services.discard file).run replied.2).2) := by
  unfold declarations
  rw [Activity.run_bind]
  rcases hStored : (services.store l).run x with ⟨file | e | _, y⟩
  · simp only [Activity.run_bind, Activity.run_pure]
  · rfl
  · rfl

theorem record_run (s : DeclarationSet) (r : Registry) :
    record l s r = (.given s, r.put l s) := by
  simp only [record, Registry.register_library]

theorem registered_run (w : World σ) :
    (registered services settings l).run w =
      let searched := (declarations services settings l).run w.outside
      (searched.1, ⟨Finding.enter w.registry ⟨some l, searched.1⟩, searched.2⟩) := by
  unfold registered
  rw [Activity.run_bind, Activity.run_on]
  rcases hFound : (declarations services settings l).run w.outside with ⟨s | e | _, x⟩
  · simp only [World.outsidePart, World.registryPart, Part.lift, hFound, Activity.run_atomic,
      record_run]
    rfl
  · simp only [World.outsidePart, hFound, Activity.run_pure]
    rfl
  · simp only [World.outsidePart, hFound, Activity.run_pure]
    rfl

theorem register_run (w : World σ) :
    (register services settings l).run w =
      let searched := (declarations services settings l).run w.outside
      (searched.1.outcome, ⟨Finding.enter w.registry ⟨some l, searched.1⟩, searched.2⟩) := by
  unfold register
  rw [Activity.run_map, registered_run]

end

/-- Scratch files are numbered, and the extractor finds one function, which has the number of the
file in its name; with file 2 it breaks off, with file 3 it is cancelled. -/
def numbered : Services Nat where
  store _ := .atomic fun n => (.given ⟨toString n, []⟩, n + 1)
  extract i := .atomic fun n =>
    match i.args.getLast? with
    | some "2" => (.brokenOff, n)
    | some "3" => (.failed (.cancelled i.program ""), n)
    | some text => (.given (Utf8.encode ("<a><Function name=\"f" ++ text ++ "\"/></a>")), n)
    | none => (.brokenOff, n)
  discard _ := .done ()

end BindingCoverage.Verification
