import BindingCoverage.Proofs.Verification.Findings
import BindingCoverage.Verification.Batch

/-!
# Registrations at once

The pipelines of a batch leave the registry alone until they enter what they found, with which they
end (`Pending`). So the registry is at every time the one before the batch with the findings of the
pipelines that have ended entered in the order of their ends (`Pipelines.foldl_advance`).

* `Ending`: where the pipeline of a library may stop, and with what.
* `expected?_registerAll`: what the registry has for a library after a batch.
* `foldl_enter_eq`, `registry_eq_of_outcomes`: for different libraries the order in which the
  pipelines end does not matter.
* `registerAll_every_order`: results, and registry, of a batch, in whatever order the pipelines take
  their steps.
-/

namespace BindingCoverage.Verification

/-! ## A pipeline -/

/-- The activity leaves the registry alone, but may end in entering the declarations of the library,
which it then gives; if it has ended, it has not given any. -/
def Pending {σ : Type} (l : Library) : Activity (World σ) (Answer Error DeclarationSet) → Prop
  | .done (.given _) => False
  | .done _ => True
  | .step act next => ∀ w,
    (act w).2.registry = w.registry ∧ Pending l (next (act w).1) ∨
      ∃ s, next (act w).1 = .done (.given s) ∧ (act w).2.registry = w.registry.put l s

variable {σ : Type} (services : Services σ) (settings : Settings)

theorem pending_registered (l : Library) : Pending l (registered services settings l) := by
  unfold registered
  induction declarations services settings l with
  | done found =>
    cases found with
    | given s =>
      intro w
      refine .inr ⟨s, ?_, ?_⟩
      · simp only [Part.lift, record_run]
      · simp only [Part.lift, record_run, World.registryPart]
    | failed e => trivial
    | brokenOff => trivial
  | step act next ih =>
    intro w
    exact .inl ⟨rfl, ih _⟩

/-- Where a pipeline for the library may stop, and with what. -/
inductive Ending (l : Library) : Answer Error DeclarationSet → Prop where
  | notStored {e : Scratch.Error} (stored : (services.store l).MayEnd (.failed e)) :
      Ending l (.failed (.system e))
  | storeBrokeOff (stored : (services.store l).MayEnd .brokenOff) : Ending l .brokenOff
  | notExtracted {file : Scratch.File} {e : Extractor.Error}
      (stored : (services.store l).MayEnd (.given file))
      (replied : (services.extract (.extract settings file.text)).MayEnd (.failed e)) :
      Ending l (.failed (.extractor e))
  | extractorBrokeOff {file : Scratch.File} (stored : (services.store l).MayEnd (.given file))
      (replied : (services.extract (.extract settings file.text)).MayEnd .brokenOff) :
      Ending l .brokenOff
  | notDecoded {file : Scratch.File} {octets : List UInt8} {e : Dump.Error}
      (stored : (services.store l).MayEnd (.given file))
      (replied : (services.extract (.extract settings file.text)).MayEnd (.given octets))
      (decoded : Dump.decodeOctets octets = .error e) : Ending l (.failed (.dump e))
  | decoded {file : Scratch.File} {octets : List UInt8} {s : DeclarationSet}
      (stored : (services.store l).MayEnd (.given file))
      (replied : (services.extract (.extract settings file.text)).MayEnd (.given octets))
      (decoded : Dump.decodeOctets octets = .ok s) : Ending l (.given s)

theorem ending_of_declarations {l : Library} {a : Answer Error DeclarationSet}
    (h : (declarations services settings l).MayEnd a) : Ending services settings l a := by
  obtain ⟨stored, hStored, h⟩ := Activity.mayEnd_bind.mp h
  cases stored with
  | failed e =>
    rw [Activity.mayEnd_pure.mp h]
    exact .notStored hStored
  | brokenOff =>
    rw [Activity.mayEnd_pure.mp h]
    exact .storeBrokeOff hStored
  | given file =>
    obtain ⟨reply, hReply, h⟩ := Activity.mayEnd_bind.mp h
    -- whatever the removal of the file does, the answer is about the reply
    obtain ⟨-, -, h⟩ := Activity.mayEnd_bind.mp h
    rw [Activity.mayEnd_pure.mp h]
    cases reply with
    | failed e => exact .notExtracted hStored hReply
    | brokenOff => exact .extractorBrokeOff hStored hReply
    | given octets =>
      simp only [decodeReply]
      split
      · next s hDecoded => exact .decoded hStored hReply hDecoded
      · next e hDecoded => exact .notDecoded hStored hReply hDecoded

theorem ending_of_registered {l : Library} {a : Answer Error DeclarationSet}
    (h : (registered services settings l).MayEnd a) : Ending services settings l a := by
  obtain ⟨found, hFound, h⟩ := Activity.mayEnd_bind.mp h
  have hEnding := ending_of_declarations services settings (Activity.mayEnd_on hFound)
  cases found with
  | failed e => exact Activity.mayEnd_pure.mp h ▸ hEnding
  | brokenOff => exact Activity.mayEnd_pure.mp h ▸ hEnding
  | given s =>
    -- to enter a set cannot fail
    cases h with
    | step w rest =>
      rw [Part.lift, record_run] at rest
      cases rest
      exact hEnding

/-! ## Pipelines that are on their way -/

/-- An ending of a pipeline, as a finding for its library. -/
def findingAt (libraries : List Library) (e : Nat × Answer Error DeclarationSet) : Finding :=
  ⟨libraries[e.1]?, e.2⟩

/-- The pipelines that have not ended are pending, each for its library. -/
def Pipelines (libraries : List Library)
    (xs : List (Activity (World σ) (Answer Error DeclarationSet))) : Prop :=
  ∀ (i : Nat) (x : Activity (World σ) (Answer Error DeclarationSet)), xs[i]? = some x →
    (∃ a, x = .done a) ∨ ∃ l, libraries[i]? = some l ∧ Pending l x

namespace Pipelines

variable {libraries : List Library}

theorem registered (libraries : List Library) :
    Pipelines libraries (libraries.map (registered services settings)) := by
  intro i x hx
  rw [List.getElem?_map] at hx
  obtain ⟨l, hl, rfl⟩ := Option.map_eq_some_iff.mp hx
  exact .inr ⟨l, hl, pending_registered services settings l⟩

/-- One step enters what the pipeline found that ends with it, if one does, and nothing else. -/
theorem advance {xs : List (Activity (World σ) (Answer Error DeclarationSet))} {w : World σ}
    (h : Pipelines libraries xs) (i : Nat) :
    Pipelines libraries (Activity.advance (xs, w) i).1 ∧
      (Activity.advance (xs, w) i).2.registry =
        ((Activity.ending (xs, w) i).toList.map (findingAt libraries)).foldl Finding.enter
          w.registry := by
  obtain ⟨hSame, hNone⟩ | ⟨_, act, next, hStep, hNext, hEnding⟩ := Activity.advance_cases (xs, w) i
  · rw [hSame, hNone]
    exact ⟨h, rfl⟩
  obtain ⟨l, hLibrary, hPending⟩ := (h i _ hStep).resolve_left nofun
  rw [hNext, hEnding]
  -- what the step leaves of the pipeline is all that is new
  have hKept : (∃ a, next (act w).1 = .done a) ∨ Pending l (next (act w).1) →
      Pipelines libraries (xs.set i (next (act w).1)) := fun hNew =>
    Activity.forall_of_set (fun j x _ hx => h j x hx)
      (hNew.imp_right fun hNew => ⟨l, hLibrary, hNew⟩)
  rcases hPending w with ⟨hRegistry, hPending⟩ | ⟨s, hDone, hRegistry⟩
  · refine ⟨hKept (.inr hPending), hRegistry.trans ?_⟩
    cases hx : next (act w).1 with
    | step act' next' => rfl
    | done a =>
      rw [hx] at hPending
      refine (Finding.enter_of_not_given (f := findingAt libraries (i, a)) ?_ w.registry).symm
      rintro s rfl
      exact hPending
  · refine ⟨hKept (.inl ⟨_, hDone⟩), hRegistry.trans ?_⟩
    rw [hDone]
    simp only [Activity.result?, Option.map_some, Option.toList_some, List.map_cons, List.map_nil,
      List.foldl_cons, List.foldl_nil, findingAt, hLibrary, Finding.enter]

theorem foldl_advance (order : List Nat)
    {xs : List (Activity (World σ) (Answer Error DeclarationSet))} {w : World σ}
    (h : Pipelines libraries xs) :
    (order.foldl Activity.advance (xs, w)).2.registry =
      ((Activity.endings order (xs, w)).map (findingAt libraries)).foldl Finding.enter
        w.registry := by
  induction order generalizing xs w with
  | nil => rfl
  | cons i order ih =>
    obtain ⟨hNext, hRegistry⟩ := h.advance (w := w) i
    rw [List.foldl_cons, ih hNext, hRegistry, Activity.endings, List.map_append, List.foldl_append]

end Pipelines

/-! ## Whole batches -/

/-- How the pipelines of a batch end, in the order of the libraries. -/
def outcomes (schedule : List Nat) (libraries : List Library) (w : World σ) :
    List (Answer Error DeclarationSet) :=
  (Activity.interleave schedule (libraries.map (registered services settings)) w).1

/-- The ends of the pipelines of a batch, in their order. -/
def ends (schedule : List Nat) (libraries : List Library) (w : World σ) :
    List (Nat × Answer Error DeclarationSet) :=
  Activity.conclusions schedule (libraries.map (registered services settings)) w

section

variable {services settings} {schedule : List Nat} {libraries : List Library} {w : World σ}

theorem outcomes_of_mem_ends {e : Nat × Answer Error DeclarationSet}
    (h : e ∈ ends services settings schedule libraries w) :
    (outcomes services settings schedule libraries w)[e.1]? = some e.2 :=
  Activity.getElem?_interleave_of_mem h

theorem mem_ends_of_given {i : Nat} {s : DeclarationSet}
    (h : (outcomes services settings schedule libraries w)[i]? = some (.given s)) :
    (i, .given s) ∈ ends services settings schedule libraries w := by
  refine Activity.mem_conclusions h ?_
  intro hDone
  rw [List.getElem?_map] at hDone
  obtain ⟨l, -, hDone⟩ := Option.map_eq_some_iff.mp hDone
  have hPending := pending_registered services settings l
  rw [hDone] at hPending
  exact hPending

end

theorem registerAll_eq (schedule : List Nat) (libraries : List Library) (w : World σ) :
    registerAll services settings schedule libraries w =
      (libraries.zipWith (fun l a => (l, joined a.outcome))
          (outcomes services settings schedule libraries w),
        (Activity.interleave schedule (libraries.map (registered services settings)) w).2) := by
  have hPipelines : libraries.map (register services settings) =
      (libraries.map (registered services settings)).map (Answer.outcome <$> ·) := by
    rw [List.map_map]
    rfl
  simp only [registerAll, hPipelines, Activity.interleave_map, List.zipWith_map_right, outcomes]

theorem registry_registerAll (schedule : List Nat) (libraries : List Library) (w : World σ) :
    (registerAll services settings schedule libraries w).2.registry =
      ((ends services settings schedule libraries w).map (findingAt libraries)).foldl Finding.enter
        w.registry := by
  have hRun := (Pipelines.registered services settings libraries).foldl_advance
    (Activity.completion schedule (libraries.map (registered services settings)) w) (w := w)
  rw [Activity.interleave_eq] at hRun
  rw [registerAll_eq]
  exact hRun

def Answer.isGiven {ε α : Type} : Answer ε α → Bool
  | .given _ => true
  | _ => false

theorem Answer.isGiven_iff {ε α : Type} {a : Answer ε α} : a.isGiven ↔ ∃ s, a = .given s := by
  cases a <;> simp [isGiven]

/-- For different libraries, ends with the same successes lead to the same registry. -/
theorem foldl_enter_eq {libraries : List Library} (hLibraries : libraries.Nodup)
    {es es' : List (Nat × Answer Error DeclarationSet)} (hInside : ∀ e ∈ es, e.1 < libraries.length)
    (hOnce : (es.map (·.1)).Nodup) (hOnce' : (es'.map (·.1)).Nodup)
    (hSame : ∀ i s, (i, .given s) ∈ es ↔ (i, .given s) ∈ es') (r : Registry) :
    (es.map (findingAt libraries)).foldl Finding.enter r =
      (es'.map (findingAt libraries)).foldl Finding.enter r := by
  -- only successes count
  have hSuccesses : ∀ es : List (Nat × Answer Error DeclarationSet),
      (es.map (findingAt libraries)).foldl Finding.enter r =
        (es.filter (·.2.isGiven)).foldl (fun r e => Finding.enter r (findingAt libraries e)) r := by
    intro es
    rw [List.foldl_map, List.foldl_filter]
    congr 1
    funext r e
    split_ifs with hGiven
    · rfl
    · refine Finding.enter_of_not_given ?_ r
      intro s hFound
      exact hGiven (Answer.isGiven_iff.mpr ⟨s, hFound⟩)
  rw [hSuccesses, hSuccesses]
  have hPerm : (es.filter (·.2.isGiven)).Perm (es'.filter (·.2.isGiven)) := by
    rw [List.perm_ext_iff_of_nodup (hOnce.of_map.filter _) (hOnce'.of_map.filter _)]
    rintro ⟨i, a⟩
    simp only [List.mem_filter]
    refine and_congr_left fun hGiven => ?_
    obtain ⟨s, rfl⟩ := Answer.isGiven_iff.mp hGiven
    exact hSame i s
  refine hPerm.foldl_eq' ?_ r
  intro e he e' he' r
  by_cases hEq : e.1 = e'.1
  · have hEnd : e = e' := List.inj_on_of_nodup_map hOnce (List.mem_of_mem_filter he)
      (List.mem_of_mem_filter he') hEq
    rw [hEnd]
  · refine Finding.enter_comm ?_ r
    intro hLibrary
    exact hEq (List.getElem?_inj (hInside e (List.mem_of_mem_filter he)) hLibraries |>.mp hLibrary)

/-- The findings of a batch, in the order in which its pipelines end. -/
def entered (schedule : List Nat) (libraries : List Library) (w : World σ) : List Finding :=
  (ends services settings schedule libraries w).map (findingAt libraries)

section

variable {services settings} {schedule : List Nat} {libraries : List Library} {w : World σ}
  {l : Library}

/-- What is entered last for a library is how one of its pipelines has ended. -/
theorem outcomes_of_latest {s : DeclarationSet}
    (h : Finding.latest l (entered services settings schedule libraries w) = some s) :
    ∃ j : Nat, libraries[j]? = some l ∧
      (outcomes services settings schedule libraries w)[j]? = some (.given s) := by
  obtain ⟨f, hf, hSuccess⟩ := Finding.exists_of_latest h
  obtain ⟨e, he, rfl⟩ := List.mem_map.mp hf
  obtain ⟨hLibrary, hGiven⟩ := Finding.success?_eq_some.mp hSuccess
  exact ⟨e.1, hLibrary, (outcomes_of_mem_ends he).trans (congrArg some hGiven)⟩

theorem exists_latest {i : Nat} {s : DeclarationSet} (hLibrary : libraries[i]? = some l)
    (hGiven : (outcomes services settings schedule libraries w)[i]? = some (.given s)) :
    ∃ s', Finding.latest l (entered services settings schedule libraries w) = some s' := by
  have hMem := List.mem_map_of_mem (f := findingAt libraries) (mem_ends_of_given hGiven)
  rw [← Option.ne_none_iff_exists']
  intro hNone
  have hNo := Finding.latest_eq_none.mp hNone _ hMem
  rw [Finding.success?_eq_some.mpr ⟨hLibrary, rfl⟩] at hNo
  cases hNo

theorem expected?_registerAll :
    (registerAll services settings schedule libraries w).2.registry.expected? l.symbolPrefix =
      (Finding.latest l (entered services settings schedule libraries w)).or
        (w.registry.expected? l.symbolPrefix) := by
  rw [registry_registerAll]
  exact Finding.expected?_foldl_enter _ _ _

end

theorem length_outcomes (schedule : List Nat) (libraries : List Library) (w : World σ) :
    (outcomes services settings schedule libraries w).length = libraries.length := by
  rw [outcomes, Activity.length_interleave, List.length_map]

/-- For different libraries the registry depends only on how the pipelines end, whatever else is
different between two batches. -/
theorem registry_eq_of_outcomes {τ : Type} {services : Services σ} {settings : Settings}
    {services' : Services τ} {settings' : Settings} {schedule schedule' : List Nat}
    {libraries : List Library} {w : World σ} {w' : World τ} (hLibraries : libraries.Nodup)
    (hBefore : w'.registry = w.registry)
    (hSame : outcomes services' settings' schedule' libraries w' =
      outcomes services settings schedule libraries w) :
    (registerAll services' settings' schedule' libraries w').2.registry =
      (registerAll services settings schedule libraries w).2.registry := by
  rw [registry_registerAll, registry_registerAll, hBefore]
  refine foldl_enter_eq hLibraries ?_ (Activity.nodup_endings _ _) (Activity.nodup_endings _ _) ?_ _
  · intro e he
    have hInside := (List.getElem?_eq_some_iff.mp (outcomes_of_mem_ends he)).1
    rwa [length_outcomes] at hInside
  · intro i s
    constructor
    · intro h
      exact mem_ends_of_given (hSame ▸ outcomes_of_mem_ends h)
    · intro h
      exact mem_ends_of_given (hSame.symm ▸ outcomes_of_mem_ends h)

/-- In whatever order the pipelines of a batch take their steps, and however each of them ends: the
results are in the order of the libraries, a success for a pipeline that has found declarations, its
error for one that has failed, and a failure of the system for one that has broken off; a library
without success keeps what it had, one with successes has all that its last one found; and if the
libraries are different, the registry depends only on how the pipelines end, and is what it is after
one registration after the other. -/
theorem registerAll_every_order (schedule : List Nat) (libraries : List Library) (w : World σ) :
    let found := outcomes services settings schedule libraries w
    let results := (registerAll services settings schedule libraries w).1
    let after := (registerAll services settings schedule libraries w).2.registry
    (found.length = libraries.length ∧ results.length = libraries.length ∧
      ∀ (i : Nat) l, libraries[i]? = some l →
        (∀ a, found[i]? = some a → Ending services settings l a) ∧
        (∀ s, found[i]? = some (.given s) → results[i]? = some (l, .ok ())) ∧
        (∀ e, found[i]? = some (.failed e) → results[i]? = some (l, .error e)) ∧
        (found[i]? = some .brokenOff →
          results[i]? =
            some (l, .error (.system ⟨.other "verification thread panicked", none⟩)))) ∧
    (∀ l : Library, (∀ (i : Nat) s, libraries[i]? = some l → found[i]? ≠ some (.given s)) →
      after.expected? l.symbolPrefix = w.registry.expected? l.symbolPrefix) ∧
    (∀ (l : Library) (i : Nat) s, libraries[i]? = some l → found[i]? = some (.given s) →
      ∃ (j : Nat) (s' : DeclarationSet), libraries[j]? = some l ∧ found[j]? = some (.given s') ∧
        Finding.latest l (entered services settings schedule libraries w) = some s' ∧
        after.expected? l.symbolPrefix = some s') ∧
    (∀ text, (∀ l : Library, text ≠ l.symbolPrefix) →
      after.expected? text = w.registry.expected? text) ∧
    (libraries.Nodup → ∀ {τ : Type} (services' : Services τ) (settings' : Settings) (w' : World τ),
      w'.registry = w.registry →
        (∀ schedule', outcomes services' settings' schedule' libraries w' = found →
          (registerAll services' settings' schedule' libraries w').2.registry = after) ∧
        ((Activity.runAll (libraries.map (registered services' settings')) w').1 = found →
          (Activity.runAll (libraries.map (register services' settings')) w').2.registry =
            after)) := by
  dsimp only
  have hLength := length_outcomes services settings schedule libraries w
  -- a result is read off the library and the outcome at its place
  have hResult : ∀ {i : Nat} {l : Library} {a : Answer Error DeclarationSet},
      libraries[i]? = some l → (outcomes services settings schedule libraries w)[i]? = some a →
      (registerAll services settings schedule libraries w).1[i]? = some (l, joined a.outcome) := by
    intro i l a hLibrary hOutcome
    rw [registerAll_eq, List.getElem?_zipWith, hLibrary, hOutcome]
  refine ⟨⟨hLength, ?_, ?_⟩, ?_, ?_, ?_, ?_⟩
  · rw [registerAll_eq, List.length_zipWith, hLength, Nat.min_self]
  · intro i l hLibrary
    refine ⟨?_, fun s hGiven => hResult hLibrary hGiven, fun e hFailed => hResult hLibrary hFailed,
      fun hBroken => hResult hLibrary hBroken⟩
    intro a hOutcome
    obtain ⟨x, hx, hEnds⟩ := Activity.mayEnd_interleave hOutcome
    rw [List.getElem?_map, hLibrary] at hx
    obtain rfl := Option.some.inj hx
    exact ending_of_registered services settings hEnds
  · intro l hNone
    rw [expected?_registerAll]
    cases hLatest : Finding.latest l (entered services settings schedule libraries w) with
    | none => rfl
    | some s =>
      obtain ⟨j, hLibrary, hGiven⟩ := outcomes_of_latest hLatest
      exact absurd hGiven (hNone j s hLibrary)
  · intro l i s hLibrary hGiven
    obtain ⟨s', hLatest⟩ := exists_latest hLibrary hGiven
    obtain ⟨j, hLibrary', hGiven'⟩ := outcomes_of_latest hLatest
    refine ⟨j, s', hLibrary', hGiven', hLatest, ?_⟩
    rw [expected?_registerAll, hLatest, Option.some_or]
  · intro text hText
    rw [registry_registerAll]
    exact Finding.expected?_foldl_enter_of_ne hText _ _
  · intro hLibraries τ services' settings' w' hBefore
    refine ⟨fun schedule' hSame => registry_eq_of_outcomes hLibraries hBefore hSame, ?_⟩
    intro hSame
    -- one registration after the other is the batch in which nothing is interleaved
    have hInTurn : outcomes services' settings' [] libraries w' =
        outcomes services settings schedule libraries w := hSame
    exact registry_eq_of_outcomes hLibraries hBefore hInTurn

/-- Of three pipelines one finds a function, one breaks off and one fails; only the first changes
the registry, as it does with one registration after the other. -/
theorem registerAll_every_order_numbered :
    let libraries : List Library := [.rbd, .cephfs, .rados]
    let schedule := [0, 1, 2, 2, 1, 0]
    let w : World Nat := ⟨.empty, 1⟩
    let found := [.given ⟨[.named "f1"]⟩, .brokenOff,
      .failed (.extractor (.cancelled "castxml" ""))]
    let batch := registerAll numbered {} schedule libraries w
    (outcomes numbered {} schedule libraries w = found ∧ libraries.Nodup ∧
      (Activity.runAll (libraries.map (registered numbered {})) w).1 = found) ∧
    batch.1[0]? = some (.rbd, .ok ()) ∧
    batch.1[1]? =
      some (.cephfs, .error (.system ⟨.other "verification thread panicked", none⟩)) ∧
    batch.1[2]? = some (.rados, .error (.extractor (.cancelled "castxml" ""))) ∧
    batch.2.registry.expected? "ceph_" = none ∧
    batch.2.registry.expected? "rbd_" = some ⟨[.named "f1"]⟩ ∧
    batch.2.registry.expected? "f" = none ∧
    (Activity.runAll (libraries.map (register numbered {})) w).2.registry =
      batch.2.registry := by
  intro libraries schedule w found batch
  have hFound : outcomes numbered {} schedule libraries w = found := by decide +kernel
  have hLibraries : libraries.Nodup := by decide
  have hInTurn : (Activity.runAll (libraries.map (registered numbered {})) w).1 = found := by
    decide +kernel
  obtain ⟨⟨-, -, hResults⟩, hWithout, hWith, hOthers, hOrder⟩ :=
    registerAll_every_order numbered {} schedule libraries w
  simp only [hFound] at hResults hWithout hWith hOrder
  refine ⟨⟨hFound, hLibraries, hInTurn⟩, (hResults 0 .rbd rfl).2.1 _ rfl,
    (hResults 1 .cephfs rfl).2.2.2 rfl, (hResults 2 .rados rfl).2.2.1 _ rfl, ?_, ?_, ?_, ?_⟩
  · refine hWithout .cephfs ?_
    intro i s hLibrary
    have hPlace : 1 = i := (List.getElem?_inj (by decide) hLibraries).mp hLibrary.symm
    subst hPlace
    exact nofun
  · obtain ⟨i, s, hLibrary, hGiven, -, hAfter⟩ := hWith .rbd 0 _ rfl rfl
    have hPlace : 0 = i := (List.getElem?_inj (by decide) hLibraries).mp hLibrary.symm
    subst hPlace
    cases hGiven
    exact hAfter
  · refine hOthers "f" ?_
    rintro (_ | _ | _) <;> decide
  · exact (hOrder hLibraries numbered {} w rfl).2 hInTurn

-- of two pipelines for the same library the one that ends later prevails
example :
    let names (schedule : List Nat) :=
      ((registerAll numbered {} schedule [.rbd, .rbd, .rados] ⟨.empty, 0⟩).2.registry.expected?
        "rbd_").map (·.declarations.map (·.name))
    names [] = some ["f1"] ∧ names [0, 1, 2, 1, 1] = some ["f0"] := by
  decide +kernel

end BindingCoverage.Verification
