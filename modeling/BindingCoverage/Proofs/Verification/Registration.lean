import Mathlib
import BindingCoverage.Proofs.Verification.Findings

/-!
# One registration after the other

What a `Call` finds does not depend on the registry, and the registry after any calls is the one
before with all findings entered (`perform_eq`).

* `Call.activity_run`: what one call does.
* `Succeeds`: which call succeeds for a library, and with which set.
* `perform_all_or_nothing`: the registry has the set of the latest success of each library, and
  otherwise what it had; a call that fails does nothing to it.
-/

namespace BindingCoverage.Verification

/-- A request for a registration. -/
inductive Call where
  | library (l : Library)
  | key (text : String)
  deriving DecidableEq, Repr

theorem ofKey_of_forall_ne {key : String} (h : ∀ l : Library, l.key ≠ key) :
    Library.ofKey key = .error ⟨key⟩ := by
  have hNone : Library.all.find? (·.key == key) = none := by
    rw [List.find?_eq_none]
    intro l _
    simpa using h l
  rw [Library.ofKey, hNone]

variable {σ : Type} (services : Services σ) (settings : Settings)

/-- The set is all that the extractor writes about a scratch file of the library, decoded, if the
search begins when what is outside is `x`. -/
def IsDecoded (l : Library) (x : σ) (s : DeclarationSet) : Prop :=
  ∃ file y octets, (services.store l).run x = (.given file, y) ∧
    ((services.extract (.extract settings file.text)).run y).1 = .given octets ∧
    Dump.decodeOctets octets = .ok s

theorem declarations_given_iff {l : Library} {x : σ} {s : DeclarationSet} :
    ((declarations services settings l).run x).1 = .given s ↔
      IsDecoded services settings l x s := by
  rw [declarations_run]
  constructor
  · intro h
    split at h
    · cases h
    · cases h
    · next file y hStored =>
      have hReply : decodeReply ((services.extract (.extract settings file.text)).run y).1 =
        .given s := h
      unfold decodeReply at hReply
      split at hReply
      · next octets hOctets =>
        split at hReply
        · next s' hDecoded =>
          cases hReply
          exact ⟨file, y, octets, hStored, hOctets, hDecoded⟩
        · cases hReply
      · cases hReply
      · cases hReply
  · rintro ⟨file, y, octets, hStored, hOctets, hDecoded⟩
    simp only [hStored, hOctets, decodeReply, hDecoded]

namespace Call

/-- The library that a call is about, if there is one. -/
def library? : Call → Option Library
  | library l => some l
  | key text => (Library.ofKey text).toOption

def activity : Call → Activity (World σ) (Answer Error Unit)
  | library l => register services settings l
  | key text => registerKey services settings text

/-- What a call finds, without a registry. -/
def finding : Call → Activity σ Finding
  | library l => Finding.mk (some l) <$> declarations services settings l
  | key text =>
    match Library.ofKey text with
    | .error e => return ⟨none, .failed (.unknownLibrary e)⟩
    | .ok l => Finding.mk (some l) <$> declarations services settings l

theorem activity_run (c : Call) (w : World σ) :
    (c.activity services settings).run w =
      let found := (c.finding services settings).run w.outside
      (found.1.found.outcome, ⟨Finding.enter w.registry found.1, found.2⟩) := by
  cases c with
  | library l => simp only [activity, finding, register_run, Activity.run_map]
  | key text =>
    simp only [activity, finding, registerKey]
    cases Library.ofKey text with
    | error e => rfl
    | ok l => simp only [register_run, Activity.run_map]

/-- What a call finds is about its library; it finds what is decoded. -/
theorem finding_run (c : Call) (x : σ) :
    ((c.finding services settings).run x).1.library = c.library? ∧
      ∀ l s, ((c.finding services settings).run x).1.success? l = some s ↔
        c.library? = some l ∧ IsDecoded services settings l x s := by
  have hFound : ∀ l' l s,
      (Finding.mk (some l') ((declarations services settings l').run x).1).success? l = some s ↔
        some l' = some l ∧ IsDecoded services settings l x s := by
    intro l' l s
    rw [Finding.success?_eq_some]
    refine and_congr_right fun hLibrary => ?_
    cases hLibrary
    exact declarations_given_iff services settings
  cases c with
  | library l' =>
    simp only [finding, Activity.run_map]
    exact ⟨rfl, hFound l'⟩
  | key text =>
    simp only [finding, library?]
    split
    · next e hKey =>
      rw [hKey]
      exact ⟨rfl, by simp [Finding.success?, Except.toOption]⟩
    · next l' hKey =>
      simp only [hKey, Activity.run_map]
      exact ⟨rfl, hFound l'⟩

end Call

/-- One call after the other. -/
def perform (calls : List Call) : StateM (World σ) (List (Answer Error Unit)) :=
  Activity.runAll (calls.map (·.activity services settings))

/-- What the calls find, one after the other. -/
def findings (calls : List Call) : StateM σ (List Finding) :=
  Activity.runAll (calls.map (·.finding services settings))

theorem perform_eq (calls : List Call) (w : World σ) :
    perform services settings calls w =
      let found := findings services settings calls w.outside
      (found.1.map (·.found.outcome), ⟨found.1.foldl Finding.enter w.registry, found.2⟩) := by
  induction calls generalizing w with
  | nil => rfl
  | cons c rest ih =>
    simp only [perform, findings] at ih
    simp only [perform, findings, List.map_cons, Activity.runAll_cons, Call.activity_run, ih]
    rfl

/-- What call number `i` finds, it finds after the calls before it. -/
theorem getElem?_findings (calls : List Call) (x : σ) (i : Nat) :
    (findings services settings calls x).1[i]? = calls[i]?.map fun c =>
      ((c.finding services settings).run (findings services settings (calls.take i) x).2).1 := by
  induction calls generalizing x i with
  | nil => rfl
  | cons c rest ih =>
    cases i with
    | zero => rfl
    | succ i => exact ih ((c.finding services settings).run x).2 i

theorem findings_library (calls : List Call) (x : σ) :
    (findings services settings calls x).1.map (·.library) = calls.map (·.library?) := by
  refine List.ext_getElem? fun i => ?_
  rw [List.getElem?_map, getElem?_findings, List.getElem?_map, Option.map_map]
  exact congrArg (calls[i]?.map ·) (funext fun c => (c.finding_run services settings _).1)

/-- Call number `i` is about the library, and the set is what is decoded for it then. -/
def Succeeds (calls : List Call) (w : World σ) (i : Nat) (l : Library) (s : DeclarationSet) :
    Prop :=
  ∃ c, calls[i]? = some c ∧ c.library? = some l ∧
    IsDecoded services settings l (perform services settings (calls.take i) w).2.outside s

theorem succeeds_iff (calls : List Call) (w : World σ) (i : Nat) (l : Library)
    (s : DeclarationSet) :
    Succeeds services settings calls w i l s ↔
      ∃ f, (findings services settings calls w.outside).1[i]? = some f ∧
        f.success? l = some s := by
  simp only [Succeeds, getElem?_findings, perform_eq, Option.map_eq_some_iff]
  constructor
  · rintro ⟨c, hCall, hSuccess⟩
    exact ⟨_, ⟨c, hCall, rfl⟩, ((c.finding_run services settings _).2 l s).mpr hSuccess⟩
  · rintro ⟨_, ⟨c, hCall, rfl⟩, hSuccess⟩
    exact ⟨c, hCall, ((c.finding_run services settings _).2 l s).mp hSuccess⟩

/-- The latest success for a library is that of the last call that succeeds for it. -/
theorem latest_findings_eq_some (calls : List Call) (w : World σ) (l : Library)
    (s : DeclarationSet) :
    Finding.latest l (findings services settings calls w.outside).1 = some s ↔
      ∃ i, Succeeds services settings calls w i l s ∧
        ∀ j s', i < j → ¬ Succeeds services settings calls w j l s' := by
  simp only [succeeds_iff, Finding.latest_eq_some]
  constructor
  · rintro ⟨i, f, hf, hSuccess, hLater⟩
    refine ⟨i, ⟨f, hf, hSuccess⟩, ?_⟩
    rintro j s' hj ⟨f', hf', hSuccess'⟩
    rw [hLater j f' hj hf'] at hSuccess'
    cases hSuccess'
  · rintro ⟨i, ⟨f, hf, hSuccess⟩, hLater⟩
    refine ⟨i, f, hf, hSuccess, ?_⟩
    intro j f' hj hf'
    rw [Option.eq_none_iff_forall_ne_some]
    intro s' hSuccess'
    exact hLater j s' hj ⟨f', hf', hSuccess'⟩

/-- After any calls, however stores and extractors behave, the registry has for each library the set
that was decoded for its latest success, and what it had before if there was none; nothing else in
it has changed. A further call that fails leaves it as it is, and for a key that no library has
nothing at all is done. -/
theorem perform_all_or_nothing (calls : List Call) (w : World σ) :
    let found := (findings services settings calls w.outside).1
    let after := (perform services settings calls w).2
    found.map (·.library) = calls.map (·.library?) ∧
    (perform services settings calls w).1 = found.map (·.found.outcome) ∧
    (∀ l, after.registry.expected? l.symbolPrefix =
      (Finding.latest l found).or (w.registry.expected? l.symbolPrefix)) ∧
    (∀ l s, Finding.latest l found = some s ↔
      ∃ i, Succeeds services settings calls w i l s ∧
        ∀ j s', i < j → ¬ Succeeds services settings calls w j l s') ∧
    (∀ text, (∀ l : Library, text ≠ l.symbolPrefix) →
      after.registry.expected? text = w.registry.expected? text) ∧
    (∀ c : Call, ((c.activity services settings).run after).1 ≠ .given () →
      ((c.activity services settings).run after).2.registry = after.registry) ∧
    ∀ text, (∀ l : Library, l.key ≠ text) →
      registerKey services settings text = .done (.failed (.unknownLibrary ⟨text⟩)) := by
  dsimp only
  rw [perform_eq]
  refine ⟨findings_library services settings calls w.outside, rfl, ?_, ?_, ?_, ?_, ?_⟩
  · intro l
    exact Finding.expected?_foldl_enter _ _ l
  · intro l s
    exact latest_findings_eq_some services settings calls w l s
  · intro text hText
    exact Finding.expected?_foldl_enter_of_ne hText _ _
  · intro c hFails
    rw [Call.activity_run] at hFails ⊢
    refine Finding.enter_of_not_given ?_ _
    intro s hGiven
    exact hFails (congrArg Answer.outcome hGiven)
  · intro text hText
    rw [registerKey, ofKey_of_forall_ne hText]
    rfl

/-- The set of the first call outlives a second search for the same library, which breaks off, and a
further call, in which the extractor is cancelled, changes nothing. -/
theorem perform_all_or_nothing_numbered :
    let calls := [.library .rbd, .key "rgw", .key "rados", .library .rbd]
    let w : World Nat := ⟨.empty, 0⟩
    let after := (perform numbered {} calls w).2
    (∃ i, Succeeds numbered {} calls w i .rbd ⟨[.named "f0"]⟩ ∧
      ∀ j s, i < j → ¬ Succeeds numbered {} calls w j .rbd s) ∧
    after.registry.expected? "rbd_" = some ⟨[.named "f0"]⟩ ∧
    after.registry.expected? "rados_" = some ⟨[.named "f1"]⟩ ∧
    after.registry.expected? "ceph_" = none ∧
    after.registry.expected? "f" = none ∧
    ((Call.key "cephfs").activity numbered {} |>.run after).1 ≠ .given () ∧
    ((Call.key "cephfs").activity numbered {} |>.run after).2.registry = after.registry ∧
    registerKey numbered {} "rgw" = .done (.failed (.unknownLibrary ⟨"rgw"⟩)) := by
  intro calls w after
  have hLatest : ∀ l, Finding.latest l (findings numbered {} calls w.outside).1 =
      match l with
      | .rbd => some ⟨[.named "f0"]⟩
      | .rados => some ⟨[.named "f1"]⟩
      | .cephfs => none := by
    rintro (_ | _ | _) <;> decide +kernel
  obtain ⟨-, -, hRegistry, hSucceeds, hOthers, hFails, hUnknown⟩ :=
    perform_all_or_nothing numbered {} calls w
  have hCancelled : ((Call.key "cephfs").activity numbered {} |>.run after).1 ≠ .given () := by
    decide +kernel
  refine ⟨(hSucceeds .rbd _).mp (hLatest .rbd), ?_, ?_, ?_, ?_, hCancelled, hFails _ hCancelled,
    ?_⟩
  · exact (hRegistry .rbd).trans (by rw [hLatest]; rfl)
  · exact (hRegistry .rados).trans (by rw [hLatest]; rfl)
  · exact (hRegistry .cephfs).trans (by rw [hLatest]; rfl)
  · exact hOthers "f" (by rintro (_ | _ | _) <;> decide)
  · exact hUnknown "rgw" (by rintro (_ | _ | _) <;> decide)

end BindingCoverage.Verification
