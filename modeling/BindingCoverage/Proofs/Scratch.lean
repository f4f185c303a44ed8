import BindingCoverage.Proofs.Activity.Protocol
import BindingCoverage.Proofs.Host.Files
import BindingCoverage.Scratch

/-!
# Who has which scratch file

A search for declarations has at most one scratch file at a time. `FileTurn` says what it may do to
the files and how that changes what it has (`Storage.obeys_create`, `Storage.obeys_discard`).

`Custody` is what holds of all searches together: each has its own file, with the octets that it put
there, and what nobody has is what was there in the first place (`Custody.step`).
-/

namespace BindingCoverage.Scratch

/-- What a search has of its own among the files. -/
inductive Holding where
  | nothing
  | file (f : File) (octets : List UInt8)
  /-- A file with the stub of a library, with which search number `n` has called the extractor. -/
  | shown (n : Nat) (f : File) (l : Library)

namespace Holding

/-- The file, and what it holds. -/
def content? : Holding → Option (File × List UInt8)
  | nothing => none
  | file f octets => some (f, octets)
  | shown _ f l => some (f, Utf8.encode l.stub)

/-- What a search has when a file was to be made, with these octets in it. -/
def ofMade (octets : List UInt8) : Except Error File → Holding
  | .ok f => file f octets
  | .error _ => nothing

end Holding

/-- What a search may do to the files, and what it has then. -/
inductive FileTurn : Holding → Holding → Host.Files → Host.Files → Prop where
  | keep (k : Holding) (files : Host.Files) : FileTurn k k files files
  | make {file : File} {files : Host.Files} (hVacancy : files.vacancy file.text = .ok file.path) :
    FileTurn .nothing (.file file []) files (files.put file.path (.file [] false))
  | write (file : File) (octets octets' : List UInt8) (files : Host.Files) :
    FileTurn (.file file octets) (.file file octets') files
      (files.put file.path (.file octets' false))
  | drop (file : File) (octets : List UInt8) (files : Host.Files) :
    FileTurn (.file file octets) .nothing files (files.remove file.path)

/-- Only a file with which no extractor has been called is touched. -/
theorem FileTurn.eq_or_unshown {k k' : Holding} {files files' : Host.Files}
    (h : FileTurn k k' files files') :
    k' = k ∨ (∀ n f l, k ≠ .shown n f l) ∧ ∀ n f l, k' ≠ .shown n f l := by
  cases h with
  | keep => exact .inl rfl
  | make => exact .inr ⟨nofun, nofun⟩
  | write => exact .inr ⟨nofun, nofun⟩
  | drop => exact .inr ⟨nofun, nofun⟩

/-! ## What is done with scratch files -/

theorem vacancyFrom_eq_ok {files : Host.Files} {directory : String} {l : Library} {file : File}
    (fuel : Nat) : ∀ n, vacancyFrom files directory l fuel n = .ok file →
      files.vacancy file.text = .ok file.path := by
  induction fuel with
  | zero =>
    intro n h
    cases h
  | succ fuel ih =>
    intro n h
    simp only [vacancyFrom] at h
    split at h
    · next path hVacancy =>
      cases h
      exact hVacancy
    · split_ifs at h
      exact ih _ h

theorem make_turn (directory : String) (l : Library) (first : Nat) (files : Host.Files) :
    FileTurn .nothing (.ofMade [] (make directory l first files).1) files
      (make directory l first files).2 := by
  unfold make
  cases hVacancy : vacancyFrom files directory l attempts first with
  | error e => exact .keep .nothing files
  | ok file => exact .make (vacancyFrom_eq_ok attempts first hVacancy)

namespace Storage

variable {σ : Type} (storage : Storage σ)

def turn (k k' : Holding) (x x' : σ) : Prop :=
  FileTurn k k' (storage.files.get x) (storage.files.get x')

theorem obeys_discard (file : File) (octets : List UInt8) :
    (storage.discard file).Obeys storage.turn (fun _ k => k = .nothing) (.file file octets) := by
  refine .atomic fun x => ⟨.nothing, ?_, rfl⟩
  simp only [turn, Part.lift, storage.files.get_set]
  exact .drop file octets _

theorem obeys_make (l : Library) :
    (Activity.atomic fun x =>
      storage.files.lift (make storage.directory l (storage.first x)) x).Obeys storage.turn
      (fun made k => k = .ofMade [] made) .nothing := by
  refine .atomic fun x => ⟨_, ?_, rfl⟩
  simp only [turn, Part.lift, storage.files.get_set]
  exact make_turn _ l _ _

theorem obeys_fill (file : File) (octets octets' : List UInt8) :
    (Activity.atomic fun x =>
      storage.files.lift (fill file octets (storage.fault x)) x).Obeys storage.turn
      (fun filled k => ∃ held, k = .file file held ∧ (filled = .ok () → held = octets))
      (.file file octets') := by
  refine .atomic fun x => ?_
  simp only [turn, Part.lift, storage.files.get_set]
  cases storage.fault x with
  | none => exact ⟨_, .write file octets' octets _, _, rfl, fun _ => rfl⟩
  | some fault => exact ⟨_, .write file octets' (octets.take fault.2) _, _, rfl, nofun⟩

/-- Whoever creates a file has it, with the whole stub, or else has nothing. -/
theorem obeys_create (l : Library) :
    (storage.create l).Obeys storage.turn
      (fun created k => k = .ofMade (Utf8.encode l.stub) created) .nothing := by
  refine (storage.obeys_make l).bind fun made k hMade => ?_
  cases made with
  | error e => exact hMade
  | ok file =>
    subst hMade
    refine (storage.obeys_fill file _ []).bind fun filled k hFilled => ?_
    obtain ⟨held, rfl, hWhole⟩ := hFilled
    cases filled with
    | ok _ => exact congrArg (Holding.file file) (hWhole rfl)
    | error e => exact (storage.obeys_discard file held).bind fun _ k hNothing => hNothing

end Storage

/-! ## All searches together -/

/-- No search has the file at this path. -/
def Free (contents : Nat → Option (File × List UInt8)) (path : Host.Path) : Prop :=
  ∀ i f octets, contents i = some (f, octets) → f.path ≠ path

theorem free_update_some (contents : Nat → Option (File × List UInt8)) (i : Nat) (f : File)
    (octets : List UInt8) (path : Host.Path) :
    Free (Function.update contents i (some (f, octets))) path ↔
      Free (Function.update contents i none) path ∧ f.path ≠ path := by
  constructor
  · intro h
    refine ⟨?_, h i f octets (Function.update_self i _ contents)⟩
    intro j g octets' hj
    by_cases hSame : j = i
    · rw [hSame, Function.update_self] at hj
      cases hj
    · refine h j g octets' ?_
      rwa [Function.update_of_ne hSame] at hj ⊢
  · rintro ⟨hOthers, hOwn⟩ j g octets' hj
    by_cases hSame : j = i
    · rw [hSame, Function.update_self] at hj
      cases hj
      exact hOwn
    · refine hOthers j g octets' ?_
      rwa [Function.update_of_ne hSame] at hj ⊢

open Classical in
/-- The nodes that no search has. -/
noncomputable def unclaimed (contents : Nat → Option (File × List UInt8)) (files : Host.Files) :
    List (Host.Path × Host.Node) :=
  files.nodes.filter fun e => Free contents e.1

theorem unclaimed_of_none {contents : Nat → Option (File × List UInt8)}
    (hNone : ∀ i, contents i = none) (files : Host.Files) :
    unclaimed contents files = files.nodes := by
  classical
  refine List.filter_eq_self.mpr ?_
  intro e _
  refine decide_eq_true ?_
  intro i f octets hi
  rw [hNone i] at hi
  cases hi

theorem unclaimed_put (contents : Nat → Option (File × List UInt8)) (i : Nat) (f : File)
    (octets : List UInt8) (files : Host.Files) (node : Host.Node) :
    unclaimed (Function.update contents i (some (f, octets))) (files.put f.path node) =
      unclaimed (Function.update contents i none) (files.remove f.path) := by
  have hOwn : ¬Free (Function.update contents i (some (f, octets))) f.path := fun h =>
    ((free_update_some contents i f octets f.path).mp h).2 rfl
  simp only [unclaimed, Host.Files.put, Host.Files.remove]
  rw [List.filter_cons_of_neg (by simpa using hOwn)]
  refine List.filter_congr ?_
  intro e he
  have hPath : e.1 ≠ f.path := by simpa using List.of_mem_filter he
  rw [decide_eq_decide, free_update_some]
  exact and_iff_left hPath.symm

theorem unclaimed_remove {contents : Nat → Option (File × List UInt8)} {i : Nat} {f : File}
    {octets : List UInt8} (hContent : contents i = some (f, octets)) (files : Host.Files) :
    unclaimed (Function.update contents i none) (files.remove f.path) =
      unclaimed contents files := by
  simp only [unclaimed, Host.Files.remove, List.filter_filter]
  refine List.filter_congr ?_
  intro e _
  have hFree : Free contents e.1 ↔
      Free (Function.update contents i none) e.1 ∧ f.path ≠ e.1 := by
    rw [← free_update_some contents i f octets, ← hContent, Function.update_eq_self]
  rw [Bool.eq_iff_iff]
  simp only [Bool.and_eq_true, decide_eq_true_eq, bne_iff_ne]
  rw [hFree, ne_comm]

/-- The files are those from the start and the ones that the searches have, each its own. -/
structure Custody (start : Host.Files) (contents : Nat → Option (File × List UInt8))
    (files : Host.Files) : Prop where
  there {i f octets} : contents i = some (f, octets) →
    files.get? f.path = some (.file octets false)
  named {i f octets} : contents i = some (f, octets) → files.resolve f.text = .ok f.path
  apart {i j f g octets octets'} : contents i = some (f, octets) → contents j = some (g, octets') →
    f.path = g.path → i = j
  others : unclaimed contents files = start.nodes
  working : files.working = start.working

namespace Custody

variable {start files files' : Host.Files} {contents : Nat → Option (File × List UInt8)} {i : Nat}

theorem initial (start : Host.Files) : Custody start (fun _ => none) start where
  there := nofun
  named := nofun
  apart := nofun
  others := unclaimed_of_none (fun _ => rfl) start
  working := rfl

/-- If nobody has a file, all is as it was at the start. -/
theorem eq_start (h : Custody start contents files) (hNone : ∀ i, contents i = none) :
    files = start := by
  have hNodes := (unclaimed_of_none hNone files).symm.trans h.others
  cases files
  cases start
  cases hNodes
  cases h.working
  rfl

/-- No two searches have files of the same name. -/
theorem text_apart (h : Custody start contents files) {j : Nat} {f g : File}
    {octets octets' : List UInt8} (hi : contents i = some (f, octets))
    (hj : contents j = some (g, octets')) (hText : f.text = g.text) : i = j := by
  have hNamed := h.named hi
  rw [hText, h.named hj] at hNamed
  exact h.apart hi hj (Except.ok.inj hNamed).symm

/-- Search number `i` changes the files so that the others still have theirs, and it has one of its
own or none. -/
theorem update (h : Custody start contents files) {content : Option (File × List UInt8)}
    (hOthers : ∀ {j f octets}, j ≠ i → contents j = some (f, octets) →
      files'.get? f.path = some (.file octets false) ∧ files'.resolve f.text = .ok f.path)
    (hOwn : ∀ {f octets}, content = some (f, octets) →
      files'.get? f.path = some (.file octets false) ∧ files'.resolve f.text = .ok f.path ∧
        ∀ {j g octets'}, j ≠ i → contents j = some (g, octets') → g.path ≠ f.path)
    (hNodes : unclaimed (Function.update contents i content) files' = unclaimed contents files)
    (hWorking : files'.working = files.working) :
    Custody start (Function.update contents i content) files' := by
  have hThere : ∀ {j f octets}, Function.update contents i content j = some (f, octets) →
      files'.get? f.path = some (.file octets false) ∧ files'.resolve f.text = .ok f.path := by
    intro j f octets hj
    by_cases hSame : j = i
    · rw [hSame, Function.update_self] at hj
      obtain ⟨hGet, hNamed, -⟩ := hOwn hj
      exact ⟨hGet, hNamed⟩
    · rw [Function.update_of_ne hSame] at hj
      exact hOthers hSame hj
  refine ⟨fun hj => (hThere hj).1, fun hj => (hThere hj).2, ?_, hNodes.trans h.others,
    hWorking.trans h.working⟩
  intro j j' f g octets octets' hj hj' hPath
  by_cases hSame : j = i <;> by_cases hSame' : j' = i
  · rw [hSame, hSame']
  · rw [hSame, Function.update_self] at hj
    rw [Function.update_of_ne hSame'] at hj'
    exact absurd hPath.symm ((hOwn hj).2.2 hSame' hj')
  · rw [hSame', Function.update_self] at hj'
    rw [Function.update_of_ne hSame] at hj
    exact absurd hPath ((hOwn hj').2.2 hSame hj)
  · rw [Function.update_of_ne hSame] at hj
    rw [Function.update_of_ne hSame'] at hj'
    exact h.apart hj hj' hPath

/-- A file that is still there can still be named, while directories stay directories. -/
theorem kept (h : Custody start contents files) {f : File} {octets : List UInt8}
    (hContent : contents i = some (f, octets))
    (hKeeps : ∀ p, files.get? p = some .directory → files'.get? p = some .directory)
    (hWorking : files'.working = files.working) (hGet : files'.get? f.path = files.get? f.path) :
    files'.get? f.path = some (.file octets false) ∧ files'.resolve f.text = .ok f.path := by
  have hThere := hGet.trans (h.there hContent)
  refine ⟨hThere, Host.Files.resolve_of_keeps hKeeps hWorking (h.named hContent) ?_⟩
  rw [hThere]
  nofun

theorem ne_of_directory (h : Custody start contents files) {f : File} {octets : List UInt8}
    (hContent : contents i = some (f, octets)) {path : Host.Path}
    (hDirectory : files.get? path = some .directory) : path ≠ f.path := by
  rintro rfl
  rw [h.there hContent] at hDirectory
  cases hDirectory

theorem make (h : Custody start contents files) (hNone : contents i = none) {file : File}
    (hVacancy : files.vacancy file.text = .ok file.path) :
    Custody start (Function.update contents i (some (file, [])))
      (files.put file.path (.file [] false)) := by
  obtain ⟨hFree, hNamed⟩ := Host.Files.of_vacancy hVacancy (.file [] false)
  -- nothing that a search has is at the new path
  have hNe : ∀ {j f octets}, contents j = some (f, octets) → f.path ≠ file.path := by
    intro j f octets hj hEq
    have hThere := h.there hj
    rw [hEq, hFree] at hThere
    cases hThere
  refine h.update ?_ ?_ ?_ rfl
  · intro j f octets _ hj
    exact h.kept hj (Host.Files.get?_put_of_directory hFree _) rfl
      (Host.Files.get?_put_of_ne (hNe hj) _ _)
  · rintro f octets ⟨rfl, rfl⟩
    exact ⟨Host.Files.get?_put_self _ _ _, hNamed, fun _ hj => hNe hj⟩
  · rw [unclaimed_put, Host.Files.remove_of_get?_eq_none hFree, ← hNone, Function.update_eq_self]

theorem write (h : Custody start contents files) {file : File} {octets : List UInt8}
    (hContent : contents i = some (file, octets)) (octets' : List UInt8) :
    Custody start (Function.update contents i (some (file, octets')))
      (files.put file.path (.file octets' false)) := by
  have hNe : ∀ {j f o}, j ≠ i → contents j = some (f, o) → f.path ≠ file.path := by
    intro j f o hSame hj hEq
    exact hSame (h.apart hj hContent hEq)
  have hKeeps : ∀ p, files.get? p = some .directory →
      (files.put file.path (.file octets' false)).get? p = some .directory := by
    intro p hp
    rw [Host.Files.get?_put_of_ne (h.ne_of_directory hContent hp), hp]
  refine h.update ?_ ?_ ?_ rfl
  · intro j f o hSame hj
    exact h.kept hj hKeeps rfl (Host.Files.get?_put_of_ne (hNe hSame hj) _ _)
  · rintro f o ⟨rfl, rfl⟩
    have hThere := Host.Files.get?_put_self files file.path (.file octets' false)
    refine ⟨hThere, Host.Files.resolve_of_keeps hKeeps rfl (h.named hContent) ?_, hNe⟩
    rw [hThere]
    nofun
  · rw [unclaimed_put, unclaimed_remove hContent]

theorem drop (h : Custody start contents files) {file : File} {octets : List UInt8}
    (hContent : contents i = some (file, octets)) :
    Custody start (Function.update contents i none) (files.remove file.path) := by
  refine h.update ?_ nofun (unclaimed_remove hContent files) rfl
  intro j f o hSame hj
  have hNe : f.path ≠ file.path := fun hEq => hSame (h.apart hj hContent hEq)
  refine h.kept hj ?_ rfl (Host.Files.get?_remove_of_ne hNe _)
  intro p hp
  rw [Host.Files.get?_remove_of_ne (h.ne_of_directory hContent hp), hp]

/-- Whatever a search does, all searches have their own files after it. -/
theorem step {ks : Nat → Holding} {k' : Holding}
    (h : Custody start (Holding.content? ∘ ks) files) (hTurn : FileTurn (ks i) k' files files') :
    Custody start (Holding.content? ∘ Function.update ks i k') files' := by
  rw [Function.comp_update]
  generalize hk : ks i = k at hTurn
  have hContent : (Holding.content? ∘ ks) i = k.content? := congrArg Holding.content? hk
  cases hTurn with
  | keep =>
    rw [← hContent, Function.update_eq_self]
    exact h
  | make hVacancy => exact h.make hContent hVacancy
  | write file octets octets' => exact h.write hContent octets'
  | drop file octets => exact h.drop hContent

end Custody

end BindingCoverage.Scratch
