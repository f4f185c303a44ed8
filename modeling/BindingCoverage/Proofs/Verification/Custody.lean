import BindingCoverage.Proofs.Scratch
import BindingCoverage.Proofs.Verification.Batch
import BindingCoverage.Verification.Host

/-!
# How long scratch files live

A search has its scratch file from before the extractor is called until after it has answered, and
nothing is left of it when the search is over, whether it ends well, fails or breaks off.

* `Services.watched`: the same services, with a list of the calls of the extractor under way.
* `obeys_declarations`, `obeys_registered`: searches and registrations keep to the protocol.
* `interleave_files`: what is left at the end.
* `foldl_advance_calls`: what the calls under way see at every moment.
-/

namespace BindingCoverage.Verification

open Scratch

/-! ## Calls under way -/

/-- A state with the calls of the extractor that are under way. -/
structure Watch (σ : Type) where
  state : σ
  /-- Each with the number of the search that has made it. -/
  calls : List (Nat × Extractor.Invocation)

def Watch.statePart {σ : Type} : Part (Watch σ) σ where
  get := state
  set state w := { w with state }

/-- The same services for search number `n`, which take down when it calls the extractor and when
that has answered. -/
def Services.watched {σ : Type} (services : Services σ) (n : Nat) : Services (Watch σ) where
  store l := (services.store l).on Watch.statePart
  extract i := do
    .atomic fun w => ((), { w with calls := (n, i) :: w.calls })
    let reply ← (services.extract i).on Watch.statePart
    .atomic fun w => ((), { w with calls := w.calls.erase (n, i) })
    return reply
  discard file := (services.discard file).on Watch.statePart

theorem watched_extract_run {σ : Type} (services : Services σ) (n : Nat)
    (i : Extractor.Invocation) (w : Watch σ) :
    ((services.watched n).extract i).run w =
      let replied := (services.extract i).run w.state
      (replied.1, ⟨replied.2, w.calls⟩) := by
  simp only [Services.watched, Activity.run_bind, Activity.run_atomic, Activity.run_pure,
    Activity.run_on, Watch.statePart, List.erase_cons_head]

/-- Taking down the calls changes nothing: a search finds the same, and ends in the same state. -/
theorem declarations_watched_run {σ : Type} (services : Services σ) (n : Nat) (settings : Settings)
    (l : Library) (w : Watch σ) :
    (declarations (services.watched n) settings l).run w =
      let plain := (declarations services settings l).run w.state
      (plain.1, ⟨plain.2, w.calls⟩) := by
  have hStore : ((services.watched n).store l).run w =
      (((services.store l).run w.state).1, ⟨((services.store l).run w.state).2, w.calls⟩) :=
    Activity.run_on _ _ _
  simp only [declarations_run, hStore, watched_extract_run]
  rcases (services.store l).run w.state with ⟨file | e | _, y⟩
  · simp only [Services.watched, Activity.run_on, Watch.statePart]
  · rfl
  · rfl

/-- What a search may do to the files and to the calls under way; search number `n` is one for
library number `n`. -/
inductive CallTurn (settings : Settings) (libraries : List Library) :
    Holding → Holding → Host.Files × List (Nat × Extractor.Invocation) →
      Host.Files × List (Nat × Extractor.Invocation) → Prop where
  | files {k k' : Holding} {files files' : Host.Files} {calls : List (Nat × Extractor.Invocation)}
    (hTurn : FileTurn k k' files files') :
    CallTurn settings libraries k k' (files, calls) (files', calls)
  | call {n : Nat} {file : File} {l : Library} {files : Host.Files}
    {calls : List (Nat × Extractor.Invocation)} (hLibrary : libraries[n]? = some l) :
    CallTurn settings libraries (.file file (Utf8.encode l.stub)) (.shown n file l) (files, calls)
      (files, (n, .extract settings file.text) :: calls)
  | answer (n : Nat) (file : File) (l : Library) (files : Host.Files)
    (calls : List (Nat × Extractor.Invocation)) :
    CallTurn settings libraries (.shown n file l) (.file file (Utf8.encode l.stub)) (files, calls)
      (files, calls.erase (n, .extract settings file.text))

/-! ## Searches keep to the protocol -/

/-- What a search has when a file was to be stored, with these octets in it. -/
def holdingOf (octets : List UInt8) : Answer Scratch.Error File → Holding
  | .given file => .file file octets
  | _ => .nothing

section

variable {τ : Type} {services : Services τ} {settings : Settings} {l : Library}
  {turn : Holding → Holding → τ → τ → Prop}

/-- A search does so if its services do. -/
theorem obeys_declarations
    (hStore : (services.store l).Obeys turn
      (fun stored k => k = holdingOf (Utf8.encode l.stub) stored) .nothing)
    (hExtract : ∀ file, (services.extract (.extract settings file.text)).Obeys turn
      (fun _ k => k = .file file (Utf8.encode l.stub)) (.file file (Utf8.encode l.stub)))
    (hDiscard : ∀ file octets,
      (services.discard file).Obeys turn (fun _ k => k = .nothing) (.file file octets)) :
    (declarations services settings l).Obeys turn (fun _ k => k = .nothing) .nothing := by
  refine hStore.bind fun stored k hStored => ?_
  cases stored with
  | failed e => exact hStored
  | brokenOff => exact hStored
  | given file =>
    subst hStored
    refine (hExtract file).bind fun reply k hReply => ?_
    subst hReply
    exact (hDiscard file _).bind fun _ k hNothing => hNothing

/-- Recording what was found needs no turn at what is outside. -/
theorem obeys_registered (hKeep : ∀ t, turn .nothing .nothing t t)
    (h : (declarations services settings l).Obeys turn (fun _ k => k = .nothing) .nothing) :
    (registered services settings l).Obeys
      (fun k k' (w w' : World τ) => turn k k' w.outside w'.outside) (fun _ k => k = .nothing)
      .nothing := by
  refine (h.on World.outsidePart fun _ _ _ _ hTurn => hTurn).bind fun found k hFound => ?_
  subst hFound
  cases found with
  | given s => exact .atomic fun w => ⟨.nothing, hKeep w.outside, rfl⟩
  | failed e => rfl
  | brokenOff => rfl

end

section

variable {σ : Type} (storage : Storage σ) (extract : Extractor.Invocation → Activity σ Reply)

/-- The extractor leaves the files alone. -/
def LeavesFiles : Prop :=
  ∀ i, (extract i).Always fun x x' => storage.files.get x' = storage.files.get x

theorem obeys_store (l : Library) :
    ((scratchServices storage extract).store l).Obeys storage.turn
      (fun stored k => k = holdingOf (Utf8.encode l.stub) stored) .nothing := by
  refine (storage.obeys_create l).bind fun created k hCreated => ?_
  cases created with
  | ok file => exact hCreated
  | error e => exact hCreated

variable {storage extract}

theorem obeys_extract (hExtract : LeavesFiles storage extract) (i : Extractor.Invocation)
    (k : Holding) : (extract i).Obeys storage.turn (fun _ k' => k' = k) k := by
  refine .of_always ?_ ?_ (hExtract i)
  · intro x x' hSame
    rw [Storage.turn, hSame]
    exact .keep _ _
  · intro _
    rfl

theorem obeys_search (hExtract : LeavesFiles storage extract) (settings : Settings) (l : Library) :
    (declarations (scratchServices storage extract) settings l).Obeys storage.turn
      (fun _ k => k = .nothing) .nothing :=
  obeys_declarations (obeys_store storage extract l) (fun _ => obeys_extract hExtract _ _)
    storage.obeys_discard

/-- The files and the calls under way. -/
def Watch.view (storage : Storage σ) (w : Watch σ) :
    Host.Files × List (Nat × Extractor.Invocation) :=
  (storage.files.get w.state, w.calls)

/-- A turn at the files and the calls under way. -/
def Watch.turn (storage : Storage σ) (settings : Settings) (libraries : List Library)
    (k k' : Holding) (w w' : Watch σ) : Prop :=
  CallTurn settings libraries k k' (w.view storage) (w'.view storage)

theorem obeys_watched (hExtract : LeavesFiles storage extract) (settings : Settings)
    {libraries : List Library} {n : Nat} {l : Library} (hLibrary : libraries[n]? = some l) :
    (declarations ((scratchServices storage extract).watched n) settings l).Obeys
      (Watch.turn storage settings libraries) (fun _ k => k = .nothing) .nothing := by
  have hOn : ∀ k k' x (w : Watch σ), storage.turn k k' (Watch.statePart.get w) x →
      Watch.turn storage settings libraries k k' w (Watch.statePart.set x w) :=
    fun _ _ _ _ hTurn => .files hTurn
  refine obeys_declarations ((obeys_store storage extract l).on Watch.statePart hOn) ?_
    fun file octets => (storage.obeys_discard file octets).on Watch.statePart hOn
  intro file
  have hCall : (Activity.atomic fun w : Watch σ =>
      ((), { w with calls := (n, .extract settings file.text) :: w.calls })).Obeys
      (Watch.turn storage settings libraries) (fun _ k => k = .shown n file l)
      (.file file (Utf8.encode l.stub)) :=
    .atomic fun w => ⟨_, .call hLibrary, rfl⟩
  have hAnswer : (Activity.atomic fun w : Watch σ =>
      ((), { w with calls := w.calls.erase (n, .extract settings file.text) })).Obeys
      (Watch.turn storage settings libraries) (fun _ k => k = .file file (Utf8.encode l.stub))
      (.shown n file l) :=
    .atomic fun w => ⟨_, .answer n file l _ _, rfl⟩
  refine hCall.bind fun _ k hShown => ?_
  subst hShown
  refine ((obeys_extract hExtract _ (.shown n file l)).on Watch.statePart hOn).bind
    fun reply k hShown => ?_
  subst hShown
  exact hAnswer.bind fun _ k hFile => hFile

end

/-! ## What is left at the end -/

/-- Searches that have come to their ends leave no file. -/
theorem interleave_files {τ α : Type} (filesOf : τ → Host.Files) (schedule : List Nat)
    (xs : List (Activity τ α)) (t : τ)
    (hObeys : ∀ x ∈ xs, x.Obeys (fun k k' t t' => FileTurn k k' (filesOf t) (filesOf t'))
      (fun _ k => k = .nothing) .nothing) :
    filesOf (Activity.interleave schedule xs t).2 = filesOf t := by
  obtain ⟨ks, hCustody, hEnd, hOutside⟩ := Activity.Obeys.interleave
    (fun ks t' => Custody (filesOf t) (Holding.content? ∘ ks) (filesOf t'))
    (fun _ _ _ _ _ h hTurn => h.step hTurn) schedule (fun _ => .nothing)
    (Custody.initial (filesOf t)) fun i x hx => hObeys x (List.mem_of_getElem? hx)
  refine hCustody.eq_start ?_
  intro i
  have hNothing : ks i = .nothing := by
    rcases Nat.lt_or_ge i xs.length with hi | hi
    · rw [← Activity.length_interleave schedule xs t] at hi
      exact hEnd i _ (List.getElem?_eq_getElem hi)
    · exact hOutside i hi
  exact congrArg Holding.content? hNothing

/-! ## What the calls see -/

theorem args_extract_inj {settings : Settings} {text text' : String}
    (h : (Extractor.Invocation.extract settings text).args.getLast? =
      (Extractor.Invocation.extract settings text').args.getLast?) : text = text' := by
  simpa [Extractor.Invocation.extract] using h

/-- The calls under way are those for which searches have shown their files, each made once. -/
structure UnderWay (settings : Settings) (libraries : List Library) (ks : Nat → Holding)
    (calls : List (Nat × Extractor.Invocation)) : Prop where
  once : calls.Nodup
  mem_iff (c : Nat × Extractor.Invocation) :
    c ∈ calls ↔ ∃ j n f l, ks j = .shown n f l ∧ c = (n, .extract settings f.text)
  listed {j n f l} : ks j = .shown n f l → libraries[n]? = some l

/-- Searches that have called the extractor with files of the same name are the same. -/
theorem eq_of_shown {settings : Settings} {ks : Nat → Holding} {start files : Host.Files}
    (hCustody : Custody start (Holding.content? ∘ ks) files) {i j n n' : Nat} {f g : File}
    {octets : List UInt8} {l : Library} (hi : (ks i).content? = some (f, octets))
    (hj : ks j = .shown n g l)
    (hText : (n, Extractor.Invocation.extract settings g.text) =
      (n', Extractor.Invocation.extract settings f.text)) : j = i :=
  hCustody.text_apart (congrArg Holding.content? hj) hi
    (args_extract_inj (congrArg (·.2.args.getLast?) hText))

namespace UnderWay

variable {settings : Settings} {libraries : List Library} {ks : Nat → Holding}
  {start files files' : Host.Files} {calls : List (Nat × Extractor.Invocation)} {i n : Nat}
  {k' : Holding}

theorem fileTurn (h : UnderWay settings libraries ks calls)
    (hTurn : FileTurn (ks i) k' files files') :
    UnderWay settings libraries (Function.update ks i k') calls := by
  rcases hTurn.eq_or_unshown with rfl | ⟨hBefore, hAfter⟩
  · rwa [Function.update_eq_self]
  -- the same files are shown as before
  have hShown : ∀ j n f l, Function.update ks i k' j = .shown n f l ↔ ks j = .shown n f l := by
    intro j n f l
    by_cases hSame : j = i
    · subst hSame
      rw [Function.update_self]
      exact iff_of_false (hAfter n f l) (hBefore n f l)
    · rw [Function.update_of_ne hSame]
  refine ⟨h.once, ?_, fun hj => h.listed ((hShown _ _ _ _).mp hj)⟩
  intro c
  simp only [hShown, h.mem_iff c]

theorem call (h : UnderWay settings libraries ks calls)
    (hCustody : Custody start (Holding.content? ∘ ks) files) {f : File} {octets : List UInt8}
    (hFile : ks i = .file f octets) {l : Library} (hLibrary : libraries[n]? = some l) :
    UnderWay settings libraries (Function.update ks i (.shown n f l))
      ((n, .extract settings f.text) :: calls) := by
  have hNe : ∀ {j n' g l'}, ks j = .shown n' g l' → j ≠ i := by
    rintro j n' g l' hj rfl
    rw [hFile] at hj
    cases hj
  refine ⟨List.nodup_cons.mpr ⟨?_, h.once⟩, ?_, ?_⟩
  · intro hAgain
    obtain ⟨j, n', g, l', hj, hText⟩ := (h.mem_iff _).mp hAgain
    exact hNe hj (eq_of_shown hCustody (congrArg Holding.content? hFile) hj hText.symm)
  · intro c
    rw [List.mem_cons, h.mem_iff c]
    constructor
    · rintro (rfl | ⟨j, n', g, l', hj, rfl⟩)
      · exact ⟨i, n, f, l, Function.update_self i _ ks, rfl⟩
      · exact ⟨j, n', g, l', by rwa [Function.update_of_ne (hNe hj)], rfl⟩
    · rintro ⟨j, n', g, l', hj, rfl⟩
      by_cases hSame : j = i
      · rw [hSame, Function.update_self] at hj
        cases hj
        exact .inl rfl
      · rw [Function.update_of_ne hSame] at hj
        exact .inr ⟨j, n', g, l', hj, rfl⟩
  · intro j n' g l' hj
    by_cases hSame : j = i
    · rw [hSame, Function.update_self] at hj
      cases hj
      exact hLibrary
    · rw [Function.update_of_ne hSame] at hj
      exact h.listed hj

theorem answer (h : UnderWay settings libraries ks calls)
    (hCustody : Custody start (Holding.content? ∘ ks) files) {f : File} {l : Library}
    (hShown : ks i = .shown n f l) (octets : List UInt8) :
    UnderWay settings libraries (Function.update ks i (.file f octets))
      (calls.erase (n, .extract settings f.text)) := by
  have hOthers : ∀ {j n' g l'}, Function.update ks i (.file f octets) j = .shown n' g l' →
      j ≠ i ∧ ks j = .shown n' g l' := by
    intro j n' g l' hj
    by_cases hSame : j = i
    · rw [hSame, Function.update_self] at hj
      cases hj
    · exact ⟨hSame, by rwa [Function.update_of_ne hSame] at hj⟩
  refine ⟨h.once.erase _, ?_, fun hj => h.listed (hOthers hj).2⟩
  intro c
  rw [h.once.mem_erase_iff, h.mem_iff c]
  constructor
  · rintro ⟨hOther, j, n', g, l', hj, rfl⟩
    refine ⟨j, n', g, l', ?_, rfl⟩
    rw [Function.update_of_ne, hj]
    rintro rfl
    rw [hShown] at hj
    cases hj
    exact hOther rfl
  · rintro ⟨j, n', g, l', hj, rfl⟩
    obtain ⟨hNe, hj⟩ := hOthers hj
    refine ⟨?_, j, n', g, l', hj, rfl⟩
    intro hText
    exact hNe (eq_of_shown hCustody (congrArg Holding.content? hShown) hj hText)

end UnderWay

/-- What holds of the files, and of the calls under way, when searches have these things. -/
def Attended (settings : Settings) (libraries : List Library) (start : Host.Files)
    (ks : Nat → Holding) (v : Host.Files × List (Nat × Extractor.Invocation)) : Prop :=
  Custody start (Holding.content? ∘ ks) v.1 ∧ UnderWay settings libraries ks v.2

theorem Attended.step {settings : Settings} {libraries : List Library} {start : Host.Files}
    {ks : Nat → Holding} {i : Nat} {k' : Holding}
    {v v' : Host.Files × List (Nat × Extractor.Invocation)}
    (h : Attended settings libraries start ks v)
    (hTurn : CallTurn settings libraries (ks i) k' v v') :
    Attended settings libraries start (Function.update ks i k') v' := by
  obtain ⟨hCustody, hUnderWay⟩ := h
  generalize hk : ks i = k at hTurn
  -- a call and its answer leave the file as it is
  have hSame : k'.content? = k.content? →
      Holding.content? ∘ Function.update ks i k' = Holding.content? ∘ ks := by
    intro hContent
    rw [Function.comp_update, hContent, ← hk]
    exact Function.update_eq_self i (Holding.content? ∘ ks)
  cases hTurn with
  | files hTurn =>
    subst hk
    exact ⟨hCustody.step hTurn, hUnderWay.fileTurn hTurn⟩
  | call hLibrary =>
    rw [Attended, hSame rfl]
    exact ⟨hCustody, hUnderWay.call hCustody hk hLibrary⟩
  | answer n file l =>
    rw [Attended, hSame rfl]
    exact ⟨hCustody, hUnderWay.answer hCustody hk _⟩

/-- At every moment each call under way has a file of its own, which holds the stub of the library
that its search is for. -/
theorem foldl_advance_calls {τ α : Type} (settings : Settings) (libraries : List Library)
    (view : τ → Host.Files × List (Nat × Extractor.Invocation)) (order : List Nat)
    (xs : List (Activity τ α)) (t : τ) (hNone : (view t).2 = [])
    (hObeys : ∀ x ∈ xs, x.Obeys
      (fun k k' t t' => CallTurn settings libraries k k' (view t) (view t'))
      (fun _ k => k = .nothing) .nothing) :
    let now := view (order.foldl Activity.advance (xs, t)).2
    (now.2.map (·.2.args.getLast?)).Nodup ∧
      ∀ c ∈ now.2, ∃ l text, libraries[c.1]? = some l ∧ c.2.args.getLast? = some text ∧
        holdsStub now.1 text l := by
  have hStart : Attended settings libraries (view t).1 (fun _ => .nothing) (view t) := by
    refine ⟨Custody.initial _, ?_, ?_, nofun⟩
    · rw [hNone]
      exact List.nodup_nil
    · intro c
      rw [hNone]
      refine iff_of_false nofun ?_
      rintro ⟨_, _, _, _, hNothing, -⟩
      cases hNothing
  obtain ⟨ks, ⟨hCustody, hUnderWay⟩, -⟩ := Activity.Obeys.foldl_advance
    (fun ks t' => Attended settings libraries (view t).1 ks (view t'))
    (fun _ _ _ _ _ h hTurn => h.step hTurn) order (fun _ => .nothing) hStart
    fun i x hx => hObeys x (List.mem_of_getElem? hx)
  refine ⟨?_, ?_⟩
  · refine hUnderWay.once.map_on ?_
    intro c hc c' hc' hArgs
    obtain ⟨j, n, f, l, hj, rfl⟩ := (hUnderWay.mem_iff c).mp hc
    obtain ⟨j', n', f', l', hj', rfl⟩ := (hUnderWay.mem_iff c').mp hc'
    have hSearch : j = j' := hCustody.text_apart (congrArg Holding.content? hj)
      (congrArg Holding.content? hj') (args_extract_inj hArgs)
    rw [hSearch, hj'] at hj
    cases hj
    rfl
  · intro c hc
    obtain ⟨j, n, f, l, hj, rfl⟩ := (hUnderWay.mem_iff c).mp hc
    have hContent : (Holding.content? ∘ ks) j = some (f, Utf8.encode l.stub) :=
      congrArg Holding.content? hj
    refine ⟨l, f.text, hUnderWay.listed hj, by simp [Extractor.Invocation.extract], ?_⟩
    rw [holdsStub, Host.Files.readOctets_eq_ok (hCustody.named hContent) (hCustody.there hContent)]
    exact beq_self_eq_true _

/-! ## Stubs -/

section

variable {σ : Type} (services : Services σ) (settings : Settings) (order : List Nat)

/-- A moment of a search. -/
def searching (l : Library) (x : σ) : Watch σ :=
  (order.foldl Activity.advance ([declarations (services.watched 0) settings l], ⟨x, []⟩)).2

/-- A moment of a batch. -/
def registering (libraries : List Library) (w : World σ) : Watch σ :=
  (order.foldl Activity.advance
    (libraries.mapIdx fun n l => registered (services.watched n) settings l,
      ⟨w.registry, ⟨w.outside, []⟩⟩)).2.outside

end

/-- The stub of a library is in its file as long as the extractor is at it, and no longer than the
search. Whatever the extractor answers, and whether the file can be made and written or not: a
search leaves the files as they were, and while its call of the extractor is under way, the last
argument names a file with the stub. So it is for a batch too, in any order of steps: each call has
a file of its own, with the stub of the library that it is for. -/
theorem stub_lives_while_extracting {σ : Type} (storage : Storage σ)
    (extract : Extractor.Invocation → Activity σ Reply) (settings : Settings)
    (hExtract : LeavesFiles storage extract) :
    let services := scratchServices storage extract
    (∀ l x, storage.files.get ((declarations services settings l).run x).2 = storage.files.get x) ∧
    (∀ l x order, ∀ c ∈ (searching services settings order l x).calls,
      ∃ text, c.2.args.getLast? = some text ∧
        holdsStub (storage.files.get (searching services settings order l x).state) text l) ∧
    (∀ schedule libraries w,
      storage.files.get (registerAll services settings schedule libraries w).2.outside =
        storage.files.get w.outside) ∧
    ∀ libraries w order,
      ((registering services settings order libraries w).calls.map (·.2.args.getLast?)).Nodup ∧
      ∀ c ∈ (registering services settings order libraries w).calls,
        ∃ l text, libraries[c.1]? = some l ∧ c.2.args.getLast? = some text ∧
          holdsStub (storage.files.get (registering services settings order libraries w).state)
            text l := by
  refine ⟨?_, ?_, ?_, ?_⟩
  · intro l x
    refine interleave_files storage.files.get [] [declarations _ settings l] x ?_
    intro y hy
    cases List.mem_singleton.mp hy
    exact obeys_search hExtract settings l
  · intro l x order c hc
    have hLibrary : [l][0]? = some l := rfl
    have hCalls := foldl_advance_calls settings [l] (Watch.view storage) order
      [declarations ((scratchServices storage extract).watched 0) settings l] ⟨x, []⟩ rfl (by
        intro y hy
        cases List.mem_singleton.mp hy
        exact obeys_watched hExtract settings hLibrary)
    obtain ⟨l', text, hl', hHolds⟩ := hCalls.2 c hc
    cases List.mem_singleton.mp (List.mem_of_getElem? hl')
    exact ⟨text, hHolds⟩
  · intro schedule libraries w
    rw [registerAll_eq]
    refine interleave_files (fun w : World σ => storage.files.get w.outside) schedule _ w ?_
    intro y hy
    obtain ⟨l, -, rfl⟩ := List.mem_map.mp hy
    exact obeys_registered (fun _ => .keep _ _) (obeys_search hExtract settings l)
  · intro libraries w order
    refine foldl_advance_calls settings libraries
      (fun w : World (Watch σ) => w.outside.view storage) order _
      ⟨w.registry, ⟨w.outside, []⟩⟩ rfl ?_
    intro y hy
    obtain ⟨n, hn, rfl⟩ := List.mem_mapIdx.mp hy
    exact obeys_registered (fun _ => .files (.keep _ _))
      (obeys_watched hExtract settings (List.getElem?_eq_getElem hn))

/-- Files in the directory for temporary files, and an extractor that breaks off. -/
def temporary : Storage Host.Files where
  files := .whole
  directory := systemDirectory

def breaksOff (_ : Extractor.Invocation) : Activity Host.Files Reply :=
  .atomic fun files => (.brokenOff, files)

/-- When two searches for the same library have taken three steps each, both have called the
extractor, with different files; when both have broken off, the files are gone. -/
theorem stub_lives_while_extracting_broken_off :
    (registering (scratchServices temporary breaksOff) {} [0, 0, 1, 0, 1, 1] [.rbd, .rbd]
        ⟨.empty, .initial⟩).calls.map (fun c => (c.1, c.2.args.getLast?)) =
      [(1, some "/tmp/.tmp000001-rbd.c"), (0, some "/tmp/.tmp000000-rbd.c")] ∧
    (registerAll (scratchServices temporary breaksOff) {} [0, 0, 1, 0, 1, 1] [.rbd, .rbd]
        ⟨.empty, .initial⟩).2.outside = .initial := by
  have hLeaves : LeavesFiles temporary breaksOff := fun _ _ => ⟨rfl, trivial⟩
  refine ⟨by decide +kernel, ?_⟩
  exact (stub_lives_while_extracting temporary breaksOff {} hLeaves).2.2.1 [0, 0, 1, 0, 1, 1]
    [.rbd, .rbd] ⟨.empty, .initial⟩

end BindingCoverage.Verification
