import Mathlib
import BindingCoverage.Host.Machine.Run
import BindingCoverage.Proofs.Results

/-!
# The record of a machine

What happens to the files and what comes out of the output pipes is kept as a record, and the record
is all that is needed: the files are those of the start with the changes made in their order, and
the times in the record never fall. A pipe knows how much it holds. `Sound` says this of a machine;
most requests touch none of it (`Silent`), and the others are treated one by one.

* `Sound.step`: a step keeps it.
* `sound_run`: so it holds after any number of steps.
* `takeParts_join`: what is read from a pipe is what was written first.
-/

namespace BindingCoverage.Host.Machine

/-! ## What is kept of a machine -/

/-- The times fall from the latest to the first, and none is later than now. -/
def LatestFirst (now : Nat) (times : List Nat) : Prop :=
  times.Pairwise (fun later earlier => earlier ≤ later) ∧ ∀ t ∈ times, t ≤ now

theorem LatestFirst.cons {now : Nat} {times : List Nat} (h : LatestFirst now times) :
    LatestFirst now (now :: times) :=
  ⟨h.1.cons h.2, List.forall_mem_cons.mpr ⟨le_rfl, h.2⟩⟩

theorem LatestFirst.later {now now' : Nat} {times : List Nat} (h : LatestFirst now times)
    (hLater : now ≤ now') : LatestFirst now' times :=
  ⟨h.1, fun t ht => (h.2 t ht).trans hLater⟩

/-- The pipe knows how much it holds. -/
def Measured (b : PipeBuffer) : Prop := b.size = (b.parts.map String.length).sum

/-- The files are those of the start with all changes made, the times in the record never fall, and
all pipes know how much they hold. -/
structure Sound (start : Files) (m : Machine) : Prop where
  files : m.files = m.changes.foldr (fun c files => files.edit c.path c.edit) start
  changes : LatestFirst m.now (m.changes.map (·.moment.time))
  written : LatestFirst m.now (m.written.map (·.moment.time))
  pipes : ∀ b ∈ m.pipes, Measured b

/-- What does not touch the record, the pipes or the clock. -/
structure Silent (m m' : Machine) : Prop where
  files : m'.files = m.files := by rfl
  changes : m'.changes = m.changes := by rfl
  written : m'.written = m.written := by rfl
  pipes : m'.pipes = m.pipes := by rfl
  now : m'.now = m.now := by rfl

namespace Silent

variable {m m' m'' : Machine}

theorem refl (m : Machine) : Silent m m := {}

theorem trans (h : Silent m m') (h' : Silent m' m'') : Silent m m'' :=
  ⟨h'.files.trans h.files, h'.changes.trans h.changes, h'.written.trans h.written,
    h'.pipes.trans h.pipes, h'.now.trans h.now⟩

theorem update (m : Machine) (number : Nat) (f : Process → Process) :
    Silent m (m.update number f) := {}

theorem noteReleases (m : Machine) : Silent m m.noteReleases := {}

theorem finish (m : Machine) (number : Nat) (status : ExitStatus) :
    Silent m (m.finish number status) := {}

theorem deliver (m : Machine) (signal number : Nat) : Silent m (m.deliver signal number) := by
  unfold Machine.deliver
  cases m.process? number with
  | none => exact refl m
  | some p =>
    dsimp only
    split
    · split_ifs <;> constructor <;> rfl
    · split_ifs <;> constructor <;> rfl
    · split
      · exact refl m
      · exact update m number _
      · exact update m number _
      · split_ifs
        · exact finish m number _
        · exact refl m

theorem send (m : Machine) (sender : Process) (target : Int) (signal : Nat) :
    Silent m (m.send sender target signal).2 := by
  have hAll : ∀ (numbers : List Nat) (m : Machine),
      Silent m (numbers.foldl (fun m n => m.deliver signal n) m) := by
    intro numbers
    induction numbers with
    | nil => exact refl
    | cons n rest ih => exact fun m => (deliver m signal n).trans (ih _)
  unfold Machine.send
  split_ifs
  · exact refl m
  · split <;> exact refl m
  · split
    · exact refl m
    · exact hAll _ m

theorem withOpenFile (m : Machine) (number : Nat) (o : OpenFile) :
    Silent m (m.withOpenFile number o).2 := {}

theorem duplicate (m : Machine) (p : Process) (descriptor least : Nat) (closes : Bool) :
    Silent m (m.duplicate p descriptor least closes).2 := by
  unfold Machine.duplicate
  split
  · exact refl m
  · exact update m _ _

theorem assign (m : Machine) (p : Process) (source target : Nat) :
    Silent m (m.assign p source target).2 := by
  unfold Machine.assign
  split
  · exact refl m
  · split_ifs
    · exact refl m
    · exact (update m _ _).trans (noteReleases _)

theorem close (m : Machine) (p : Process) (descriptor : Nat) :
    Silent m (m.close p descriptor).2 := by
  unfold Machine.close
  split
  · exact refl m
  · exact (update m _ _).trans (noteReleases _)

theorem waited (m : Machine) (p : Process) : Silent m (m.waited p).2 := by
  unfold Machine.waited
  split
  · exact {}
  · split_ifs <;> exact refl m

theorem enter (m : Machine) (p : Process) (path : Path) : Silent m (m.enter p path).2 := by
  unfold Machine.enter
  split
  · exact update m _ _
  · exact refl m
  · exact refl m

theorem leave (m : Machine) (p : Process) : Silent m (m.leave p).2 := by
  unfold Machine.leave
  split_ifs
  · exact refl m
  · exact (update m _ _).trans (noteReleases _)

theorem replace {installed : Installed} {p : Process} {path : String} {arguments : List String}
    {environment : Environment}
    (h : m.replace installed p path arguments environment = .ok m') : Silent m m' := by
  unfold Machine.replace at h
  cases hImage : Image.start (m.filesFor p) path arguments with
  | error e =>
    rw [hImage] at h
    cases h
  | ok image =>
    rw [hImage] at h
    cases h
    exact (update m _ _).trans (noteReleases _)

theorem split (m : Machine) (p : Process) (child : Action) (next : Nat → Action) :
    Silent m (m.split p child next) := {}

end Silent

/-! ## Pipes -/

/-- What is taken out of a pipe was written first, and nothing is lost. -/
theorem takeParts_join (limit : Nat) (parts : List String) :
    String.join (takeParts limit parts).1 ++ String.join (takeParts limit parts).2 =
      String.join parts := by
  induction parts generalizing limit with
  | nil => rfl
  | cons part rest ih =>
    rw [takeParts]
    split_ifs with hWhole hNone
    · rw [String.join_cons, String.join_cons, String.append_assoc, ih]
    · rw [String.join_nil, String.empty_append]
    · -- the first part is cut in two
      have hCut : String.ofList (part.toList.take limit) ++ String.ofList (part.toList.drop limit) =
          part := by
        rw [← String.ofList_append, List.take_append_drop, String.ofList_toList]
      rw [String.join_cons, String.join_nil, String.append_empty, String.join_cons,
        ← String.append_assoc, hCut, String.join_cons]

/-- No more is taken than is asked for. -/
theorem length_takeParts_le (limit : Nat) (parts : List String) :
    (String.join (takeParts limit parts).1).length ≤ limit := by
  induction parts generalizing limit with
  | nil => exact Nat.zero_le limit
  | cons part rest ih =>
    rw [takeParts]
    split_ifs with hWhole hNone
    · have hRest := ih (limit - part.length)
      rw [String.join_cons, String.length_append]
      omega
    · exact Nat.zero_le limit
    · rw [String.join_cons, String.join_nil, String.append_empty, String.length_ofList,
        List.length_take]
      omega

theorem measured_iff {b : PipeBuffer} : Measured b ↔ b.size = (String.join b.parts).length := by
  rw [Measured, String.length_join]

theorem Measured.take {b : PipeBuffer} (h : Measured b) (limit : Nat) :
    Measured ⟨(takeParts limit b.parts).2,
      b.size - (String.join (takeParts limit b.parts).1).length⟩ := by
  have hLength := congrArg String.length (takeParts_join limit b.parts)
  rw [String.length_append] at hLength
  rw [measured_iff] at h ⊢
  dsimp only
  omega

theorem Measured.append {b : PipeBuffer} (h : Measured b) (s : String) :
    Measured ⟨b.parts ++ [s], b.size + s.length⟩ := by
  rw [measured_iff] at h ⊢
  dsimp only
  rw [String.join_append, String.length_append, h, String.join_cons, String.join_nil,
    String.append_empty]

/-! ## One step -/

namespace Sound

variable {start : Files} {m m' : Machine}

theorem of_silent (h : Sound start m) (hSilent : Silent m m') : Sound start m' where
  files := by rw [hSilent.files, hSilent.changes, h.files]
  changes := by rw [hSilent.now, hSilent.changes]; exact h.changes
  written := by rw [hSilent.now, hSilent.written]; exact h.written
  pipes := by rw [hSilent.pipes]; exact h.pipes

theorem record (h : Sound start m) (p : Process) (path : Path) (edit : Edit) :
    Sound start (m.record p path edit) :=
  { h with
    files := congrArg (·.edit path edit) h.files
    changes := h.changes.cons }

theorem setPipe (h : Sound start m) {b : PipeBuffer} (hb : Measured b) (pipe moved : Nat) :
    Sound start { m with pipes := m.pipes.setIfInBounds pipe b, moved } :=
  { h with
    pipes := fun b' hb' => (Array.mem_or_eq_of_mem_setIfInBounds hb').elim (h.pipes b') (· ▸ hb) }

theorem openAt (h : Sound start m) {p : Process} {path : Path} {o : Opening} {channel : Channel}
    (hOpened : m.openAt p path o = .ok (channel, m')) : Sound start m' := by
  unfold Machine.openAt at hOpened
  repeat' split at hOpened
  all_goals first
    | cases hOpened; exact h
    | cases hOpened; exact h.record p _ _
    | cases hOpened

theorem openFile (h : Sound start m) {p : Process} {path : String} {o : Opening} {d : Nat}
    (hOpened : m.openFile p path o = .ok (d, m')) : Sound start m' := by
  obtain ⟨place, -, hRest⟩ := exists_of_bind_eq_ok hOpened
  dsimp only at hRest
  split_ifs at hRest
  · cases hRest
  · obtain ⟨⟨channel, m''⟩, hPlace, hLast⟩ := exists_of_bind_eq_ok hRest
    cases hLast
    exact (h.openAt hPlace).of_silent (.withOpenFile _ _ _)

theorem makePipe (h : Sound start m) (number : Nat) : Sound start (m.makePipe number).2 := by
  have hPushed : Sound start { m with pipes := m.pipes.push {} } :=
    { h with
      pipes := fun b hb => (Array.mem_push.mp hb).elim (h.pipes b) fun hNew => hNew ▸ rfl }
  exact hPushed.of_silent ((Silent.withOpenFile _ _ _).trans (Silent.withOpenFile _ _ _))

theorem read (h : Sound start m) (p : Process) (descriptor limit : Nat) :
    Sound start (m.read p descriptor limit).2 := by
  unfold Machine.read
  split
  · exact h
  · split
    · exact h
    · exact h
    · exact h
    · exact h
    · exact h.of_silent {}
    · split
      · exact h.of_silent {}
      · exact h
    · split
      · exact h
      · next buffer hBuffer =>
        exact h.setPipe ((h.pipes buffer (Array.mem_of_getElem? hBuffer)).take limit) _ _

theorem write (h : Sound start m) (p : Process) (descriptor : Nat) (s : String) :
    Sound start (m.write p descriptor s).2 := by
  unfold Machine.write
  split
  · exact h
  · next index o hWritable =>
    have hMoved : Sound start { m with moved := m.moved + s.length } := h.of_silent {}
    dsimp only
    split
    · exact hMoved
    · exact hMoved
    · exact hMoved
    · exact hMoved
    · exact { hMoved with written := hMoved.written.cons }
    · next path hPath =>
      split
      · next octets executable hFile =>
        exact (hMoved.record p path (.splice (if o.appends then octets.length else o.offset)
          (Octets.toList s))).of_silent {}
      · exact hMoved
    · next pipe hPipe =>
      split_ifs
      · refine hMoved.setPipe (Measured.append ?_ s) pipe _
        cases hBuffer : m.pipes[pipe]? with
        | none => rfl
        | some b => exact h.pipes b (Array.mem_of_getElem? hBuffer)
      · exact hMoved.of_silent (Silent.deliver _ _ _)

/-- Whatever a process asks for. -/
theorem serve (h : Sound start m) (installed : Installed) (p : Process) (r : Request)
    (next : r.Reply → Action) : Sound start (m.serve installed p r next) := by
  cases r with
  | replace path arguments environment =>
    rw [Machine.serve]
    split
    · next m' hReplaced => exact h.of_silent (.replace hReplaced)
    · exact h.of_silent (.update _ _ _)
  | openFile path o =>
    cases hOpened : m.openFile p path o with
    | error e =>
      simp only [Machine.serve, hOpened]
      exact h.of_silent (.update _ _ _)
    | ok opened =>
      obtain ⟨d, m'⟩ := opened
      simp only [Machine.serve, hOpened]
      exact (h.openFile hOpened).of_silent (.update _ _ _)
  | read d limit => exact (h.read p d limit).of_silent (.update _ _ _)
  | write d s => exact (h.write p d s).of_silent (.update _ _ _)
  | pipe => exact (h.makePipe p.number).of_silent (.update _ _ _)
  | change path node => exact (h.record p path _).of_silent (.update _ _ _)
  | duplicate d least closes =>
    exact h.of_silent ((Silent.duplicate m p d least closes).trans (.update _ _ _))
  | assign source target =>
    exact h.of_silent ((Silent.assign m p source target).trans (.update _ _ _))
  | close d => exact h.of_silent ((Silent.close m p d).trans (.update _ _ _))
  | wait limit => exact h.of_silent ((Silent.waited m p).trans (.update _ _ _))
  | signal target signal =>
    exact h.of_silent ((Silent.send m p target signal).trans (.update _ _ _))
  | leave => exact h.of_silent ((Silent.leave m p).trans (.update _ _ _))
  | enter path => exact h.of_silent ((Silent.enter m p path).trans (.update _ _ _))
  | pass | stall | dispose | caught | identity | files | size => exact h.of_silent {}

end Sound

theorem now_le_of_nextProcess? {m : Machine} {t : Nat} {p : Process}
    (h : m.nextProcess? = some (t, p)) : m.now ≤ t := by
  have hAll : ∀ u q, m.nextProcess? = some (u, q) → m.now ≤ u := by
    unfold nextProcess?
    refine List.foldlRecOn (motive := fun best => ∀ u q, best = some (u, q) → m.now ≤ u)
      m.processes _ nofun ?_
    intro best hBest p _ u q hNext
    split at hNext
    · exact hBest u q hNext
    · cases hNext
      exact le_max_right _ _
    · split_ifs at hNext
      · cases hNext
        exact le_max_right _ _
      · exact hBest u q hNext
  exact hAll t p h

namespace Sound

variable {start : Files} {m m' : Machine}

theorem step (h : Sound start m) {installed : Installed} {horizon : Option Nat}
    (hStep : m.step? installed horizon = some m') : Sound start m' := by
  obtain ⟨⟨now, p⟩, hNext, hRest⟩ := Option.bind_eq_some_iff.mp hStep
  have hLater := now_le_of_nextProcess? hNext
  have hNow : Sound start { m with now } :=
    { h with changes := h.changes.later hLater, written := h.written.later hLater }
  dsimp only at hRest
  split_ifs at hRest
  · cases hRest
  obtain rfl := Option.some.inj hRest
  split
  · exact hNow.of_silent (.finish _ _ _)
  · exact hNow.of_silent (.split _ _ _ _)
  · exact hNow.serve installed p _ _

theorem run (h : Sound start m) (installed : Installed) (horizon : Option Nat) (most fuel : Nat) :
    Sound start (m.run installed horizon most fuel) := by
  induction fuel generalizing m with
  | zero => exact h
  | succ fuel ih =>
    rw [Machine.run]
    split_ifs
    · exact h
    · split
      · exact h
      · next m' hStep => exact ih (h.step hStep)

end Sound

theorem sound_initial (files : Files) (action : Action) : Sound files (initial files action) where
  files := rfl
  changes := ⟨.nil, nofun⟩
  written := ⟨.nil, nofun⟩
  pipes := nofun

/-- However long a machine runs, the files are those that it was started with after all changes in
the record, and the times in the record never fall. -/
theorem sound_run (installed : Installed) (horizon : Option Nat) (most fuel : Nat) (files : Files)
    (action : Action) : Sound files ((initial files action).run installed horizon most fuel) :=
  (sound_initial files action).run installed horizon most fuel

end BindingCoverage.Host.Machine
