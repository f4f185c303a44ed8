import Mathlib
import BindingCoverage.Extractor.Process
import BindingCoverage.Proofs.Host.Files
import BindingCoverage.Proofs.Host.Machine

/-!
# The record of a process

The course of a process and its changes to the files are read off the record of a machine, so what
is shown for every machine (`Host.Machine.Sound`) is shown for every process.

* `writes_follow`: what a process writes to a pipe comes with rising times.
* `filesAfter_follow`: all changes together lead to the files that the machine has in the end.
* `get?_filesAfter`: whatever happens, what no change is about stays as it was.
-/

namespace BindingCoverage.Extractor.Process

open Host (Machine Files Node Path)

variable {files : Files} {m : Machine}

/-! ## A machine on which something is started -/

theorem sound_machine {i : Invocation} (h : machine files i = .ok m) : m.Sound files := by
  unfold machine at h
  split_ifs at h
  · cases h
  · obtain ⟨⟨name, arguments⟩, -, hStart⟩ := exists_of_bind_eq_ok h
    cases hStart
    exact Machine.sound_initial files _

/-! ## What is read off the record -/

theorem writes_ofMachine (h : m.Sound files) (s : Host.Stream) :
    ((ofMachine m).course.pipe s).writes.Pairwise (·.time ≤ ·.time) := by
  have hTimes : m.written.reverse.Pairwise (·.moment.time ≤ ·.moment.time) :=
    List.pairwise_reverse.mpr (List.pairwise_map.mp h.written.1)
  have hWrites : ∀ s : Host.Stream, ((m.written.reverse.filter (·.stream == s)).map fun w =>
      (⟨w.moment.time, w.octets, w.moment.isOutside⟩ : Write)).Pairwise (·.time ≤ ·.time) :=
    fun s => List.pairwise_map.mpr (hTimes.filter _)
  cases s with
  | stdout => exact hWrites .stdout
  | stderr => exact hWrites .stderr

theorem filesAfter_ofMachine (h : m.Sound files) {ended : Nat} (hEnded : m.now ≤ ended) :
    (ofMachine m).filesAfter files none ended = m.files := by
  have hSeen : (ofMachine m).changes.filter (fun c => c.moment.time ≤ ended &&
      (c.moment.isOutside || (none : Option Nat).all (c.moment.time ≤ ·))) = m.changes.reverse := by
    refine List.filter_eq_self.mpr fun c hc => ?_
    have hTime : c.moment.time ≤ m.now :=
      h.changes.2 c.moment.time (List.mem_map_of_mem (List.mem_reverse.mp hc))
    simpa using hTime.trans hEnded
  rw [filesAfter, hSeen, List.foldl_reverse, h.files]

/-- What a process writes to a pipe comes with rising times, as a course has it. -/
theorem writes_follow {i : Invocation} (h : machine files i = .ok m) (horizon : Option Nat)
    (s : Host.Stream) :
    ((follow m horizon).course.pipe s).writes.Pairwise (·.time ≤ ·.time) :=
  writes_ofMachine ((sound_machine h).run _ _ _ _) s

/-- If nobody kills a process, and nothing of it comes after the end of the run, the files are those
that its machine has in the end. -/
theorem filesAfter_follow {i : Invocation} (h : machine files i = .ok m) {horizon : Option Nat}
    {ended : Nat}
    (hEnded : (m.run Host.installed horizon octetLimit stepLimit).now ≤ ended) :
    (follow m horizon).filesAfter files none ended =
      (m.run Host.installed horizon octetLimit stepLimit).files :=
  filesAfter_ofMachine ((sound_machine h).run _ _ _ _) hEnded

/-! ## What stays -/

theorem get?_edit_of_ne {path other : Path} {node : Node} (h : path ≠ other)
    (hThere : files.get? path = some node) (e : Host.Edit) :
    (files.edit other e).get? path = some node := by
  cases e with
  | put added => exact Files.get?_add_of_ne h hThere added
  | remove => rwa [Files.edit, Files.get?_remove_of_ne h]
  | splice offset octets =>
    rw [Files.edit]
    split
    · exact Files.get?_add_of_ne h hThere _
    · exact hThere

/-- What is there, and what no change is about, is there when the run is over, whether the process
is killed or not. -/
theorem get?_filesAfter {p : Process} {path : Path} {node : Node}
    (hThere : files.get? path = some node) (hUntouched : ∀ c ∈ p.changes, c.path ≠ path)
    (kill : Option Nat) (ended : Nat) :
    (p.filesAfter files kill ended).get? path = some node := by
  rw [filesAfter]
  refine List.foldlRecOn (motive := fun f => Files.get? f path = some node) _ _ hThere ?_
  intro f hf c hc
  exact get?_edit_of_ne (hUntouched c (List.mem_of_mem_filter hc)).symm hf c.edit

end BindingCoverage.Extractor.Process
