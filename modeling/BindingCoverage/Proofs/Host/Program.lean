import Mathlib
import BindingCoverage.Host.Program

/-!
# Runs of programs

`Goes d x s y` says what an action does that reads from a descriptor and writes: the input comes in
parts, as a pipe gives it, and everything that is written can be written. Programs come after one
another (`Goes.trans`), and whatever blocks a text is cut into, it is written as a whole
(`goes_write`).
-/

namespace BindingCoverage.Host.Program

instance : LawfulMonad Program := LawfulMonad.mk'
  Program (fun _ => rfl) (fun _ _ => rfl) (fun _ _ _ => rfl)

/-! ## Blocks -/

theorem join_blocksOf (s : List Char) : String.join (blocksOf s) = String.ofList s := by
  induction s using blocksOf.induct with
  | case1 s h =>
    rw [blocksOf, if_pos h, List.isEmpty_iff.mp h]
    rfl
  | case2 s h ih =>
    rw [blocksOf, if_neg h, String.join_cons, ih, ← String.ofList_append, List.take_append_drop]

theorem of_mem_blocksOf {s : List Char} {block : String} (h : block ∈ blocksOf s) :
    block ≠ "" ∧ block.length ≤ blockSize := by
  induction s using blocksOf.induct with
  | case1 s hEmpty =>
    rw [blocksOf, if_pos hEmpty] at h
    cases h
  | case2 s hFull ih =>
    rw [blocksOf, if_neg hFull] at h
    rcases List.mem_cons.mp h with rfl | h
    · have hLength : (String.ofList (s.take blockSize)).length = min blockSize s.length := by
        rw [String.length_ofList, List.length_take]
      have hPositive : 0 < s.length := by
        rw [List.isEmpty_iff] at hFull
        exact List.length_pos_iff.mpr hFull
      refine ⟨fun hNone => ?_, by omega⟩
      rw [hNone, String.length_empty, blockSize] at hLength
      omega
    · exact ih h

theorem join_blocks (s : String) : String.join (blocks s) = s := by
  unfold blocks
  split_ifs with hEmpty
  · rw [String.isEmpty_iff.mp hEmpty]
    rfl
  · rw [String.join_cons, String.join_nil, String.append_empty]
  · rw [join_blocksOf, String.ofList_toList]

/-- Every block goes into a pipe at once, and is worth writing. -/
theorem of_mem_blocks {s block : String} (h : block ∈ blocks s) :
    block ≠ "" ∧ block.length ≤ blockSize := by
  unfold blocks at h
  split_ifs at h with hEmpty hShort
  · cases h
  · obtain rfl := List.mem_singleton.mp h
    exact ⟨fun hNone => hEmpty (String.isEmpty_iff.mpr hNone), hShort⟩
  · exact of_mem_blocksOf h

/-! ## Runs -/

/-- An action with input to read comes to another one with what is left of the input, and writes a
text on the way. -/
inductive Goes (d : Nat) : Action × List String → String → Action × List String → Prop where
  | refl (x : Action × List String) : Goes d x "" x
  | read {limit : Nat} {next : Except SystemError String → Action} {part : String}
      {parts : List String} {s : String} {y : Action × List String} (fits : part.length ≤ limit)
      (rest : Goes d (next (.ok part), parts) s y) :
      Goes d (.ask (.read d limit) next, part :: parts) s y
  | ended {limit : Nat} {next : Except SystemError String → Action} {s : String}
      {y : Action × List String} (rest : Goes d (next (.ok ""), []) s y) :
      Goes d (.ask (.read d limit) next, []) s y
  | write {next : Except SystemError Unit → Action} {parts : List String} {text s : String}
      {y : Action × List String} (rest : Goes d (next (.ok ()), parts) s y) :
      Goes d (.ask (.write 1 text) next, parts) (text ++ s) y

variable {d : Nat} {parts : List String}

theorem Goes.trans {x y z : Action × List String} {s t : String} (h : Goes d x s y)
    (h' : Goes d y t z) : Goes d x (s ++ t) z := by
  induction h with
  | refl => rwa [String.empty_append]
  | read fits _ ih => exact .read fits (ih h')
  | ended _ ih => exact .ended (ih h')
  | write _ ih =>
    rw [String.append_assoc]
    exact .write (ih h')

/-- Whatever a text is cut into, it is written as a whole. -/
theorem goes_writeBlocks (blocks : List String) (next : Except SystemError Unit → Action) :
    Goes d (writeBlocks 1 blocks next, parts) (String.join blocks) (next (.ok ()), parts) := by
  induction blocks with
  | nil => exact .refl _
  | cons block rest ih =>
    rw [String.join_cons]
    exact .write ih

theorem goes_write (s : String) (next : Except SystemError Unit → Action) :
    Goes d (write 1 s next, parts) s (next (.ok ()), parts) := by
  have hBlocks := @goes_writeBlocks d parts (blocks s) next
  rwa [join_blocks] at hBlocks

end BindingCoverage.Host.Program
