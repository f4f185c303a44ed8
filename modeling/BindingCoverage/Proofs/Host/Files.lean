import Mathlib
import BindingCoverage.Host.Files
import BindingCoverage.Proofs.Results
import BindingCoverage.Proofs.Text.Utf8

/-!
# Paths and what they name

* `get?_put_self`, `get?_put_of_ne`, `get?_add_of_ne`, `get?_remove_of_ne`: what a path names after
  a change.
* `resolve_of_keeps`: a text goes on naming the same path while that is there, and while directories
  stay directories.
* `of_vacancy`: something put where there was a vacancy is what the text names from then on.
-/

namespace BindingCoverage.Host.Files

/-! ## What paths name -/

theorem get?_eq_none {f : Files} {path : Path} :
    f.get? path = none ↔ ∀ e ∈ f.nodes, e.1 ≠ path := by
  simp only [get?, Option.map_eq_none_iff, List.find?_eq_none, beq_iff_eq, ne_eq]

theorem get?_put_self (f : Files) (path : Path) (node : Node) :
    (f.put path node).get? path = some node := by
  simp [get?, put]

theorem get?_remove_of_ne {path other : Path} (h : path ≠ other) (f : Files) :
    (f.remove other).get? path = f.get? path := by
  simp only [get?, remove, List.find?_filter]
  congr 2
  funext e
  by_cases hPath : e.1 = path
  · simp [hPath, h]
  · simp [hPath]

theorem get?_put_of_ne {path other : Path} (h : path ≠ other) (f : Files) (node : Node) :
    (f.put other node).get? path = f.get? path := by
  rw [← get?_remove_of_ne h f]
  simp [get?, put, remove, h.symm]

/-- Only paths that named nothing become directories when something is added. -/
theorem get?_add_of_ne {f : Files} {path other : Path} {node : Node} (h : path ≠ other)
    (hThere : f.get? path = some node) (added : Node) :
    (f.add other added).get? path = some node := by
  have hParents : ((((List.range other.length).map other.take).filter fun p =>
      (f.get? p).isNone).map (·, Node.directory)).find? (·.1 == path) = none := by
    rw [List.find?_eq_none]
    intro e he hPath
    obtain ⟨p, hp, rfl⟩ := List.mem_map.mp he
    obtain rfl : p = path := by simpa using hPath
    have hNone := (List.mem_filter.mp hp).2
    rw [hThere] at hNone
    cases hNone
  rw [get?, add, List.cons_append, List.find?_cons_of_neg (by simpa using h.symm),
    List.find?_append, hParents, Option.none_or]
  rwa [← get?_remove_of_ne h f] at hThere

theorem remove_of_get?_eq_none {f : Files} {path : Path} (h : f.get? path = none) :
    f.remove path = f := by
  have hNodes : f.nodes.filter (·.1 != path) = f.nodes := by
    rw [List.filter_eq_self]
    intro e he
    simpa using get?_eq_none.mp h e he
  rw [remove, hNodes]

theorem remove_put_self (f : Files) (path : Path) (node : Node) :
    (f.put path node).remove path = f.remove path := by
  simp only [put, remove, List.filter_cons, bne_self_eq_false, Bool.false_eq_true, if_false,
    List.filter_filter, Bool.and_self]

/-! ## Where texts lead -/

theorem walk_append (f : Files) (place : Path) (names names' : List String) :
    f.walk place (names ++ names') = f.walk place names >>= fun p => f.walk p names' := by
  induction names generalizing place with
  | nil => rfl
  | cons name rest ih =>
    simp only [List.cons_append, walk]
    split
    · split_ifs
      · exact ih _
      · exact ih _
      · rfl
      · rfl
      · exact ih _
    · rfl
    · rfl

/-- Only from a directory does a way go on. -/
theorem walk_eq_ok {f : Files} {place path : Path} {names : List String}
    (h : f.walk place names = .ok path) : place = path ∨ f.get? place = some .directory := by
  cases names with
  | nil => exact .inl (Except.ok.inj h)
  | cons name rest =>
    simp only [walk] at h
    split at h
    · next hDirectory => exact .inr hDirectory
    · cases h
    · cases h

section

variable {f f' : Files} (hKeeps : ∀ p, f.get? p = some .directory → f'.get? p = some .directory)

include hKeeps

theorem walk_of_keeps {names : List String} {place path : Path}
    (h : f.walk place names = .ok path) (hThere : f'.get? path ≠ none) :
    f'.walk place names = .ok path := by
  induction names generalizing place with
  | nil => exact h
  | cons name rest ih =>
    simp only [walk] at h
    split at h
    · next hDirectory =>
      simp only [walk, hKeeps place hDirectory]
      split_ifs at h ⊢
      · exact ih h
      · exact ih h
      · next hNone _ =>
        -- the next path is the last one, or a directory
        rw [Option.isNone_iff_eq_none] at hNone
        rcases walk_eq_ok h with rfl | hNext
        · exact absurd hNone hThere
        · rw [hKeeps _ hNext] at hNone
          cases hNone
      · exact ih h
    · cases h
    · cases h

theorem resolve_of_keeps (hWorking : f'.working = f.working) {text : String} {path : Path}
    (h : f.resolve text = .ok path) (hThere : f'.get? path ≠ none) :
    f'.resolve text = .ok path := by
  unfold resolve at h ⊢
  rw [hWorking]
  split_ifs at h ⊢
  · exact walk_of_keeps hKeeps h hThere
  · exact walk_of_keeps hKeeps h hThere

end

theorem readOctets_eq_ok {f : Files} {text : String} {path : Path} {octets : List UInt8}
    {executable : Bool} (hNamed : f.resolve text = .ok path)
    (hThere : f.get? path = some (.file octets executable)) : f.readOctets text = .ok octets := by
  have hNode : f.node text = .ok (.file octets executable) := by
    rw [node, hNamed]
    simp only [bind, Except.bind, hThere]
    rfl
  rw [readOctets, hNode]
  rfl

/-- A file that holds the octets of a text is read as that text. -/
theorem readText_eq_ok {f : Files} {path text : String}
    (h : f.readOctets path = .ok (Utf8.encode text)) : f.readText path = .ok text := by
  simp only [readText, h, bind, Except.bind, Utf8.decode_encode]
  rfl

/-- A new name in a directory is too long, or it names nothing and then what is put there. -/
theorem walk_last {f : Files} {above : Path} {last : String}
    (hAbove : f.get? above = some .directory) (hSame : last ≠ ".") (hUp : last ≠ "..") :
    f.walk above [last] =
      if 255 < last.utf8ByteSize then .error .nameTooLong
      else if (f.get? (above ++ [last])).isNone then .error .notFound
      else .ok (above ++ [last]) := by
  simp only [walk, hAbove, if_neg hSame, if_neg hUp]

theorem get?_put_of_directory {f : Files} {path : Path} (hNone : f.get? path = none) (node : Node) :
    ∀ p, f.get? p = some .directory → (f.put path node).get? p = some .directory := by
  intro p hp
  have hNe : p ≠ path := by
    rintro rfl
    rw [hNone] at hp
    cases hp
  rw [get?_put_of_ne hNe, hp]

/-- A text that leads nowhere, for want of a file, is one of a way through the directories. -/
theorem resolve_eq_walk {f f' : Files} {text : String}
    (hNowhere : f.resolve text = .error .notFound) (hText : text.isEmpty = false) :
    f'.resolve text =
      f'.walk (if text.toList.head? = some '/' then [] else f'.working) (pathNames text) := by
  unfold resolve at hNowhere ⊢
  rw [hText] at hNowhere ⊢
  split at hNowhere
  · cases hNowhere
  · next hZero =>
    rw [if_neg Bool.false_ne_true] at hNowhere
    split at hNowhere
    · cases hNowhere
    · next hShort => rw [if_neg hZero, if_neg Bool.false_ne_true, if_neg hShort]

/-- A vacancy lies in a directory, and its name is the last one of the text. -/
theorem vacancy_eq_ok {f : Files} {text : String} {path : Path} (h : f.vacancy text = .ok path) :
    ∃ above last, f.resolve text = .error .notFound ∧ text.isEmpty = false ∧
      (pathNames text).dropLast ++ [last] = pathNames text ∧
      f.walk (if text.toList.head? = some '/' then [] else f.working) (pathNames text).dropLast =
        .ok above ∧
      f.get? above = some .directory ∧ last ≠ "." ∧ last ≠ ".." ∧ path = above ++ [last] := by
  unfold vacancy at h
  split at h
  · cases h
  next e hNowhere =>
  simp only [place, hNowhere] at h
  split at h
  · cases h
  next last hLast =>
  split at h
  · cases h
  next hPlain =>
  simp only [Bool.or_eq_true, decide_eq_true_eq, not_or, not_not, Bool.not_eq_true] at hPlain
  obtain ⟨⟨⟨rfl, hText⟩, hSame⟩, hUp⟩ := hPlain
  obtain ⟨above, hWay, h⟩ := exists_of_bind_eq_ok h
  split at h
  · next hAbove =>
    exact ⟨above, last, hNowhere, hText, List.dropLast_append_getLast? last hLast, hWay, hAbove,
      hSame, hUp, (Except.ok.inj h).symm⟩
  · cases h
  · cases h

theorem of_vacancy {f : Files} {text : String} {path : Path} (h : f.vacancy text = .ok path)
    (node : Node) : f.get? path = none ∧ (f.put path node).resolve text = .ok path := by
  obtain ⟨above, last, hNowhere, hText, hNames, hWay, hAbove, hSame, hUp, rfl⟩ := vacancy_eq_ok h
  have hLast := hNowhere
  rw [resolve_eq_walk hNowhere hText, ← hNames, walk_append, hWay] at hLast
  -- the name is the only thing that is missing
  have hLast : f.walk above [last] = .error .notFound := hLast
  rw [walk_last hAbove hSame hUp] at hLast
  split at hLast
  · cases hLast
  next hLong =>
  split at hLast
  · next hNone =>
    rw [Option.isNone_iff_eq_none] at hNone
    refine ⟨hNone, ?_⟩
    have hKeeps := get?_put_of_directory hNone node
    have hWay' : (f.put (above ++ [last]) node).walk
        (if text.toList.head? = some '/' then [] else f.working) (pathNames text).dropLast =
          .ok above := by
      refine walk_of_keeps hKeeps hWay ?_
      rw [hKeeps above hAbove]
      nofun
    rw [resolve_eq_walk hNowhere hText, ← hNames, walk_append]
    refine (congrArg (· >>= _) hWay').trans ?_
    change (f.put (above ++ [last]) node).walk above [last] = _
    rw [walk_last (hKeeps above hAbove) hSame hUp, if_neg hLong, get?_put_self]
    rfl
  · cases hLast

end BindingCoverage.Host.Files
