import BindingCoverage.Proofs.Results
import BindingCoverage.Xml.Lexer

/-!
# Runs of the lexer

`Lexer.run` is a stretch of octets in which the lexer meets no fault: the items in it, each with the
offset where it ends, and the lexer after them. Unlike `Lexer.read` it can go on, so runs of
stretches are put together to the run of a document (`run_append`).

* `read_of_run`, `exists_run_of_read`: a reading without a fault is a run to the end.
* `read_append_of_run`, `read_append_of_error`: how a reading goes on when the document does.
* `reaches_of_read`: reading can be taken up again where an item starts.
* `step_moves`: what one octet can do, with no word about which octets do it.
* `stop_le_of_run`: no item ends after the octets of its run.
* `run_take`: a run that is cut short right after a tag has the items up to that tag.
-/

namespace BindingCoverage.Xml

/-- An item with the offset of the octet after it. -/
structure Span where
  located : Located
  stop : Nat
  deriving DecidableEq, Repr

/-- Where a reading starts, if there is an item or a fault in it. -/
def Reading.position? (r : Reading) : Option Nat :=
  match r.items with
  | i :: _ => some i.position
  | [] => r.fault.map Fault.position

namespace Lexer

def run (l : Lexer) : List UInt8 → Except Fault (List Span × Lexer)
  | [] => .ok ([], l)
  | b :: rest =>
    match l.step b with
    | .more l => run l rest
    | .item i l => do
      let (spans, last) ← run l rest
      return (⟨i, l.start⟩ :: spans, last)
    | .fault f => .error f

theorem run_append (l : Lexer) (xs ys : List UInt8) :
    l.run (xs ++ ys) = l.run xs >>= fun p => p.2.run ys >>= fun q => pure (p.1 ++ q.1, q.2) := by
  induction xs generalizing l with
  | nil =>
    change l.run ys = l.run ys >>= fun q => pure ([] ++ q.1, q.2)
    cases l.run ys with
    | error f => rfl
    | ok q => rfl
  | cons b rest ih =>
    rw [List.cons_append, run, run]
    cases l.step b with
    | more l' => exact ih l'
    | fault f => rfl
    | item i l' =>
      simp only [ih l', bind_assoc, pure_bind, List.cons_append]

theorem run_append_ok {l l' : Lexer} {xs ys : List UInt8} {spans : List Span}
    (h : l.run xs = .ok (spans, l')) :
    l.run (xs ++ ys) = l'.run ys >>= fun q => pure (spans ++ q.1, q.2) := by
  rw [run_append, h]
  rfl

/-- What the first step of a run does. -/
theorem run_cons_ok {l l' : Lexer} {b : UInt8} {rest : List UInt8} {spans : List Span}
    (h : l.run (b :: rest) = .ok (spans, l')) :
    (∃ next, l.step b = .more next ∧ next.run rest = .ok (spans, l')) ∨
      ∃ i next later, l.step b = .item i next ∧ next.run rest = .ok (later, l') ∧
        spans = ⟨i, next.start⟩ :: later := by
  unfold run at h
  cases hstep : l.step b with
  | more next =>
    rw [hstep] at h
    exact .inl ⟨next, rfl, h⟩
  | fault f => rw [hstep] at h; cases h
  | item i next =>
    rw [hstep] at h
    obtain ⟨⟨later, last⟩, hrun, h⟩ := exists_of_bind_eq_ok h
    cases h
    exact .inr ⟨i, next, later, rfl, hrun, rfl⟩

/-! ## Readings -/

theorem read_of_run (failure : Option String) {xs : List UInt8} :
    ∀ {l l' : Lexer} {spans : List Span}, l.run xs = .ok (spans, l') →
      read failure l xs = ⟨spans.map Span.located, l'.stop failure⟩ := by
  induction xs with
  | nil =>
    intro l l' spans h
    cases h
    rfl
  | cons b rest ih =>
    intro l l' spans h
    unfold read
    obtain ⟨next, hstep, hrun⟩ | ⟨i, next, later, hstep, hrun, rfl⟩ := run_cons_ok h
    · rw [hstep]
      exact ih hrun
    · simp only [hstep, ih hrun]
      rfl

theorem exists_run_of_read {failure : Option String} {xs : List UInt8} :
    ∀ {l : Lexer}, (read failure l xs).fault = none →
      ∃ spans l', l.run xs = .ok (spans, l') ∧ l'.stop failure = none := by
  induction xs with
  | nil =>
    intro l h
    exact ⟨[], l, rfl, h⟩
  | cons b rest ih =>
    intro l h
    unfold read at h
    unfold run
    cases hstep : l.step b with
    | more next =>
      rw [hstep] at h
      exact ih h
    | fault f => rw [hstep] at h; cases h
    | item i next =>
      rw [hstep] at h
      obtain ⟨spans, last, hrun, hstop⟩ := ih (l := next) h
      exact ⟨⟨i, next.start⟩ :: spans, last, by simp only [hrun]; rfl, hstop⟩

/-- The reading does not change by what comes after the octet that is refused, nor by how that
ends. -/
theorem read_append_of_error {xs : List UInt8} {f : Fault} :
    ∀ {l : Lexer}, l.run xs = .error f →
      ∃ items, ∀ failure ys, read failure l (xs ++ ys) = ⟨items, some f⟩ := by
  induction xs with
  | nil => intro l h; cases h
  | cons b rest ih =>
    intro l h
    unfold run at h
    cases hstep : l.step b with
    | more next =>
      rw [hstep] at h
      obtain ⟨items, hread⟩ := ih h
      refine ⟨items, fun failure ys => ?_⟩
      simp only [List.cons_append, read, hstep, hread]
    | fault e =>
      rw [hstep] at h
      cases h
      refine ⟨[], fun failure ys => ?_⟩
      simp only [List.cons_append, read, hstep]
    | item i next =>
      rw [hstep] at h
      dsimp only at h
      cases hrun : next.run rest with
      | ok q => rw [hrun] at h; cases h
      | error e =>
        rw [hrun] at h
        cases h
        obtain ⟨items, hread⟩ := ih hrun
        refine ⟨i :: items, fun failure ys => ?_⟩
        simp only [List.cons_append, read, hstep, hread, Reading.cons]

theorem read_append_of_run (failure : Option String) {xs : List UInt8} (ys : List UInt8) :
    ∀ {l l' : Lexer} {spans : List Span}, l.run xs = .ok (spans, l') →
      read failure l (xs ++ ys) =
        ⟨spans.map Span.located ++ (read failure l' ys).items, (read failure l' ys).fault⟩ := by
  induction xs with
  | nil =>
    intro l l' spans h
    cases h
    rfl
  | cons b rest ih =>
    intro l l' spans h
    obtain ⟨next, hstep, hrun⟩ | ⟨i, next, later, hstep, hrun, rfl⟩ := run_cons_ok h
    · simp only [List.cons_append, read, hstep, ih hrun]
    · simp only [List.cons_append, read, hstep, ih hrun, Reading.cons, List.map_cons]

/-! ## One octet -/

/-- What a step on the octet `b` can be: the octet belongs to the item under way, or ends it, or is
refused, or it is the bracket after a text. -/
inductive Moves (l : Lexer) (b : UInt8) : Step → Prop where
  | stay (mode : Mode) : Moves l b (.more ⟨mode, l.start, l.offset + 1⟩)
  | finish (item : Item) :
    Moves l b (.item ⟨l.start, item⟩ ⟨.text false, l.offset + 1, l.offset + 1⟩)
  | refuse (e : Error) : Moves l b (.fault ⟨l.start, e⟩)
  | text : l.mode = .text true → b = 0x3C →
    Moves l b (.item ⟨l.start, .aside⟩ ⟨.opened, l.offset, l.offset + 1⟩)

theorem finishInstruction_moves (l : Lexer) (b : UInt8) (content : List UInt8) :
    l.Moves b (l.finishInstruction content) := by
  unfold finishInstruction
  split
  · exact .refuse _
  · exact .finish _

theorem finishMarked_moves (l : Lexer) (b : UInt8) (opening : String) (e : SyntaxError)
    (content : List UInt8) : l.Moves b (l.finishMarked opening e content) := by
  unfold finishMarked
  split
  · exact .finish _
  · exact .refuse _

theorem finishDoctype_moves (l : Lexer) (b : UInt8) (content : List UInt8) :
    l.Moves b (l.finishDoctype content) := by
  unfold finishDoctype
  dsimp only
  split
  · split
    · exact .refuse _
    · exact .finish _
  · exact .refuse _

theorem stepTag_moves (l : Lexer) (quote : Option UInt8) (content : List UInt8) (b : UInt8) :
    l.Moves b (l.stepTag quote content b) := by
  unfold stepTag
  split
  · exact .stay _
  · split
    · exact .finish _
    · split
      · exact .stay _
      · exact .stay _

theorem step_moves (l : Lexer) (b : UInt8) : l.Moves b (l.step b) := by
  unfold step
  cases hmode : l.mode with
  | text seen =>
    dsimp only
    split
    · rename_i hbracket
      cases seen with
      | true => exact .text hmode (eq_of_beq hbracket)
      | false => exact .stay _
    · exact .stay _
  | opened =>
    dsimp only
    split
    · exact .stay _
    · split
      · exact .stay _
      · exact stepTag_moves l _ _ _
  | tag quote content => exact stepTag_moves l _ _ _
  | instruction content =>
    dsimp only
    split
    · exact finishInstruction_moves l _ _
    · exact .stay _
  | bang =>
    dsimp only
    split
    · exact .stay _
    · split
      · exact .stay _
      · split
        · exact .stay _
        · exact .refuse _
  | comment content =>
    dsimp only
    split
    · exact finishMarked_moves l _ _ _ _
    · exact .stay _
  | characterData content =>
    dsimp only
    split
    · exact finishMarked_moves l _ _ _ _
    · exact .stay _
  | doctype depth content =>
    cases depth with
    | zero =>
      dsimp only
      split
      · exact finishDoctype_moves l _ _
      · exact .stay _
    | succ depth =>
      dsimp only
      split
      · exact .stay _
      · exact .stay _

/-! ## Where items end -/

theorem stop_le_of_run {xs : List UInt8} :
    ∀ {l l' : Lexer} {spans : List Span}, l.run xs = .ok (spans, l') →
      ∀ s ∈ spans, s.stop ≤ l.offset + xs.length := by
  induction xs with
  | nil =>
    intro l l' spans h s hs
    cases h
    cases hs
  | cons b rest ih =>
    intro l l' spans h s hs
    have hmoves := step_moves l b
    rw [List.length_cons]
    obtain ⟨next, hstep, hrun⟩ | ⟨i, next, later, hstep, hrun, rfl⟩ := run_cons_ok h
    · have hle := ih hrun s hs
      rw [hstep] at hmoves
      cases hmoves
      dsimp only at hle
      omega
    · have hstop : next.offset = l.offset + 1 ∧ next.start ≤ l.offset + 1 := by
        rw [hstep] at hmoves
        cases hmoves with
        | finish item => exact ⟨rfl, Nat.le_refl _⟩
        | text _ _ => exact ⟨rfl, Nat.le_succ _⟩
      rcases List.mem_cons.mp hs with rfl | hs
      · change next.start ≤ _
        omega
      · have hle := ih hrun s hs
        omega

theorem offset_lt_stop_of_run {xs : List UInt8} :
    ∀ {l l' : Lexer} {spans : List Span}, l.run xs = .ok (spans, l') →
      ∀ s ∈ spans, s.located.item ≠ .aside → l.offset < s.stop := by
  induction xs with
  | nil =>
    intro l l' spans h s hs
    cases h
    cases hs
  | cons b rest ih =>
    intro l l' spans h s hs htag
    have hmoves := step_moves l b
    obtain ⟨next, hstep, hrun⟩ | ⟨i, next, later, hstep, hrun, rfl⟩ := run_cons_ok h
    · have hlt := ih hrun s hs htag
      rw [hstep] at hmoves
      cases hmoves
      exact Nat.lt_of_succ_lt hlt
    · rw [hstep] at hmoves
      rcases List.mem_cons.mp hs with rfl | hs
      · cases hmoves with
        | finish item => exact Nat.lt_succ_self _
        | text _ _ => exact absurd rfl htag
      · have hlt := ih hrun s hs htag
        cases hmoves with
        | finish item => exact Nat.lt_of_succ_lt hlt
        | text _ _ => exact Nat.lt_of_succ_lt hlt

/-- The induction goes over the octets; `n` octets are read when `t` ends. -/
theorem run_take {t : Span} (ht : t.located.item ≠ .aside) {xs : List UInt8} :
    ∀ {l l' : Lexer} {first second : List Span} {n : Nat},
      l.run xs = .ok (first ++ t :: second, l') → t.stop = l.offset + n →
      l.run (xs.take n) = .ok (first ++ [t], ⟨.text false, t.stop, t.stop⟩) := by
  induction xs with
  | nil =>
    intro l l' first second n h _
    have hnil : [] = first ++ t :: second := congrArg Prod.fst (Except.ok.inj h)
    simp at hnil
  | cons b rest ih =>
    intro l l' first second n h hn
    have hlt := offset_lt_stop_of_run h t (by simp) ht
    obtain ⟨n, rfl⟩ : ∃ k, n = k + 1 := ⟨n - 1, by omega⟩
    have hmoves := step_moves l b
    rw [List.take_succ_cons, run]
    obtain ⟨next, hstep, hrun⟩ | ⟨i, next, later, hstep, hrun, hspans⟩ := run_cons_ok h
    · rw [hstep] at hmoves ⊢
      cases hmoves
      exact ih hrun (by dsimp only; omega)
    · rw [hstep] at hmoves ⊢
      have hoffset : next.offset = l.offset + 1 := by
        cases hmoves with
        | finish item => rfl
        | text _ _ => rfl
      cases first with
      | nil =>
        obtain ⟨rfl, rfl⟩ := List.cons.inj hspans
        cases hmoves with
        | text _ _ => exact absurd rfl ht
        | finish item =>
          have hzero : n = 0 := by
            change l.offset + 1 = l.offset + (n + 1) at hn
            omega
          rw [hzero]
          rfl
      | cons s first =>
        obtain ⟨rfl, rfl⟩ := List.cons.inj hspans
        simp only [ih hrun (n := n) (by omega)]
        rfl

/-! ## Where items start -/

/-- The lexer between tags, with nothing read of the text there. -/
def fresh (position : Nat) : Lexer := ⟨.text false, position, position⟩

theorem stop_position {l : Lexer} {failure : Option String} {f : Fault}
    (h : l.stop failure = some f) : f.position = l.start := by
  cases failure with
  | some text => cases h; rfl
  | none =>
    obtain ⟨e, -, rfl⟩ := Option.map_eq_some_iff.mp h
    rfl

/-- The lexer between tags, after so many octets. Where there was no text yet, the next item starts
right there. -/
def Between (l : Lexer) (position : Nat) : Prop :=
  ∃ seen start, l = ⟨.text seen, start, position⟩ ∧ (seen = false → start = position)

theorem between_fresh (position : Nat) : (fresh position).Between position :=
  ⟨false, position, rfl, fun _ => rfl⟩

/-- The octets are run through up to a place between tags, with the items `before`. A text that is
under way there is among them, and the reading `r` comes after them. -/
structure Reaches (failure : Option String) (l : Lexer) (xs : List UInt8) (before : List Located)
    (r : Reading) (n position : Nat) : Prop where
  run : ∃ spans last pending, l.run (xs.take n) = .ok (spans, last) ∧ last.Between position ∧
    before = spans.map Span.located ++ pending ∧ ∀ j ∈ pending, j.item = .aside
  rest : read failure (fresh position) (xs.drop n) = r

section

variable {failure : Option String} {l next : Lexer} {b : UInt8} {rest xs : List UInt8}
  {before : List Located} {r : Reading} {n position : Nat}

theorem reaches_fresh (h : read failure (fresh position) xs = r) :
    Reaches failure (fresh position) xs [] r 0 position :=
  ⟨⟨[], _, [], rfl, between_fresh position, rfl, nofun⟩, h⟩

theorem Reaches.more (hstep : l.step b = .more next)
    (h : Reaches failure next rest before r n position) :
    Reaches failure l (b :: rest) before r (n + 1) position := by
  obtain ⟨⟨spans, last, pending, hrun, hlast⟩, hrest⟩ := h
  refine ⟨⟨spans, last, pending, ?_, hlast⟩, hrest⟩
  rw [List.take_succ_cons, Lexer.run, hstep]
  exact hrun

theorem Reaches.item {i : Located} (hstep : l.step b = .item i next)
    (h : Reaches failure next rest before r n position) :
    Reaches failure l (b :: rest) (i :: before) r (n + 1) position := by
  obtain ⟨⟨spans, last, pending, hrun, hlast, rfl, hpending⟩, hrest⟩ := h
  refine ⟨⟨⟨i, next.start⟩ :: spans, last, pending, ?_, hlast, rfl, hpending⟩, hrest⟩
  rw [List.take_succ_cons, Lexer.run, hstep]
  simp only [hrun]
  rfl

end

/-- A reading can be taken up again where its next item or its fault starts: either that is under
way already, or it starts so many octets further on. -/
theorem read_resume_from (failure : Option String) {r : Reading} {p : Nat}
    (hp : r.position? = some p) (xs : List UInt8) :
    ∀ {l : Lexer} {before : List Located},
      read failure l xs = ⟨before ++ r.items, r.fault⟩ →
      before = [] ∧ p = l.start ∨
        ∃ n, p = l.offset + n ∧ Reaches failure l xs before r n p := by
  induction xs with
  | nil =>
    intro l before h
    obtain ⟨hitems, hfault⟩ := Reading.mk.inj h
    obtain ⟨hbefore, hr⟩ := List.append_eq_nil_iff.mp hitems.symm
    rw [Reading.position?, hr, ← hfault] at hp
    refine .inl ⟨hbefore, ?_⟩
    obtain ⟨f, hf, rfl⟩ := Option.map_eq_some_iff.mp hp
    exact stop_position hf
  | cons b rest ih =>
    intro l before h
    have hmoves := step_moves l b
    unfold read at h
    cases hstep : l.step b with
    | more next =>
      rw [hstep] at h hmoves
      cases hmoves
      obtain hstart | ⟨n, hn, hreaches⟩ := ih h
      · exact .inl hstart
      · refine .inr ⟨n + 1, ?_, hreaches.more hstep⟩
        dsimp only at hn
        omega
    | fault f =>
      rw [hstep] at h hmoves
      obtain ⟨hitems, hfault⟩ := Reading.mk.inj h
      obtain ⟨hbefore, hr⟩ := List.append_eq_nil_iff.mp hitems.symm
      rw [Reading.position?, hr, ← hfault] at hp
      cases hmoves
      cases hp
      exact .inl ⟨hbefore, rfl⟩
    | item i next =>
      rw [hstep] at h hmoves
      cases before with
      | nil =>
        obtain ⟨hitems, -⟩ := Reading.mk.inj h
        have hr : r.items = i :: (read failure next rest).items := hitems.symm
        rw [Reading.position?, hr] at hp
        cases hmoves with
        | finish item => cases hp; exact .inl ⟨rfl, rfl⟩
        | text _ _ => cases hp; exact .inl ⟨rfl, rfl⟩
      | cons j before =>
        obtain ⟨hitems, hfault⟩ := Reading.mk.inj h
        obtain ⟨rfl, htail⟩ := List.cons.inj hitems
        have hrest : read failure next rest = ⟨before ++ r.items, r.fault⟩ := by
          rw [← hfault]
          exact congrArg (Reading.mk · _) htail
        obtain ⟨rfl, hstart⟩ | ⟨n, hn, hreaches⟩ := ih hrest
        · cases hmoves with
          | finish item =>
            obtain rfl : p = l.offset + 1 := hstart
            exact .inr ⟨1, rfl, (reaches_fresh hrest).item hstep⟩
          | text hmode hbracket =>
            -- The bracket after a text is read again.
            subst hbracket
            obtain rfl : p = l.offset := hstart
            have hlast : l.Between l.offset := ⟨true, l.start, by rw [← hmode], nofun⟩
            exact .inr ⟨0, rfl, ⟨[], l, [_], rfl, hlast, rfl, List.forall_mem_singleton.mpr rfl⟩,
              hrest⟩
        · have hoffset : next.offset = l.offset + 1 := by
            cases hmoves with
            | finish item => rfl
            | text _ _ => rfl
          exact .inr ⟨n + 1, by omega, hreaches.item hstep⟩

theorem reaches_of_read {failure : Option String} {octets : List UInt8} {before : List Located}
    {r : Reading} {p : Nat} (hp : r.position? = some p)
    (h : read failure initial octets = ⟨before ++ r.items, r.fault⟩) :
    Reaches failure initial octets before r p p := by
  obtain ⟨rfl, hstart⟩ | ⟨n, hn, hreaches⟩ := read_resume_from failure hp octets h
  · obtain rfl : p = 0 := hstart
    exact ⟨⟨[], initial, [], rfl, between_fresh 0, rfl, nofun⟩, h⟩
  · obtain rfl : p = n := hn.trans (Nat.zero_add n)
    exact hreaches

end Lexer

end BindingCoverage.Xml
