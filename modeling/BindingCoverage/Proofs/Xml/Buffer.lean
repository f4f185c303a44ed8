import Mathlib
import BindingCoverage.Xml.Buffer

/-!
# Buffers do not matter

The lexer that takes one octet after another is what every search in a buffer is compared with
(`Ending.Meets`): the search passes over the octets that leave the item open, and stops at the one
that closes it, also when the octets that decide are on two sides of a boundary.

* `Ending.Meets.seek`: a search leads where the octets lead that it goes over.
* `Lexer.leads_search`: so does the search for the end of the item under way.
* `Lexer.fill_eq`: a buffer brings what its octets bring.
* `Reading.flat_eq`: a feed brings what all its octets bring.
-/

namespace BindingCoverage.Xml

namespace Lexer

/-- Reads octets, and then what is `next`. -/
def readThen (next : Lexer → Reading) (l : Lexer) : List UInt8 → Reading
  | [] => next l
  | b :: rest => (l.step b).before fun l => readThen next l rest

variable {next : Lexer → Reading}

theorem readThen_append (l : Lexer) (xs ys : List UInt8) :
    l.readThen next (xs ++ ys) = l.readThen (fun l => l.readThen next ys) xs := by
  induction xs generalizing l with
  | nil => rfl
  | cons b rest ih => simp only [List.cons_append, readThen, ih]

theorem read_eq (failure : Option String) (l : Lexer) (xs : List UInt8) :
    l.read failure xs = l.readThen (fun l => ⟨[], l.stop failure⟩) xs := by
  induction xs generalizing l with
  | nil => rfl
  | cons b rest ih =>
    unfold read readThen
    cases l.step b with
    | more l' => exact ih l'
    | item i l' => exact congrArg (Reading.cons i) (ih l')
    | fault f => rfl

/-- The next octet leads to the same place from both lexers. -/
theorem readThen_congr {l l' : Lexer} {b : UInt8} (h : l.step b = l'.step b) (rest : List UInt8) :
    l.readThen next (b :: rest) = l'.readThen next (b :: rest) := by
  rw [readThen, readThen, h]

end Lexer

/-! ## Searches -/

namespace Ending

variable {σ : Type}

/-- The search goes as the lexer does, for an item that has the content already. -/
structure Meets (e : Ending σ) (content : List UInt8) : Prop where
  more : ∀ {state state' passed b} (start offset : Nat), e.next state passed b = some state' →
    Lexer.step ⟨e.mode state (passed ++ content), start, offset⟩ b =
      .more ⟨e.mode state' (b :: passed ++ content), start, offset + 1⟩
  close : ∀ {state passed b} (mode : Mode) (start offset : Nat), e.next state passed b = none →
    Lexer.step ⟨e.mode state (passed ++ content), start, offset⟩ b =
      e.close ⟨mode, start, offset⟩ (passed ++ content)

/-- The induction is on the rest of the buffer; what is passed already grows. -/
theorem Meets.scan {e : Ending σ} {content : List UInt8} (h : e.Meets content)
    (next : Lexer → Reading) (mode : Mode) (start offset : Nat) (buffer : List UInt8) :
    ∀ (state : σ) (passed : List UInt8),
      Lexer.readThen next ⟨e.mode state (passed ++ content), start, offset + passed.length⟩ buffer =
        match Xml.scan e.next state passed buffer with
        | .through passed state =>
          next ⟨e.mode state (passed ++ content), start, offset + passed.length⟩
        | .upTo passed rest =>
          (e.close ⟨mode, start, offset + passed.length⟩ (passed ++ content)).before
            fun l => l.readThen next rest := by
  induction buffer with
  | nil => intro state passed; rfl
  | cons b rest ih =>
    intro state passed
    rw [Lexer.readThen, Xml.scan]
    cases hNext : e.next state passed b with
    | none => rw [h.close mode _ _ hNext]
    | some state' =>
      rw [h.more _ _ hNext]
      exact ih state' (b :: passed)

theorem Meets.seek {e : Ending σ} {content : List UInt8} (h : e.Meets content)
    (next : Lexer → Reading) {l : Lexer} {state : σ} {buffer : List UInt8} :
    Lexer.readThen next ⟨e.mode state content, l.start, l.offset⟩ buffer =
      (l.seek e state content buffer).1.before
        fun l' => l'.readThen next (l.seek e state content buffer).2 := by
  have hScan := h.scan next l.mode l.start l.offset buffer state []
  rw [List.nil_append, List.length_nil, Nat.add_zero] at hScan
  rw [hScan, Lexer.seek]
  cases Xml.scan e.next state [] buffer with
  | through passed state => rfl
  | upTo passed rest => rfl

/-! ### The ends of the items -/

theorem meets_text (seen : Bool) : (text seen).Meets [] where
  more {state state' passed b} start offset h := by
    dsimp only [text] at h
    split at h
    · cases h
    · next hb => simp [text, Lexer.step, Lexer.stay, hb]
  close {state passed b} mode start offset h := by
    dsimp only [text] at h
    split at h
    · next hb => simp [text, Lexer.step, Lexer.stay, hb]
    · cases h

/-- A closing bracket ends an item if the lexer takes it for the end, and all other octets belong to
the item. -/
theorem meets_bracket {ends : List UInt8 → Bool} {mode : List UInt8 → Mode}
    {close : Lexer → List UInt8 → Lexer.Step} {content : List UInt8}
    (h : ∀ (passed : List UInt8) (b : UInt8) (m : Mode) (start offset : Nat),
      Lexer.step ⟨mode (passed ++ content), start, offset⟩ b =
        if b == 0x3E && ends passed then close ⟨m, start, offset⟩ (passed ++ content)
        else .more ⟨mode (b :: passed ++ content), start, offset + 1⟩) :
    (bracket ends mode close).Meets content where
  more {state state' passed b} start offset hNext := by
    dsimp only [bracket] at hNext
    split at hNext
    · cases hNext
    · next hb => exact (h passed b .opened start offset).trans (if_neg hb)
  close {state passed b} m start offset hNext := by
    dsimp only [bracket] at hNext
    split at hNext
    · next hb => exact (h passed b m start offset).trans (if_pos hb)
    · cases hNext

theorem meets_instruction (content : List UInt8) : (instruction content).Meets content :=
  meets_bracket fun passed b m start offset => by
    cases passed with
    | nil => rfl
    | cons x passed => rfl

/-- Two octets before a place are the last two of the content up to there, on whichever sides of
the boundary they are. -/
theorem isDoubled_eq (b : UInt8) (content passed : List UInt8) :
    isDoubled b content passed = ((passed ++ content).take 2 == [b, b]) := by
  match passed with
  | [] => rfl
  | [x] =>
    cases content with
    | nil => simp [isDoubled]
    | cons y content => simp [isDoubled, Bool.beq_eq_decide_eq]
  | x :: y :: passed => simp [isDoubled, Bool.beq_eq_decide_eq]

theorem meets_comment (content : List UInt8) : (comment content).Meets content :=
  meets_bracket fun passed b m start offset => by
    rw [isDoubled_eq, Nat.add_comm content.length, ← List.length_append, ← Bool.and_assoc]
    rfl

theorem meets_characterData (content : List UInt8) : (characterData content).Meets content :=
  meets_bracket fun passed b m start offset => by
    rw [isDoubled_eq]
    rfl

theorem meets_tag (content : List UInt8) : tag.Meets content where
  more {state state' passed b} start offset h := by
    dsimp only [tag] at h ⊢
    cases state with
    | some q =>
      obtain rfl := Option.some.inj h
      rfl
    | none =>
      dsimp only at h
      split at h
      · cases h
      · next hEnd =>
        obtain rfl := Option.some.inj h
        simp only [Lexer.step, Lexer.stepTag, if_neg hEnd]
        split
        · rfl
        · rfl
  close {state passed b} mode start offset h := by
    dsimp only [tag] at h ⊢
    cases state with
    | some q => cases h
    | none =>
      dsimp only at h
      split at h
      · next hEnd =>
        simp only [Lexer.step, Lexer.stepTag, if_pos hEnd]
        rfl
      · cases h

theorem meets_doctype (content : List UInt8) : doctype.Meets content where
  more {state state' passed b} start offset h := by
    dsimp only [doctype] at h ⊢
    split at h
    · next hOpening =>
      obtain rfl := Option.some.inj h
      obtain rfl := eq_of_beq hOpening
      rfl
    · next hOpening =>
      split at h
      · next hEnd =>
        cases state with
        | zero => cases h
        | succ depth =>
          obtain rfl := Option.some.inj h
          simp only [Lexer.step, if_pos hEnd]
          rfl
      · next hEnd =>
        obtain rfl := Option.some.inj h
        simp only [Lexer.step, if_neg hEnd, if_neg hOpening]
        rfl
  close {state passed b} mode start offset h := by
    dsimp only [doctype] at h ⊢
    split at h
    · cases h
    · split at h
      · next hEnd =>
        cases state with
        | zero =>
          simp only [Lexer.step, if_pos hEnd]
          rfl
        | succ depth => cases h
      · cases h

end Ending

theorem scan_rest {σ : Type} {next : σ → List UInt8 → UInt8 → Option σ} {buffer : List UInt8} :
    ∀ {state : σ} {passed passed' rest : List UInt8},
      scan next state passed buffer = .upTo passed' rest → rest.length < buffer.length := by
  induction buffer with
  | nil => intro state passed passed' rest h; cases h
  | cons b tail ih =>
    intro state passed passed' rest h
    rw [scan] at h
    split at h
    · cases h
      exact Nat.lt_succ_self _
    · exact Nat.lt_succ_of_lt (ih h)

/-! ## Buffers -/

namespace Lexer

variable {next : Lexer → Reading}

/-- The search in a buffer leads where the octets lead that it goes over, and these are one or
more. -/
structure Leads (next : Lexer → Reading) (l : Lexer) (buffer : List UInt8)
    (found : Step × List UInt8) : Prop where
  readThen_eq : l.readThen next buffer = found.1.before fun l => l.readThen next found.2
  shorter : found.2.length < buffer.length

theorem leads_step (l : Lexer) (b : UInt8) (rest : List UInt8) :
    Leads next l (b :: rest) (l.step b, rest) := ⟨rfl, Nat.lt_succ_self _⟩

theorem leads_seek {σ : Type} {e : Ending σ} {content : List UInt8} (h : e.Meets content)
    {l : Lexer} {state : σ} {b : UInt8} {rest : List UInt8}
    (hFirst : l.step b = step ⟨e.mode state content, l.start, l.offset⟩ b) :
    Leads next l (b :: rest) (l.seek e state content (b :: rest)) where
  readThen_eq := (readThen_congr hFirst rest).trans (h.seek next)
  shorter := by
    unfold seek
    split
    · exact Nat.succ_pos _
    · next hScan => exact scan_rest hScan

theorem leads_search (l : Lexer) (b : UInt8) (rest : List UInt8) :
    Leads next l (b :: rest) (l.search b rest) := by
  obtain ⟨mode, start, offset⟩ := l
  cases mode with
  | text seen =>
    exact leads_seek (Ending.meets_text seen) (by simp [Ending.text])
  | opened =>
    simp only [search]
    split
    · next hBang =>
      have hStep : step ⟨.opened, start, offset⟩ b = stay ⟨.opened, start, offset⟩ .bang :=
        if_pos hBang
      exact hStep ▸ leads_step _ b rest
    · next hBang =>
      split
      · next hQuestion =>
        refine leads_seek (Ending.meets_instruction []) ?_
        obtain rfl := eq_of_beq hQuestion
        rfl
      · next hQuestion =>
        refine leads_seek (Ending.meets_tag []) ?_
        exact (if_neg hBang).trans (if_neg hQuestion)
  | tag quote content => exact leads_seek (Ending.meets_tag content) rfl
  | instruction content => exact leads_seek (Ending.meets_instruction content) rfl
  | bang =>
    simp only [search]
    split
    · next hComment =>
      refine leads_seek (Ending.meets_comment _) ?_
      obtain rfl := eq_of_beq hComment
      rfl
    · next hComment =>
      split
      · next hData =>
        refine leads_seek (Ending.meets_characterData _) ?_
        obtain rfl := eq_of_beq hData
        rfl
      · next hData =>
        split
        · next hDoctype =>
          refine leads_seek (Ending.meets_doctype _) ?_
          rcases Bool.or_eq_true_iff.mp hDoctype with hDoctype | hDoctype
          · obtain rfl := eq_of_beq hDoctype
            rfl
          · obtain rfl := eq_of_beq hDoctype
            rfl
        · next hDoctype =>
          have hStep : step ⟨.bang, start, offset⟩ b =
              refuse ⟨.bang, start, offset⟩ (.syntactic .invalidBang) :=
            (if_neg hComment).trans ((if_neg hData).trans (if_neg hDoctype))
          refine ⟨?_, Nat.succ_pos _⟩
          rw [readThen, hStep]
          rfl
  | comment content => exact leads_seek (Ending.meets_comment content) rfl
  | characterData content => exact leads_seek (Ending.meets_characterData content) rfl
  | doctype depth content => exact leads_seek (Ending.meets_doctype content) rfl

theorem fillFrom_eq {size : Nat} :
    ∀ {l : Lexer} {buffer : List UInt8}, buffer.length ≤ size →
      l.fillFrom next size buffer = l.readThen next buffer := by
  induction size with
  | zero =>
    intro l buffer h
    obtain rfl := List.length_eq_zero_iff.mp (Nat.le_zero.mp h)
    rfl
  | succ size ih =>
    intro l buffer h
    cases buffer with
    | nil => rfl
    | cons b rest =>
      have hLeads : Leads next l (b :: rest) (l.search b rest) := leads_search l b rest
      have hShorter := hLeads.shorter
      have hRest : (l.search b rest).2.length ≤ size := by
        rw [List.length_cons] at h hShorter
        omega
      rw [hLeads.readThen_eq]
      simp only [fillFrom, ih hRest]

theorem fill_eq (l : Lexer) (buffer : List UInt8) : l.fill next buffer = l.readThen next buffer :=
  fillFrom_eq (Nat.le_refl _)

theorem readDeliveries_eq (failure : Option String) (deliveries : List Delivery) :
    ∀ l : Lexer, l.readDeliveries failure deliveries =
      l.read failure (deliveries.flatMap Delivery.octets) := by
  induction deliveries with
  | nil => intro l; rfl
  | cons d rest ih =>
    intro l
    cases d with
    | interrupted => exact ih l
    | buffer octets =>
      have hRest : readDeliveries failure rest = fun l =>
          l.readThen (fun l => ⟨[], l.stop failure⟩) (rest.flatMap Delivery.octets) :=
        funext fun l => (ih l).trans (read_eq failure l _)
      rw [readDeliveries, hRest, fill_eq, List.flatMap_cons, read_eq, readThen_append]
      rfl

end Lexer

/-! ## Feeds -/

theorem Feed.unmarked_octets (feed : Feed) :
    (unmarked feed.deliveries).flatMap Delivery.octets = feed.octets := by
  obtain ⟨deliveries, failure⟩ := feed
  induction deliveries with
  | nil => rfl
  | cons d rest ih =>
    cases d with
    | interrupted => exact ih
    | buffer octets =>
      have hFirst : first ⟨.buffer octets :: rest, failure⟩ = octets := rfl
      have hDelivered : delivered ⟨.buffer octets :: rest, failure⟩ =
          octets ++ rest.flatMap Delivery.octets := List.flatMap_cons
      rw [unmarked, List.flatMap_cons, Feed.octets, hFirst, hDelivered]
      split
      · next hMark =>
        have hLength := (List.isPrefixOf_iff_prefix.mp hMark).length_le
        rw [List.drop_append_of_le_length hLength]
        rfl
      · rfl

theorem Reading.flat_eq (feed : Feed) :
    Reading.flat feed = Lexer.initial.read feed.failure feed.octets := by
  rw [flat, Lexer.readDeliveries_eq, Feed.unmarked_octets]

end BindingCoverage.Xml
