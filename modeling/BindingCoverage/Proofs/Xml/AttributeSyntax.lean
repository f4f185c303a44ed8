import BindingCoverage.Proofs.Xml.Attribute

/-!
# The syntax of attributes

`SpellsAttributes` is the grammar: keys and quoted values with an equals sign between them, with
blanks in front and around the equals sign. A tag is `WellFormed` when what comes after its name is
written like that and no key comes twice.

* `attributesFrom_of_spells`: attributes that follow the grammar are read as they are written.
* `spells_of_attributesFrom`: attributes that are read to the end of the tag follow the grammar.
* `Tag.wellFormed_iff`: so tags without an error are the well-formed ones.
-/

namespace BindingCoverage.Xml

/-- Nothing but blanks. -/
def Blanks (octets : List UInt8) : Prop := ∀ b ∈ octets, isBlank b = true

instance (octets : List UInt8) : Decidable (Blanks octets) :=
  decidable_of_iff (octets.all isBlank = true) List.all_eq_true

/-- An octet that ends a key. -/
def endsKey (b : UInt8) : Bool := b == 0x3D || isBlank b

/-- A key has no blank and no equals sign, unless it begins with that. -/
def IsKey (key : List UInt8) : Prop :=
  ∃ first more, key = first :: more ∧ isBlank first = false ∧ ∀ b ∈ more, endsKey b = false

/-- The octets are an attribute, with blanks in front of it. -/
inductive SpellsAttribute : Attribute → List UInt8 → Prop where
  | mk {key value front between after : List UInt8} {quote : UInt8} :
    Blanks front → IsKey key → Blanks between → Blanks after →
    (quote == 0x22 || quote == 0x27) = true → quote ∉ value →
    SpellsAttribute ⟨key, value⟩
      (front ++ (key ++ (between ++ 0x3D :: (after ++ quote :: (value ++ [quote])))))

/-- The octets are these attributes, with blanks after the last one. -/
inductive SpellsAttributes : List Attribute → List UInt8 → Prop where
  | nil {octets : List UInt8} : Blanks octets → SpellsAttributes [] octets
  | cons {a : Attribute} {rest : List Attribute} {octets more : List UInt8} :
    SpellsAttribute a octets → SpellsAttributes rest more →
    SpellsAttributes (a :: rest) (octets ++ more)

/-- The attributes of the tag follow the grammar, and no key comes twice. -/
def Tag.WellFormed (t : Tag) : Prop :=
  ∃ attributes, SpellsAttributes attributes (t.content.drop t.name.length) ∧
    (attributes.map Attribute.key).Nodup

/-! ## Splitting off octets -/

namespace TagCursor

theorem upTo_append {p : UInt8 → Bool} (offset : Nat) (xs : List UInt8) {b : UInt8}
    (rest : List UInt8) (hxs : ∀ x ∈ xs, p x = false) (hb : p b = true) :
    upTo p ⟨offset, xs ++ b :: rest⟩ = (xs, ⟨offset + xs.length, b :: rest⟩) := by
  have htake : (xs ++ b :: rest).takeWhile (!p ·) = xs := by
    rw [List.takeWhile_append_of_pos (by simpa using hxs)]
    simp [hb]
  unfold upTo
  simp only [htake, List.drop_left]

theorem upTo_spec (p : UInt8 → Bool) (c : TagCursor) :
    c.rest = (c.upTo p).1 ++ (c.upTo p).2.rest ∧ (∀ x ∈ (c.upTo p).1, p x = false) ∧
      ∀ b rest, (c.upTo p).2.rest = b :: rest → p b = true := by
  have hjoin := List.takeWhile_append_dropWhile (p := (!p ·)) (l := c.rest)
  have hrest : (c.upTo p).2.rest = c.rest.dropWhile (!p ·) := by
    have hdrop : (c.rest.takeWhile (!p ·) ++ c.rest.dropWhile (!p ·)).drop
        (c.rest.takeWhile (!p ·)).length = c.rest.dropWhile (!p ·) := List.drop_left
    rw [hjoin] at hdrop
    exact hdrop
  refine ⟨?_, fun x hx => ?_, fun b rest htail => ?_⟩
  · rw [hrest]
    exact hjoin.symm
  · simpa using List.mem_takeWhile_imp hx
  · have hhead := List.head?_dropWhile_not (!p ·) c.rest
    rw [← hrest, htail] at hhead
    simpa using hhead

theorem skipBlanks_append {front : List UInt8} (hfront : Blanks front) (offset : Nat) {b : UInt8}
    (rest : List UInt8) (hb : isBlank b = false) :
    skipBlanks ⟨offset, front ++ b :: rest⟩ = ⟨offset + front.length, b :: rest⟩ := by
  have hup := upTo_append (p := (!isBlank ·)) (b := b) offset front rest
    (fun x hx => by simp [hfront x hx]) (by simp [hb])
  exact congrArg Prod.snd hup

theorem skipBlanks_of_blanks {c : TagCursor} (h : Blanks c.rest) : c.skipBlanks.rest = [] := by
  obtain ⟨hrest, -, hhead⟩ := upTo_spec (!isBlank ·) c
  cases htail : c.skipBlanks.rest with
  | nil => rfl
  | cons b rest =>
    have hb := hhead b rest htail
    have hblank : isBlank b = true := by
      refine h b ?_
      rw [hrest]
      refine List.mem_append_right _ ?_
      rw [show (c.upTo (!isBlank ·)).2.rest = b :: rest from htail]
      exact List.mem_cons_self
    simp [hblank] at hb

theorem skipBlanks_spec (c : TagCursor) :
    ∃ front, Blanks front ∧ c.rest = front ++ c.skipBlanks.rest ∧
      ∀ b rest, c.skipBlanks.rest = b :: rest → isBlank b = false := by
  obtain ⟨hrest, hfront, hhead⟩ := upTo_spec (!isBlank ·) c
  refine ⟨_, fun b hb => ?_, hrest, fun b rest htail => ?_⟩
  · simpa using hfront b hb
  · simpa using hhead b rest htail

/-! ## One attribute -/

theorem key_of_isKey {key between : List UInt8} (hkey : IsKey key) (hbetween : Blanks between)
    (offset : Nat) (rest : List UInt8) :
    ∃ offset', TagCursor.key ⟨offset, key ++ (between ++ 0x3D :: rest)⟩ =
      .ok (key, ⟨offset', 0x3D :: rest⟩) := by
  obtain ⟨first, more, rfl, -, hmore⟩ := hkey
  obtain ⟨b, tail, htail, hb⟩ :
      ∃ b tail, between ++ 0x3D :: rest = b :: tail ∧ endsKey b = true := by
    cases between with
    | nil => exact ⟨0x3D, rest, rfl, rfl⟩
    | cons b between =>
      refine ⟨b, between ++ 0x3D :: rest, rfl, ?_⟩
      rw [endsKey, hbetween b List.mem_cons_self, Bool.or_true]
  have hup := upTo_append (p := endsKey) (offset + 1) more tail hmore hb
  have hskip := skipBlanks_append hbetween (offset + 1 + more.length) rest
    (show isBlank 0x3D = false from rfl)
  have hends : (fun b => b == 0x3D || isBlank b) = endsKey := rfl
  rw [← htail] at hup
  unfold TagCursor.key
  simp only [List.cons_append, hends, hup, hskip, List.head?_cons, if_true]
  exact ⟨_, rfl⟩

theorem key_spec {c after : TagCursor} {key : List UInt8} (h : c.key = .ok (key, after))
    (hhead : ∀ b rest, c.rest = b :: rest → isBlank b = false) :
    IsKey key ∧ ∃ between rest, Blanks between ∧ after.rest = 0x3D :: rest ∧
      c.rest = key ++ (between ++ 0x3D :: rest) := by
  unfold TagCursor.key at h
  cases hc : c.rest with
  | nil => rw [hc] at h; cases h
  | cons first tail =>
    rw [hc] at h
    have hends : (fun b => b == 0x3D || isBlank b) = endsKey := rfl
    simp only [hends] at h
    obtain ⟨htail, hmore, -⟩ := upTo_spec endsKey ⟨c.offset + 1, tail⟩
    obtain ⟨between, hbetween, hrest, -⟩ := skipBlanks_spec (upTo endsKey ⟨c.offset + 1, tail⟩).2
    split at h
    · rename_i hequals
      cases h
      obtain ⟨rest, hafter⟩ := List.head?_eq_some_iff.mp hequals
      refine ⟨⟨first, _, rfl, hhead first tail hc, hmore⟩, between, rest, hbetween, hafter, ?_⟩
      rw [hafter] at hrest
      rw [List.cons_append, ← hrest]
      exact congrArg (first :: ·) htail
    · cases h

theorem value_of_quoted {front value : List UInt8} {quote : UInt8} (hfront : Blanks front)
    (hquote : (quote == 0x22 || quote == 0x27) = true) (hvalue : quote ∉ value) (offset : Nat)
    (rest : List UInt8) :
    ∃ offset', TagCursor.value ⟨offset, front ++ quote :: (value ++ quote :: rest)⟩ =
      .ok (value, ⟨offset', rest⟩) := by
  have hblank : isBlank quote = false := by
    rw [Bool.or_eq_true, beq_iff_eq, beq_iff_eq] at hquote
    rcases hquote with rfl | rfl
    · rfl
    · rfl
  have hskip := skipBlanks_append hfront offset (value ++ quote :: rest) hblank
  have hup := upTo_append (p := (· == quote)) (b := quote) (offset + front.length + 1) value rest
    (fun x hx => beq_eq_false_iff_ne.mpr fun h => hvalue (h ▸ hx)) (beq_self_eq_true quote)
  unfold TagCursor.value
  simp only [hskip, hquote, if_true, hup]
  exact ⟨_, rfl⟩

theorem value_spec {c after : TagCursor} {value : List UInt8} (h : c.value = .ok (value, after)) :
    ∃ front quote, Blanks front ∧ (quote == 0x22 || quote == 0x27) = true ∧ quote ∉ value ∧
      c.rest = front ++ quote :: (value ++ quote :: after.rest) := by
  obtain ⟨front, hfront, hrest, -⟩ := skipBlanks_spec c
  unfold TagCursor.value at h
  dsimp only at h
  split at h
  · cases h
  · rename_i quote tail hc
    obtain ⟨htail, hvalue, hhead⟩ := upTo_spec (· == quote) ⟨c.skipBlanks.offset + 1, tail⟩
    split at h
    · rename_i hquote
      split at h
      · cases h
      · rename_i b rest hafter
        cases h
        obtain rfl : b = quote := eq_of_beq (hhead b rest hafter)
        refine ⟨front, b, hfront, hquote, fun hmem => ?_, ?_⟩
        · have hne := hvalue b hmem
          rw [beq_self_eq_true] at hne
          cases hne
        · rw [hrest, hc, ← hafter]
          exact congrArg (fun tail => front ++ b :: tail) htail
    · cases h

theorem next_of_spells {a : Attribute} {octets : List UInt8} (h : SpellsAttribute a octets)
    {seen : List (List UInt8 × Nat)} (hseen : ∀ k ∈ seen, k.1 ≠ a.key) (offset : Nat)
    (rest : List UInt8) :
    ∃ start stop, next seen ⟨offset, octets ++ rest⟩ = .ok (some (start, a, ⟨stop, rest⟩)) := by
  obtain ⟨hfront, hkey, hbetween, hafter, hquote, hvalue⟩ := h
  rename_i key value front between after quote
  have hfind : seen.find? (·.1 == key) = none := by
    rw [List.find?_eq_none]
    intro k hk
    simpa using hseen k hk
  obtain ⟨first, more, hfirst, hblank, -⟩ := id hkey
  have hskip := skipBlanks_append hfront offset
    (more ++ (between ++ 0x3D :: (after ++ quote :: (value ++ quote :: rest)))) hblank
  obtain ⟨offset₁, hkey⟩ := key_of_isKey hkey hbetween (offset + front.length)
    (after ++ quote :: (value ++ quote :: rest))
  obtain ⟨offset₂, hvalue⟩ := value_of_quoted hafter hquote hvalue (offset₁ + 1) rest
  rw [hfirst, List.cons_append] at hkey
  unfold next
  simp only [List.append_assoc, List.cons_append, hfirst, List.nil_append, hskip,
    List.isEmpty_cons, Bool.false_eq_true, if_false, hkey, bind, Except.bind, List.drop_one,
    List.tail_cons]
  rw [← hfirst, hfind]
  simp only [hvalue]
  exact ⟨_, _, rfl⟩

theorem next_spec {seen : List (List UInt8 × Nat)} {c after : TagCursor} {offset : Nat}
    {a : Attribute} (h : c.next seen = .ok (some (offset, a, after))) :
    ∃ octets, SpellsAttribute a octets ∧ c.rest = octets ++ after.rest := by
  obtain ⟨front, hfront, hrest, hhead⟩ := skipBlanks_spec c
  unfold next at h
  simp only [bind, Except.bind, pure, Except.pure] at h
  split at h
  · cases h
  · split at h
    · cases h
    · rename_i k hk
      obtain ⟨key, here⟩ := k
      obtain ⟨hkey, between, tail, hbetween, hequals, hc⟩ := key_spec hk hhead
      split at h
      · cases h
      · split at h
        · cases h
        · rename_i v hv
          obtain ⟨value, stop⟩ := v
          cases h
          obtain ⟨gap, quote, hgap, hquote, hvalue, htail⟩ := value_spec hv
          dsimp only at hequals htail
          rw [hequals, List.drop_one, List.tail_cons] at htail
          refine ⟨_, .mk hfront hkey hbetween hgap hquote hvalue, ?_⟩
          rw [hrest, hc, htail]
          simp only [List.append_assoc, List.cons_append, List.nil_append]

theorem next_eq_none_iff {seen : List (List UInt8 × Nat)} {c : TagCursor} :
    c.next seen = .ok none ↔ Blanks c.rest := by
  constructor
  · intro h
    obtain ⟨front, hfront, hrest, -⟩ := skipBlanks_spec c
    unfold next at h
    simp only [bind, Except.bind, pure, Except.pure] at h
    split at h
    · rename_i hempty
      rw [hrest, List.isEmpty_iff.mp hempty, List.append_nil]
      exact hfront
    · split at h
      · cases h
      · split at h
        · cases h
        · split at h
          · cases h
          · cases h
  · intro h
    unfold next
    simp only [skipBlanks_of_blanks h, List.isEmpty_nil, if_true]
    rfl

end TagCursor

/-! ## All attributes of a tag -/

theorem attributesFrom_of_spells {attributes : List Attribute} {octets : List UInt8}
    (h : SpellsAttributes attributes octets) :
    ∀ {seen : List (List UInt8 × Nat)} {offset fuel : Nat}, octets.length < fuel →
      (attributes.map Attribute.key).Nodup →
      (∀ a ∈ attributes, ∀ k ∈ seen, k.1 ≠ a.key) →
      attributesFrom seen ⟨offset, octets⟩ fuel = ⟨attributes, none⟩ := by
  induction h with
  | nil hblanks =>
    intro seen offset fuel hfuel _ _
    obtain ⟨fuel, rfl⟩ : ∃ n, fuel = n + 1 := ⟨fuel - 1, by omega⟩
    rw [attributesFrom, TagCursor.next_eq_none_iff.mpr hblanks]
  | @cons a rest octets more ha _ ih =>
    intro seen offset fuel hfuel hnodup hseen
    obtain ⟨fuel, rfl⟩ : ∃ n, fuel = n + 1 := ⟨fuel - 1, by omega⟩
    rw [List.map_cons, List.nodup_cons] at hnodup
    obtain ⟨hunseen, hseen⟩ := List.forall_mem_cons.mp hseen
    obtain ⟨start, stop, hnext⟩ := TagCursor.next_of_spells ha hunseen offset more
    have hlength := TagCursor.next_length hnext
    have hnew : ∀ b ∈ rest, ∀ k ∈ (a.key, start) :: seen, k.1 ≠ b.key := by
      intro b hb k hk
      rcases List.mem_cons.mp hk with rfl | hk
      · exact fun heq => hnodup.1 (List.mem_map.mpr ⟨b, hb, heq.symm⟩)
      · exact hseen b hb k hk
    have htail : attributesFrom ((a.key, start) :: seen) ⟨stop, more⟩ fuel = ⟨rest, none⟩ :=
      ih (by dsimp only at hlength; omega) hnodup.2 hnew
    rw [attributesFrom, hnext]
    dsimp only
    rw [htail]

theorem spells_of_attributesFrom (fuel : Nat) :
    ∀ {seen : List (List UInt8 × Nat)} {c : TagCursor}, c.rest.length < fuel →
      (attributesFrom seen c fuel).error = none →
      SpellsAttributes (attributesFrom seen c fuel).read c.rest := by
  induction fuel with
  | zero => intro seen c hfuel _; cases hfuel
  | succ fuel ih =>
    intro seen c hfuel herror
    unfold attributesFrom at herror ⊢
    cases hnext : c.next seen with
    | error e => rw [hnext] at herror; cases herror
    | ok next =>
      cases next with
      | none => exact .nil (TagCursor.next_eq_none_iff.mp hnext)
      | some next =>
        obtain ⟨offset, a, after⟩ := next
        rw [hnext] at herror
        obtain ⟨octets, ha, hrest⟩ := TagCursor.next_spec hnext
        have hlength := TagCursor.next_length hnext
        have htail : SpellsAttributes (attributesFrom ((a.key, offset) :: seen) after fuel).read
            after.rest := ih (by omega) herror
        rw [hrest]
        exact .cons ha htail

theorem Tag.attributes_of_spells {t : Tag} {attributes : List Attribute}
    (h : SpellsAttributes attributes (t.content.drop t.name.length))
    (hnodup : (attributes.map Attribute.key).Nodup) : t.attributes = ⟨attributes, none⟩ := by
  refine attributesFrom_of_spells h ?_ hnodup (by simp)
  rw [List.length_drop]
  omega

theorem Tag.wellFormed_iff {t : Tag} : t.WellFormed ↔ t.attributes.error = none := by
  constructor
  · rintro ⟨attributes, hspells, hnodup⟩
    rw [Tag.attributes_of_spells hspells hnodup]
  · intro herror
    refine ⟨t.attributes.read, ?_, t.attributes_distinct⟩
    refine spells_of_attributesFrom (t.content.length + 1) ?_ herror
    rw [List.length_drop]
    omega

end BindingCoverage.Xml
