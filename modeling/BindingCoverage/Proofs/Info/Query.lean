import BindingCoverage.Info.Query
import BindingCoverage.Proofs.Coverage.Registry
import BindingCoverage.Proofs.Results
import BindingCoverage.Proofs.Text.Sorted

/-!
# Which fields become query parameters

A record may have several values for a key, and the last one counts, whatever it is.

* `Shape.get?_of_entriesToJson`: a field of the JSON object is the last value of its key.
* `Shape.entriesToJson_insert`: one more key is one more field.
* `Shape.toJson_fails_iff`: what has no JSON value.
* `mem_paramsOfJson_iff_lastValue?`: a parameter is the last value of its key, if that is a scalar.
* `params_insert`: a field that is no scalar makes no difference.
-/

namespace BindingCoverage

namespace Text.Sorted

variable {α β : Type}

/-- Among rising keys there is one entry for a key that is there. -/
theorem mem_iff_get? {key : String} {value : α} {entries : List (String × α)}
    (h : (entries.map (·.1)).Pairwise (· < ·)) :
    (key, value) ∈ entries ↔ get? key entries = some value := by
  induction entries with
  | nil => simp [get?]
  | cons e rest ih =>
    obtain ⟨k, v⟩ := e
    obtain ⟨hHead, hRest⟩ := List.pairwise_cons.mp h
    by_cases hKey : key = k
    · subst hKey
      have hNone : (key, value) ∉ rest := fun hMem =>
        lt_irrefl key (hHead key (List.mem_map_of_mem hMem))
      rw [get?_cons_self, List.mem_cons, or_iff_left hNone, Prod.mk.injEq, Option.some.injEq]
      simp only [true_and, eq_comm]
    · rw [get?_cons_of_ne hKey, List.mem_cons, ih hRest]
      simp [hKey]

/-- A value that a selection leaves out does not show in what it selects. -/
theorem filterMap_put {key : String} {value : α} {entries : List (String × α)}
    (select : String × α → Option β) (hSelect : select (key, value) = none)
    (hNew : get? key entries = none) :
    (put key value entries).filterMap select = entries.filterMap select := by
  induction entries with
  | nil => simp [put, hSelect]
  | cons e rest ih =>
    obtain ⟨k, v⟩ := e
    rcases lt_trichotomy key k with hLt | rfl | hGt
    · rw [put_cons_of_lt hLt, List.filterMap_cons_none hSelect]
    · rw [get?_cons_self] at hNew
      cases hNew
    · rw [get?_cons_of_ne hGt.ne'] at hNew
      rw [put_cons_of_gt hGt, List.filterMap_cons, ih hNew, List.filterMap_cons]

end Text.Sorted

namespace Info

open Text.Sorted (get? put)

/-! ## Records with entries -/

namespace Shape

/-- The entries of a record, in the order in which it gives them. -/
def entries? : Shape → Option (List (Shape × Shape))
  | .map entries => some entries
  | .present v => entries? v
  | _ => none

/-- The value of an entry that has this key. -/
def valueOf? (key : String) (e : Shape × Shape) : Option Shape :=
  if e.1.key = .ok key then some e.2 else none

def lastValue? (key : String) (entries : List (Shape × Shape)) : Option Shape :=
  (entries.filterMap (valueOf? key)).getLast?

theorem lastValue?_cons_self {key : String} {k : Shape} (h : k.key = .ok key) (v : Shape)
    (rest : List (Shape × Shape)) :
    lastValue? key ((k, v) :: rest) = some ((lastValue? key rest).getD v) := by
  have hValue : valueOf? key (k, v) = some v := if_pos h
  rw [lastValue?, List.filterMap_cons_some hValue, List.getLast?_cons]
  rfl

theorem lastValue?_cons_of_ne {key : String} {k : Shape} (h : k.key ≠ .ok key) (v : Shape)
    (rest : List (Shape × Shape)) : lastValue? key ((k, v) :: rest) = lastValue? key rest := by
  have hValue : valueOf? key (k, v) = none := if_neg h
  rw [lastValue?, List.filterMap_cons_none hValue, lastValue?]

theorem lastValue?_eq_none {key : String} {entries : List (Shape × Shape)}
    (h : ∀ e ∈ entries, e.1.key ≠ .ok key) : lastValue? key entries = none := by
  have hNone : entries.filterMap (valueOf? key) = [] :=
    List.filterMap_eq_nil_iff.mpr fun e he => if_neg (h e he)
  rw [lastValue?, hNone, List.getLast?_nil]

/-- The value is a text, a boolean or a number, and this is its text. -/
inductive IsParam : Shape → String → Prop
  | text (s : String) : IsParam (.text s) s
  | char (c : Char) : IsParam (.char c) (String.ofList [c])
  | bool (b : Bool) : IsParam (.bool b) (if b then "true" else "false")
  | integer {n : Int} (h : -2 ^ 63 ≤ n ∧ n < 2 ^ 64) : IsParam (.integer n) (toString n)
  | double (x : Binary64) : IsParam (.double (some x)) (Json.Number.double x).text
  | present {v : Shape} {text : String} (h : IsParam v text) : IsParam (.present v) text

theorem isParam_present_iff {v : Shape} {text : String} :
    IsParam (.present v) text ↔ IsParam v text :=
  ⟨fun h => by cases h; assumption, .present⟩

theorem numberOf_text (n : Int) : (numberOf n).text = toString n := by
  rw [Int.toString_eq_repr, Int.repr_eq_if, numberOf]
  split_ifs with hSign
  · have hAbs : n.natAbs = n.toNat := by omega
    rw [hAbs]
    rfl
  · have hAbs : n.natAbs = (-n).toNat := by omega
    rw [hAbs]
    rfl

theorem inRange_iff {n : Int} : InRange n ↔ -2 ^ 63 ≤ n ∧ n < 2 ^ 64 := by
  unfold InRange
  norm_num

theorem toJson_integer_eq_ok {n : Int} {j : Json} :
    (Shape.integer n).toJson = .ok j ↔ (-2 ^ 63 ≤ n ∧ n < 2 ^ 64) ∧ j = .number (numberOf n) := by
  rw [toJson, ← inRange_iff]
  split_ifs with hRange
  · exact ⟨by rintro ⟨⟩; exact ⟨hRange, rfl⟩, by rintro ⟨-, rfl⟩; rfl⟩
  · exact ⟨nofun, fun h => absurd h.1 hRange⟩

theorem isParam_iff {text : String} : ∀ {v : Shape} {j : Json}, v.toJson = .ok j →
    (v.IsParam text ↔ scalar? j = some text)
  | .present v, j, h => by
    rw [isParam_present_iff]
    rw [toJson] at h
    exact isParam_iff h
  | .text s, _, rfl => ⟨by rintro ⟨⟩; rfl, by rintro ⟨⟩; exact .text _⟩
  | .char c, _, rfl => ⟨by rintro ⟨⟩; rfl, by rintro ⟨⟩; exact .char c⟩
  | .bool b, _, rfl => ⟨by rintro ⟨⟩; rfl, by rintro ⟨⟩; exact .bool b⟩
  | .integer n, j, h => by
    obtain ⟨hRange, rfl⟩ := toJson_integer_eq_ok.mp h
    rw [scalar?, Option.some.injEq, numberOf_text]
    exact ⟨by rintro ⟨⟩; rfl, by rintro rfl; exact .integer hRange⟩
  | .double (some x), _, rfl => ⟨by rintro ⟨⟩; rfl, by rintro ⟨⟩; exact .double x⟩
  | .double none, _, rfl => ⟨nofun, nofun⟩
  | .absent, _, rfl => ⟨nofun, nofun⟩
  | .unit, _, rfl => ⟨nofun, nofun⟩
  | .list items, j, h => by
    rw [toJson] at h
    obtain ⟨fields, -, hObject⟩ := exists_of_bind_eq_ok h
    cases hObject
    exact ⟨nofun, nofun⟩
  | .map entries, j, h => by
    rw [toJson] at h
    obtain ⟨fields, -, hObject⟩ := exists_of_bind_eq_ok h
    cases hObject
    exact ⟨nofun, nofun⟩

theorem toJson_of_entries {entries : List (Shape × Shape)} :
    ∀ {record : Shape}, record.entries? = some entries →
      record.toJson = (entriesToJson [] entries).map .object
  | .map entries, rfl => by
    rw [toJson]
    cases entriesToJson [] entries with
    | error e => rfl
    | ok fields => rfl
  | .present v, h => by
    rw [toJson]
    exact toJson_of_entries h

/-- Only a record with entries becomes an object. -/
theorem exists_entries {fields : List (String × Json)} :
    ∀ {record : Shape}, record.toJson = .ok (.object fields) →
      ∃ entries, record.entries? = some entries
  | .map entries, _ => ⟨entries, rfl⟩
  | .present v, h => by
    rw [toJson] at h
    obtain ⟨entries, hEntries⟩ := exists_entries h
    exact ⟨entries, hEntries⟩
  | .list items, h => by
    rw [toJson] at h
    obtain ⟨_, -, hArray⟩ := exists_of_bind_eq_ok h
    cases hArray
  | .integer n, h => by
    obtain ⟨-, hNumber⟩ := toJson_integer_eq_ok.mp h
    cases hNumber
  | .double none, h | .double (some _), h | .bool _, h | .char _, h | .text _, h | .absent, h
  | .unit, h | .refusal _, h => by cases h

theorem entriesToJson_of_toJson {record : Shape} {entries : List (Shape × Shape)}
    {fields : List (String × Json)} (hEntries : record.entries? = some entries)
    (hJson : record.toJson = .ok (.object fields)) : entriesToJson [] entries = .ok fields := by
  rw [toJson_of_entries hEntries] at hJson
  cases hMade : entriesToJson [] entries with
  | error e =>
    rw [hMade] at hJson
    cases hJson
  | ok fields' =>
    rw [hMade] at hJson
    cases hJson
    rfl

/-! ## Records without a JSON value -/

/-- No text comes of this as a key. -/
inductive NoKey : Shape → Prop where
  | double : NoKey (.double none)
  | absent : NoKey .absent
  | present (v : Shape) : NoKey (.present v)
  | unit : NoKey .unit
  | list (items : List Shape) : NoKey (.list items)
  | map (entries : List (Shape × Shape)) : NoKey (.map entries)
  | refusal (reason : String) : NoKey (.refusal reason)

/-- The record, or something in it, refuses to describe itself, is a whole number that 64 bits
cannot hold, or is a key of which no text comes. -/
inductive NoJson : Shape → Prop where
  | refusal (reason : String) : NoJson (.refusal reason)
  | integer {n : Int} (h : n < -2 ^ 63 ∨ 2 ^ 64 ≤ n) : NoJson (.integer n)
  | present {v : Shape} (h : NoJson v) : NoJson (.present v)
  | item {items : List Shape} {v : Shape} (hMem : v ∈ items) (h : NoJson v) : NoJson (.list items)
  | key {entries : List (Shape × Shape)} {k v : Shape} (hMem : (k, v) ∈ entries) (h : NoKey k) :
      NoJson (.map entries)
  | value {entries : List (Shape × Shape)} {k v : Shape} (hMem : (k, v) ∈ entries)
      (h : NoJson v) : NoJson (.map entries)

theorem key_fails_iff {k : Shape} : (∃ e, k.key = .error e) ↔ NoKey k := by
  constructor
  · rintro ⟨e, h⟩
    cases k with
    | double x =>
      cases x with
      | none => exact .double
      | some x => cases h
    | absent => exact .absent
    | present v => exact .present v
    | unit => exact .unit
    | list items => exact .list items
    | map entries => exact .map entries
    | refusal reason => exact .refusal reason
    | integer n | bool b | char c | text s => cases h
  · intro h
    cases h with
    | double | absent | present | unit | list | map | refusal => exact ⟨_, rfl⟩

theorem itemsToJson_fails_iff {items : List Shape} :
    (∃ e, itemsToJson items = .error e) ↔ ∃ v ∈ items, ∃ e, v.toJson = .error e := by
  induction items with
  | nil => simp [itemsToJson]
  | cons v rest ih =>
    rw [List.exists_mem_cons_iff, ← ih, itemsToJson]
    cases v.toJson with
    | error e => exact ⟨fun _ => .inl ⟨e, rfl⟩, fun _ => ⟨e, rfl⟩⟩
    | ok j =>
      cases itemsToJson rest with
      | error e => exact ⟨fun _ => .inr ⟨e, rfl⟩, fun _ => ⟨e, rfl⟩⟩
      | ok rest' => exact ⟨nofun, by rintro (⟨_, ⟨⟩⟩ | ⟨_, ⟨⟩⟩)⟩

theorem entriesToJson_fails_iff {entries : List (Shape × Shape)} :
    ∀ fields : List (String × Json), (∃ e, entriesToJson fields entries = .error e) ↔
      ∃ p ∈ entries, (∃ e, p.1.key = .error e) ∨ ∃ e, p.2.toJson = .error e := by
  induction entries with
  | nil => simp [entriesToJson]
  | cons p rest ih =>
    intro fields
    obtain ⟨k, v⟩ := p
    rw [List.exists_mem_cons_iff, entriesToJson]
    cases k.key with
    | error e => exact ⟨fun _ => .inl (.inl ⟨e, rfl⟩), fun _ => ⟨e, rfl⟩⟩
    | ok key =>
      cases v.toJson with
      | error e => exact ⟨fun _ => .inl (.inr ⟨e, rfl⟩), fun _ => ⟨e, rfl⟩⟩
      | ok j =>
        refine (ih (put key j fields)).trans ⟨.inr, ?_⟩
        rintro ((⟨_, ⟨⟩⟩ | ⟨_, ⟨⟩⟩) | hRest)
        exact hRest

theorem sizeOf_lt_of_mem {entries : List (Shape × Shape)} {k v : Shape} (h : (k, v) ∈ entries) :
    sizeOf v < 1 + sizeOf entries := by
  have hEntry := List.sizeOf_lt_of_mem h
  rw [Prod.mk.sizeOf_spec] at hEntry
  omega

theorem toJson_fails_iff : ∀ v : Shape, (∃ e, v.toJson = .error e) ↔ NoJson v
  | .integer n => by
    rw [toJson]
    split_ifs with hRange
    · refine ⟨nofun, ?_⟩
      rintro (_ | ⟨h⟩)
      obtain ⟨hLeast, hGreatest⟩ := inRange_iff.mp hRange
      omega
    · refine ⟨fun _ => .integer ?_, fun _ => ⟨_, rfl⟩⟩
      rw [inRange_iff] at hRange
      omega
  | .present v => by
    rw [toJson, toJson_fails_iff v]
    exact ⟨.present, by rintro ⟨⟩; assumption⟩
  | .list items => by
    rw [toJson, exists_error_of_map_iff, itemsToJson_fails_iff]
    constructor
    · rintro ⟨v, hMem, h⟩
      exact .item hMem ((toJson_fails_iff v).mp h)
    · rintro (_ | _ | _ | ⟨hMem, h⟩)
      exact ⟨_, hMem, (toJson_fails_iff _).mpr h⟩
  | .map entries => by
    rw [toJson, exists_error_of_map_iff, entriesToJson_fails_iff]
    constructor
    · rintro ⟨⟨k, v⟩, hMem, h | h⟩
      · exact .key hMem (key_fails_iff.mp h)
      · have hSize := sizeOf_lt_of_mem hMem
        exact .value hMem ((toJson_fails_iff v).mp h)
    · intro h
      cases h with
      | key hMem h => exact ⟨_, hMem, .inl (key_fails_iff.mpr h)⟩
      | value hMem h =>
        have hSize := sizeOf_lt_of_mem hMem
        exact ⟨_, hMem, .inr ((toJson_fails_iff _).mpr h)⟩
  | .refusal reason => ⟨fun _ => .refusal reason, fun _ => ⟨_, rfl⟩⟩
  | .double none | .double (some _) | .bool _ | .char _ | .text _ | .absent | .unit =>
    ⟨nofun, nofun⟩

/-! ## Fields -/

section

variable {key : String}

/-- A first entry with a key and a value becomes a field before all others. -/
theorem entriesToJson_cons {k v : Shape} {j : Json} (hKey : k.key = .ok key)
    (hValue : v.toJson = .ok j) (fields : List (String × Json)) (rest : List (Shape × Shape)) :
    entriesToJson fields ((k, v) :: rest) = entriesToJson (put key j fields) rest := by
  rw [entriesToJson, hKey, hValue]
  rfl

/-- What the entries come to, one entry at a time. -/
theorem exists_of_entriesToJson_cons {k v : Shape} {fields fields' : List (String × Json)}
    {rest : List (Shape × Shape)} (h : entriesToJson fields ((k, v) :: rest) = .ok fields') :
    ∃ other j, k.key = .ok other ∧ v.toJson = .ok j ∧
      entriesToJson (put other j fields) rest = .ok fields' := by
  rw [entriesToJson] at h
  obtain ⟨other, hKey, h⟩ := exists_of_bind_eq_ok h
  obtain ⟨j, hValue, h⟩ := exists_of_bind_eq_ok h
  exact ⟨other, j, hKey, hValue, h⟩

theorem pairwise_entriesToJson {entries : List (Shape × Shape)} :
    ∀ {fields fields' : List (String × Json)}, (fields.map (·.1)).Pairwise (· < ·) →
      entriesToJson fields entries = .ok fields' → (fields'.map (·.1)).Pairwise (· < ·) := by
  induction entries with
  | nil =>
    intro fields fields' hSorted h
    rw [entriesToJson] at h
    cases h
    exact hSorted
  | cons e rest ih =>
    intro fields fields' hSorted h
    obtain ⟨other, j, -, -, hRest⟩ := exists_of_entriesToJson_cons h
    refine ih ?_ hRest
    rw [Text.Sorted.keys_put]
    exact Text.Sorted.pairwise_insert other hSorted

/-- A field is the last value of its key; without one it is what it was. -/
theorem get?_of_entriesToJson (key : String) {entries : List (Shape × Shape)} :
    ∀ {fields fields' : List (String × Json)}, entriesToJson fields entries = .ok fields' →
      match lastValue? key entries with
      | some v => ∃ j, v.toJson = .ok j ∧ get? key fields' = some j
      | none => get? key fields' = get? key fields := by
  induction entries with
  | nil =>
    intro fields fields' h
    rw [entriesToJson] at h
    cases h
    rfl
  | cons e rest ih =>
    intro fields fields' h
    obtain ⟨k, v⟩ := e
    obtain ⟨other, j, hKey, hValue, hRest⟩ := exists_of_entriesToJson_cons h
    have hLast := ih hRest
    by_cases hSame : other = key
    · subst hSame
      rw [lastValue?_cons_self hKey]
      -- the value counts until the key comes again
      cases hMore : lastValue? other rest with
      | some w =>
        rw [hMore] at hLast
        exact hLast
      | none =>
        rw [hMore] at hLast
        exact ⟨j, hValue, hLast.trans (Text.Sorted.get?_put_self other j fields)⟩
    · have hOther : k.key ≠ .ok key := by
        rw [hKey]
        exact fun hEq => hSame (Except.ok.inj hEq)
      rw [lastValue?_cons_of_ne hOther]
      cases hMore : lastValue? key rest with
      | some w =>
        rw [hMore] at hLast
        exact hLast
      | none =>
        rw [hMore] at hLast
        exact hLast.trans (Text.Sorted.get?_put_of_ne (Ne.symm hSame) j fields)

/-- A field that is there before all others stays what it is if its key does not come again. -/
theorem entriesToJson_put {entries : List (Shape × Shape)} (j : Json) :
    (∀ e ∈ entries, e.1.key ≠ .ok key) → ∀ fields : List (String × Json),
      entriesToJson (put key j fields) entries =
        (entriesToJson fields entries).map (put key j) := by
  induction entries with
  | nil => exact fun _ _ => rfl
  | cons e rest ih =>
    intro hNew fields
    obtain ⟨k, v⟩ := e
    obtain ⟨hHead, hRest⟩ := List.forall_mem_cons.mp hNew
    simp only [entriesToJson]
    cases hKey : k.key with
    | error e => rfl
    | ok other =>
      cases v.toJson with
      | error e => rfl
      | ok j' =>
        have hNe : key ≠ other := fun hSame => hHead (hKey.trans (congrArg Except.ok hSame.symm))
        change entriesToJson (put other j' (put key j fields)) rest = _
        rw [Text.Sorted.put_comm hNe.symm, ih hRest]
        rfl

/-- One more key is one more field, wherever its entry stands. -/
theorem entriesToJson_insert {before after : List (Shape × Shape)} {k v : Shape} {j : Json}
    (hKey : k.key = .ok key) (hValue : v.toJson = .ok j) :
    (∀ e ∈ before ++ after, e.1.key ≠ .ok key) → ∀ fields : List (String × Json),
      entriesToJson fields (before ++ (k, v) :: after) =
        (entriesToJson fields (before ++ after)).map (put key j) := by
  induction before with
  | nil =>
    intro hNew fields
    rw [List.nil_append, entriesToJson_cons hKey hValue]
    exact entriesToJson_put j hNew fields
  | cons e rest ih =>
    intro hNew fields
    obtain ⟨k', v'⟩ := e
    obtain ⟨-, hRest⟩ := List.forall_mem_cons.mp hNew
    simp only [List.cons_append, entriesToJson]
    cases k'.key with
    | error e => rfl
    | ok other =>
      cases v'.toJson with
      | error e => rfl
      | ok j' => exact ih hRest (put other j' fields)

end

end Shape

/-! ## Parameters -/

theorem mem_paramsOfJson_iff {fields : List (String × Json)} {key text : String}
    (hSorted : (fields.map (·.1)).Pairwise (· < ·)) :
    (key, text) ∈ paramsOfJson (.object fields) ↔
      ∃ j, get? key fields = some j ∧ scalar? j = some text := by
  rw [paramsOfJson, List.mem_filterMap]
  constructor
  · rintro ⟨⟨k, j⟩, hField, hParam⟩
    obtain ⟨text', hScalar, hPair⟩ := Option.map_eq_some_iff.mp hParam
    cases hPair
    exact ⟨j, (Text.Sorted.mem_iff_get? hSorted).mp hField, hScalar⟩
  · rintro ⟨j, hField, hScalar⟩
    refine ⟨(key, j), (Text.Sorted.mem_iff_get? hSorted).mpr hField, ?_⟩
    simp only [hScalar, Option.map_some]

theorem pairwise_paramsOfJson {fields : List (String × Json)}
    (hSorted : (fields.map (·.1)).Pairwise (· < ·)) :
    (paramsOfJson (.object fields)).Pairwise
      fun p q => Utf8.encode p.1 < Utf8.encode q.1 := by
  rw [paramsOfJson, List.pairwise_filterMap]
  refine (List.pairwise_map.mp hSorted).imp ?_
  rintro ⟨k, j⟩ ⟨k', j'⟩ hLt p hp q hq
  obtain ⟨text, -, rfl⟩ := Option.map_eq_some_iff.mp hp
  obtain ⟨text', -, rfl⟩ := Option.map_eq_some_iff.mp hq
  exact Utf8.encode_lt_encode_iff.mpr hLt

theorem params_of_entries {record : Shape} {entries : List (Shape × Shape)}
    (h : record.entries? = some entries) :
    params record = (Shape.entriesToJson [] entries).map fun fields =>
      paramsOfJson (.object fields) := by
  rw [params, Shape.toJson_of_entries h]
  cases Shape.entriesToJson [] entries with
  | error e => rfl
  | ok fields => rfl

theorem mem_paramsOfJson_iff_lastValue? {entries : List (Shape × Shape)}
    {fields : List (String × Json)} (hFields : Shape.entriesToJson [] entries = .ok fields)
    (key text : String) :
    (key, text) ∈ paramsOfJson (.object fields) ↔
      ∃ v, Shape.lastValue? key entries = some v ∧ v.IsParam text := by
  have hField := Shape.get?_of_entriesToJson key hFields
  rw [mem_paramsOfJson_iff (Shape.pairwise_entriesToJson List.Pairwise.nil hFields)]
  cases hLast : Shape.lastValue? key entries with
  | none =>
    rw [hLast] at hField
    have hNone : get? key fields = none := hField
    rw [hNone]
    exact ⟨nofun, nofun⟩
  | some v =>
    rw [hLast] at hField
    obtain ⟨j, hValue, hGet⟩ := hField
    rw [hGet]
    constructor
    · rintro ⟨_, ⟨⟩, hScalar⟩
      exact ⟨v, rfl, (Shape.isParam_iff hValue).mpr hScalar⟩
    · rintro ⟨_, ⟨⟩, hParam⟩
      exact ⟨j, rfl, (Shape.isParam_iff hValue).mp hParam⟩

/-- A field that is no scalar has no part in the parameters, if there is no other one of its key. -/
theorem params_insert {record record' k v : Shape} {before after : List (Shape × Shape)}
    {key : String} {j : Json} (hRecord : record.entries? = some (before ++ after))
    (hRecord' : record'.entries? = some (before ++ (k, v) :: after)) (hKey : k.key = .ok key)
    (hNew : ∀ e ∈ before ++ after, e.1.key ≠ .ok key) (hValue : v.toJson = .ok j)
    (hScalar : scalar? j = none) : params record' = params record := by
  rw [params_of_entries hRecord, params_of_entries hRecord',
    Shape.entriesToJson_insert hKey hValue hNew]
  cases hFields : Shape.entriesToJson [] (before ++ after) with
  | error e => rfl
  | ok fields =>
    have hField := Shape.get?_of_entriesToJson key hFields
    rw [Shape.lastValue?_eq_none hNew] at hField
    have hNone : get? key fields = none := hField
    have hSelect : (scalar? j).map (key, ·) = none := by rw [hScalar, Option.map_none]
    exact congrArg Except.ok (Text.Sorted.filterMap_put _ hSelect hNone)

theorem params_eq_error_iff {record : Shape} {e : ShapeError} :
    params record = .error e ↔ record.toJson = .error e := by
  unfold params
  cases record.toJson with
  | error e' => exact ⟨by rintro ⟨⟩; rfl, by rintro ⟨⟩; rfl⟩
  | ok j => exact ⟨nofun, nofun⟩

theorem params_of_toJson {record : Shape} {j : Json} (h : record.toJson = .ok j) :
    params record = .ok (paramsOfJson j) := by
  rw [params, h]
  rfl

/-- The parameters of a record are its scalar fields, with rising keys. For every key its last value
counts. What is no object has none. Only for what has no JSON value there is an error instead, as
for a whole number that 64 bits cannot hold. -/
theorem params_scalars :
    (∀ (record : Shape) (e : ShapeError), params record = .error e ↔ record.toJson = .error e) ∧
    (∀ record : Shape, (∃ e, params record = .error e) ↔ record.NoJson) ∧
    (∀ (record : Shape) (j : Json), record.toJson = .ok j → (∀ fields, j ≠ .object fields) →
      params record = .ok []) ∧
    (∀ (record : Shape) (fields : List (String × Json)), record.toJson = .ok (.object fields) →
      ∃ entries ps, record.entries? = some entries ∧ params record = .ok ps ∧
        ps.Pairwise (fun p q => Utf8.encode p.1 < Utf8.encode q.1) ∧
        ∀ key text, (key, text) ∈ ps ↔
          ∃ v, Shape.lastValue? key entries = some v ∧ v.IsParam text) ∧
    (∀ n : Int, -2 ^ 63 ≤ n → n < 2 ^ 64 →
      (∀ text, (Shape.integer n).IsParam text ↔ text = toString n) ∧
        (toString n).toInt? = some n) ∧
    (∀ n : Int, n < -2 ^ 63 ∨ 2 ^ 64 ≤ n →
      (Shape.integer n).toJson = .error .numberOutOfRange ∧
        ∀ text, ¬ (Shape.integer n).IsParam text) ∧
    ∀ (record record' k v : Shape) (before after : List (Shape × Shape)) (key : String) (j : Json),
      record.entries? = some (before ++ after) →
      record'.entries? = some (before ++ (k, v) :: after) → k.key = .ok key →
      (∀ e ∈ before ++ after, e.1.key ≠ .ok key) → v.toJson = .ok j →
      (j = .null ∨ (∃ items, j = .array items) ∨ ∃ fields, j = .object fields) →
      params record' = params record := by
  refine ⟨fun _ _ => params_eq_error_iff, ?_, ?_, ?_, ?_, ?_, ?_⟩
  · intro record
    simp only [params_eq_error_iff, Shape.toJson_fails_iff]
  · intro record j hJson hNoObject
    rw [params_of_toJson hJson]
    cases j with
    | object fields => exact absurd rfl (hNoObject fields)
    | null | bool _ | number _ | string _ | array _ => rfl
  · intro record fields hJson
    obtain ⟨entries, hEntries⟩ := Shape.exists_entries hJson
    have hFields := Shape.entriesToJson_of_toJson hEntries hJson
    have hSorted := Shape.pairwise_entriesToJson List.Pairwise.nil hFields
    exact ⟨entries, _, hEntries, params_of_toJson hJson, pairwise_paramsOfJson hSorted,
      mem_paramsOfJson_iff_lastValue? hFields⟩
  · intro n hLeast hGreatest
    refine ⟨fun text => ?_, ?_⟩
    · exact ⟨by rintro ⟨⟩; rfl, by rintro rfl; exact .integer ⟨hLeast, hGreatest⟩⟩
    · rw [Int.toString_eq_repr, Int.toInt?_repr]
  · intro n hOutside
    have hRange : ¬ (-2 ^ 63 ≤ n ∧ n < 2 ^ 64) := by omega
    refine ⟨by rw [Shape.toJson, if_neg (mt Shape.inRange_iff.mp hRange)], ?_⟩
    rintro _ (_ | _ | _ | h)
    exact hRange h
  · intro record record' k v before after key j hRecord hRecord' hKey hNew hValue hKind
    refine params_insert hRecord hRecord' hKey hNew hValue ?_
    rcases hKind with rfl | ⟨items, rfl⟩ | ⟨fields, rfl⟩
    · rfl
    · rfl
    · rfl

/-- A record that gives the key `7` twice, the second time without a value. -/
def sampleEntries : List (Shape × Shape) :=
  [(.text "uid", .text "alice"), (.integer 7, .char 'x'), (.text "max", .present (.integer 5)),
    (.text "7", .absent)]

theorem params_scalars_sample :
    (∃ ps, params (.map sampleEntries) = .ok ps ∧ ("uid", "alice") ∈ ps ∧ ("max", "5") ∈ ps ∧
      ∀ text, ("7", text) ∉ ps) ∧
    params (.map (sampleEntries ++ [(.text "tags", .list [.text "x"])])) =
      params (.map sampleEntries) ∧
    params (.list [.text "x"]) = .ok [] ∧ params (.map [(.unit, .unit)]) = .error .keyNotText ∧
    (∃ e, params (.map (sampleEntries ++ [(.text "x", .list [.integer (2 ^ 64)])])) = .error e) ∧
    (Shape.integer (2 ^ 64)).toJson = .error .numberOutOfRange ∧
    "-9223372036854775808".toInt? = some (-9223372036854775808) := by
  obtain ⟨hError, hNoJson, hOther, hObject, hInteger, hOutside, hInsert⟩ := params_scalars
  obtain ⟨entries, ps, hEntries, hParams, -, hMem⟩ := hObject (.map sampleEntries)
    [("7", .null), ("max", .number (.natural 5)), ("uid", .string "alice")] (by rfl)
  obtain rfl : sampleEntries = entries := Option.some.inj hEntries
  refine ⟨⟨ps, hParams, ?_, ?_, ?_⟩, ?_, ?_, ?_, ?_, ?_, ?_⟩
  · exact (hMem _ _).mpr ⟨.text "alice", by rfl, .text "alice"⟩
  · exact (hMem _ _).mpr ⟨.present (.integer 5), by rfl, .present (.integer (by decide))⟩
  · intro text hText
    obtain ⟨v, hLast, hParam⟩ := (hMem _ _).mp hText
    obtain rfl : .absent = v := Option.some.inj hLast
    cases hParam
  · exact hInsert _ _ _ _ sampleEntries [] "tags" (.array [.string "x"])
      (congrArg some (List.append_nil sampleEntries).symm) rfl rfl (by decide +kernel) rfl
      (.inr (.inl ⟨_, rfl⟩))
  · exact hOther _ (.array [.string "x"]) (by rfl) nofun
  · exact (hError _ _).mpr (by rfl)
  · refine (hNoJson _).mpr (.value (List.mem_append_right _ (List.mem_singleton.mpr rfl)) ?_)
    exact .item (List.mem_singleton.mpr rfl) (.integer (.inr le_rfl))
  · exact (hOutside _ (.inr le_rfl)).1
  · exact (hInteger (-9223372036854775808) (by decide) (by decide)).2

end Info

end BindingCoverage
