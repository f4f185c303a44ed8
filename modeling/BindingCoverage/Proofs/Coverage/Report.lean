import BindingCoverage.Proofs.Coverage.Registry
import BindingCoverage.Proofs.Declaration.Canonical
import BindingCoverage.Proofs.Text.Sorted

/-!
# What a coverage report accounts for

`CoverageReport.Accounts` says which names a report lists, in which order, and that no name is left
out or listed twice.

* `compare_accounts`: the comparison with a canonical set accounts for every name.
* `compare_congr`: neither the order of the implemented names nor their repetitions matter.
* `report_accounts`: what the registry reports for a prefix that a set was registered for.
-/

namespace BindingCoverage

namespace CoverageReport

/-- The report lists every expected or implemented name with the prefix exactly once. -/
structure Accounts (r : CoverageReport) (symbolPrefix : String) (expected : DeclarationSet)
    (implemented : List String) : Prop where
  symbolPrefix_eq : r.symbolPrefix = symbolPrefix
  /-- Found and missing names stand in the order of the declarations. -/
  found_eq : r.found = expected.names.filter fun n =>
    Text.startsWith n symbolPrefix ∧ n ∈ implemented
  missing_eq : r.missing = expected.names.filter fun n =>
    Text.startsWith n symbolPrefix ∧ n ∉ implemented
  /-- Unexpected names stand in the order of their octets. -/
  unexpected_rising : r.unexpected.Pairwise fun m n => Utf8.encode m < Utf8.encode n
  mem_unexpected : ∀ n, n ∈ r.unexpected ↔
    n ∈ implemented ∧ Text.startsWith n symbolPrefix ∧ n ∉ expected.names
  found_nodup : r.found.Nodup
  missing_nodup : r.missing.Nodup
  unexpected_nodup : r.unexpected.Nodup
  found_missing : r.found.Disjoint r.missing
  found_unexpected : r.found.Disjoint r.unexpected
  missing_unexpected : r.missing.Disjoint r.unexpected
  mem_iff : ∀ n, n ∈ r.found ∨ n ∈ r.missing ∨ n ∈ r.unexpected ↔
    Text.startsWith n symbolPrefix ∧ (n ∈ expected.names ∨ n ∈ implemented)
  count_eq : r.expectedCount = (expected.names.filter (Text.startsWith · symbolPrefix)).length
  isComplete_iff : r.isComplete ↔
    ∀ n ∈ expected.names, Text.startsWith n symbolPrefix → n ∈ implemented

end CoverageReport

namespace DeclarationSet

theorem names_withPrefix (s : DeclarationSet) (beginning : String) :
    (s.withPrefix beginning).map (·.name) = s.names.filter (Text.startsWith · beginning) := by
  rw [withPrefix, names, List.filter_map]
  rfl

theorem filter_names_withPrefix (s : DeclarationSet) (beginning : String) (p : String → Bool) :
    ((s.withPrefix beginning).map (·.name)).filter p =
      s.names.filter fun n => Text.startsWith n beginning ∧ p n := by
  rw [names_withPrefix, List.filter_filter]
  refine List.filter_congr fun n _ => ?_
  simp [and_comm]

theorem contains_iff {s : DeclarationSet} {name : String} : s.contains name ↔ name ∈ s.names := by
  simp [contains, get?, names, List.find?_isSome]

end DeclarationSet

namespace CoverageReport

variable {symbolPrefix : String} {expected : DeclarationSet}
  {implemented implemented' : List String}

theorem found_compare : (compare symbolPrefix expected implemented).found =
    expected.names.filter fun n => Text.startsWith n symbolPrefix ∧ n ∈ implemented := by
  refine (expected.filter_names_withPrefix symbolPrefix _).trans (List.filter_congr fun n _ => ?_)
  simp

theorem missing_compare : (compare symbolPrefix expected implemented).missing =
    expected.names.filter fun n => Text.startsWith n symbolPrefix ∧ n ∉ implemented := by
  refine (expected.filter_names_withPrefix symbolPrefix _).trans (List.filter_congr fun n _ => ?_)
  simp

theorem mem_unexpected_compare {n : String} :
    n ∈ (compare symbolPrefix expected implemented).unexpected ↔
      n ∈ implemented ∧ Text.startsWith n symbolPrefix ∧ n ∉ expected.names := by
  change n ∈ List.filter _ _ ↔ _
  rw [List.mem_filter, Text.Sorted.mem_unique, Bool.and_eq_true, Bool.not_eq_true',
    ← Bool.not_eq_true, DeclarationSet.contains_iff]

theorem pairwise_unexpected_compare :
    (compare symbolPrefix expected implemented).unexpected.Pairwise (· < ·) :=
  (Text.Sorted.pairwise_unique implemented).filter _

theorem compare_congr (h : ∀ n, n ∈ implemented ↔ n ∈ implemented') :
    compare symbolPrefix expected implemented = compare symbolPrefix expected implemented' := by
  have hContains : ∀ n, implemented.contains n = implemented'.contains n := by
    intro n
    rw [Bool.eq_iff_iff, List.contains_iff_mem, List.contains_iff_mem, h]
  unfold compare
  rw [Text.Sorted.unique_congr h]
  simp only [hContains]

theorem mem_found_compare {n : String} :
    n ∈ (compare symbolPrefix expected implemented).found ↔
      n ∈ expected.names ∧ Text.startsWith n symbolPrefix ∧ n ∈ implemented := by
  rw [found_compare, List.mem_filter, decide_eq_true_iff]

theorem mem_missing_compare {n : String} :
    n ∈ (compare symbolPrefix expected implemented).missing ↔
      n ∈ expected.names ∧ Text.startsWith n symbolPrefix ∧ n ∉ implemented := by
  rw [missing_compare, List.mem_filter, decide_eq_true_iff]

theorem expectedCount_compare : (compare symbolPrefix expected implemented).expectedCount =
    (expected.names.filter (Text.startsWith · symbolPrefix)).length := by
  rw [← DeclarationSet.names_withPrefix]
  exact (List.length_eq_length_filter_add _).symm

theorem isComplete_compare : (compare symbolPrefix expected implemented).isComplete ↔
    ∀ n ∈ expected.names, Text.startsWith n symbolPrefix → n ∈ implemented := by
  rw [isComplete, missing_compare, List.isEmpty_iff, List.filter_eq_nil_iff]
  refine forall₂_congr fun n _ => ?_
  rw [decide_eq_true_iff, not_and, not_not]

/-- Only the names of the set have to be distinct for this. -/
theorem compare_accounts (h : expected.names.Nodup) :
    (compare symbolPrefix expected implemented).Accounts symbolPrefix expected implemented where
  symbolPrefix_eq := rfl
  found_eq := found_compare
  missing_eq := missing_compare
  unexpected_rising := pairwise_unexpected_compare.imp Utf8.encode_lt_encode_iff.mpr
  mem_unexpected _ := mem_unexpected_compare
  found_nodup := found_compare ▸ h.filter _
  missing_nodup := missing_compare ▸ h.filter _
  unexpected_nodup := pairwise_unexpected_compare.imp ne_of_lt
  found_missing n hFound hMissing :=
    (mem_missing_compare.mp hMissing).2.2 (mem_found_compare.mp hFound).2.2
  found_unexpected n hFound hUnexpected :=
    (mem_unexpected_compare.mp hUnexpected).2.2 (mem_found_compare.mp hFound).1
  missing_unexpected n hMissing hUnexpected :=
    (mem_unexpected_compare.mp hUnexpected).2.2 (mem_missing_compare.mp hMissing).1
  mem_iff n := by
    rw [mem_found_compare, mem_missing_compare, mem_unexpected_compare]
    by_cases hExpected : n ∈ expected.names
    · by_cases hImplemented : n ∈ implemented
      · simp [hExpected, hImplemented]
      · simp [hExpected, hImplemented]
    · simp [hExpected, and_comm]
  count_eq := expectedCount_compare
  isComplete_iff := isComplete_compare

end CoverageReport

namespace Registry

/-- The set that was registered last for a prefix is the one that is found. -/
theorem expected?_register {r r' : Registry} {symbolPrefix : String} {s : DeclarationSet}
    (h : r.register symbolPrefix s = .ok r') : r'.expected? symbolPrefix = some s := by
  unfold register at h
  split at h
  · cases h
  · cases h
    exact Text.Sorted.get?_put_self _ _ _

/-- A checked set can be registered for every prefix that is not empty, and then there is a report
that accounts for every name, and is the same for all lists of the same names. -/
theorem report_accounts (r : Registry) {symbolPrefix : String} (hPrefix : symbolPrefix ≠ "")
    {found : List Declaration} {s : DeclarationSet} (hSet : DeclarationSet.ensure found = .ok s)
    (implemented : List String) :
    ∃ r' report, r.register symbolPrefix s = .ok r' ∧
      r'.report? symbolPrefix implemented = some report ∧
      report.Accounts symbolPrefix s implemented ∧
      ∀ implemented' : List String, (∀ n, n ∈ implemented' ↔ n ∈ implemented) →
        r'.report? symbolPrefix implemented' = some report := by
  have hRegister : r.register symbolPrefix s =
      .ok ⟨Text.Sorted.put symbolPrefix s r.entries⟩ := by
    rw [register, if_neg]
    rwa [String.isEmpty_iff]
  have hExpected := expected?_register hRegister
  refine ⟨_, .compare symbolPrefix s implemented, hRegister, ?_,
    CoverageReport.compare_accounts (DeclarationSet.ensure_canonical hSet).distinct, ?_⟩
  · rw [report?, hExpected]
    rfl
  · intro implemented' hSame
    rw [report?, hExpected, Option.map_some, CoverageReport.compare_congr hSame]

/-- A marker, a function of another library, a name that is declared twice, names that are
implemented twice, and one with a character of two octets. -/
theorem report_accounts_rados :
    ∃ found s implemented, found = [.named "foo", .named "rados_open", .named "printf",
        .named "rados_close", .named "rados_stat", .named "rados_open"] ∧
      DeclarationSet.ensure found = .ok s ∧ "rados_" ≠ "" ∧
      implemented = ["rados_é", "rados_z", "printf", "rados_stat", "rados_z", "rados_open"] ∧
      ∃ r' report, empty.register "rados_" s = .ok r' ∧
        r'.report? "rados_" implemented = some report ∧
        report = ⟨"rados_", ["rados_open", "rados_stat"], ["rados_close"],
          ["rados_z", "rados_é"]⟩ ∧
        report.Accounts "rados_" s implemented ∧
        ∀ implemented' : List String, (∀ n, n ∈ implemented' ↔ n ∈ implemented) →
          r'.report? "rados_" implemented' = some report := by
  have hSet : DeclarationSet.ensure [.named "foo", .named "rados_open", .named "printf",
      .named "rados_close", .named "rados_stat", .named "rados_open"] =
      .ok ⟨[.named "foo", .named "rados_open", .named "printf", .named "rados_close",
        .named "rados_stat"]⟩ := by decide +kernel
  obtain ⟨r', report, hRegister, hReport, hAccounts, hSame⟩ :=
    report_accounts empty (by decide : "rados_" ≠ "") hSet
      ["rados_é", "rados_z", "printf", "rados_stat", "rados_z", "rados_open"]
  refine ⟨_, _, _, rfl, hSet, by decide, rfl, r', report, hRegister, hReport, ?_, hAccounts, hSame⟩
  cases hRegister
  have hShown : report? ⟨[("rados_", ⟨[.named "foo", .named "rados_open", .named "printf",
      .named "rados_close", .named "rados_stat"]⟩)]⟩ "rados_"
      ["rados_é", "rados_z", "printf", "rados_stat", "rados_z", "rados_open"] =
      some ⟨"rados_", ["rados_open", "rados_stat"], ["rados_close"], ["rados_z", "rados_é"]⟩ := by
    decide +kernel
  exact Option.some.inj (hReport.symm.trans hShown)

end Registry

end BindingCoverage
