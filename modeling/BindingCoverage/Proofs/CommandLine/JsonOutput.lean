import BindingCoverage.CommandLine.Execution
import BindingCoverage.Proofs.Declaration.RoundTrip

/-!
# Reading what commands print as JSON

* `CoverageReport.takes`, `CoverageReport.ofJson_of_writes`: every layout of the JSON of a report is
  read as that report.
* `json_output_reads_back`: sets of declarations and reports come back from both layouts, and from
  what the commands print.
-/

namespace BindingCoverage

open Json (Takes Writes Blanks Record)

namespace CoverageReport

theorem takes_names (key : String) (set : CoverageReport → List String → CoverageReport)
    (value : CoverageReport) (depth : Nat) (names : List String) :
    Takes ((namesField key set).read value) (depth + 2) (.array (names.map .string))
      (set value names) :=
  (Json.takes_list_map (Json.takes_string "a string" _) names).map (set value)

theorem takes (depth : Nat) (r : CoverageReport) : Takes record.decoder (depth + 3) r.toJson r := by
  refine Record.takes (by decide) ?_
  refine .take ((Json.takes_string "a string" _ r.symbolPrefix).map fun v => mk v [] [] []) ?_
  refine .take (takes_names _ _ _ _ _) ?_
  exact .take (takes_names _ _ _ _ _) (.take (takes_names _ _ _ _ _) .nil)

/-- Every way to write a report is read as that report. -/
theorem ofJson_of_writes {r : CoverageReport} {text after : List UInt8}
    (h : Writes r.toJson text) (hAfter : Blanks after) : ofJson (text ++ after) = .ok r :=
  Json.Decoder.run_takes (takes 125 r) h hAfter

end CoverageReport

namespace CommandLine

theorem blanks_lineEnd : Blanks (Utf8.encode "\n") := by
  intro b hb
  rw [List.mem_singleton.mp hb]
  rfl

/-- What reads a value from every text that writes it reads it from what is printed. -/
theorem reads_printed {α : Type} {read : List UInt8 → Except Json.Error α} {v : Json} {a : α}
    (hRead : ∀ {text after}, Writes v text → Blanks after → read (text ++ after) = .ok a) :
    read (Utf8.encode v.compact) = .ok a ∧ read (Utf8.encode v.pretty) = .ok a ∧
      read (Utf8.encode (line v.pretty)) = .ok a := by
  refine ⟨?_, ?_, ?_⟩
  · rw [← List.append_nil (Utf8.encode v.compact)]
    exact hRead (Json.writes_compact v) Json.blanks_nil
  · rw [← List.append_nil (Utf8.encode v.pretty)]
    exact hRead (Json.writes_pretty v) Json.blanks_nil
  · rw [line, Utf8.encode_append]
    exact hRead (Json.writes_pretty v) blanks_lineEnd

/-- Whatever a set of declarations or a report holds, it is read back as it was from its JSON in the
compact and in the pretty layout, and from what the commands print when they are asked for JSON. -/
theorem json_output_reads_back :
    (∀ s : DeclarationSet,
      DeclarationSet.ofJson (Utf8.encode s.toJson.compact) = .ok s ∧
      DeclarationSet.ofJson (Utf8.encode s.toJson.pretty) = .ok s ∧
      DeclarationSet.ofJson (Utf8.encode (declarationsOutput true s)) = .ok s) ∧
    ∀ r : CoverageReport,
      CoverageReport.ofJson (Utf8.encode r.toJson.compact) = .ok r ∧
      CoverageReport.ofJson (Utf8.encode r.toJson.pretty) = .ok r ∧
      CoverageReport.ofJson (Utf8.encode (reportOutput true r)) = .ok r :=
  ⟨fun _ => reads_printed DeclarationSet.ofJson_of_writes,
    fun _ => reads_printed CoverageReport.ofJson_of_writes⟩

/-- A declaration whose name has every kind of character that is escaped. -/
example :
    let s : DeclarationSet :=
      ⟨[{ Declaration.named "a\"\\\n\x01é" with line := some 4294967295 }]⟩
    DeclarationSet.ofJson (Utf8.encode s.toJson.compact) = .ok s := by decide +kernel

end CommandLine

end BindingCoverage
