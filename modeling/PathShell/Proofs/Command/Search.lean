import PathShell.Proofs.Command.Listing
import PathShell.Proofs.Text.Lines

/-!
# What a search finds

A search in a file shows the lines that contain the pattern, as they are and in their order, so that the
lines of what it shows are these lines again. Where there are none it says so, in words that need not
stand in the file.
-/

namespace PathShell
namespace Command

open Edit Text

theorem matchingLines_eq {content : String} {lines : List String} (made : HasLines content lines)
    (pattern : String) : matchingLines pattern content = lines.filter (Contains pattern ·) := by
  rw [matchingLines, ← hasLines_iff.mp made]
  refine List.filter_congr fun line _ => ?_
  rw [Bool.eq_iff_iff, contains_iff, decide_eq_true_eq]

section Findings

variable {content pattern : String} {lines : List String} (made : HasLines content lines)
  (filled : content ≠ "")

include made filled

theorem findings_of_unmatched (unmatched : ∀ line ∈ lines, ¬ Contains pattern line) :
    findings pattern content = "No matches found" := by
  have nothing : lines.filter (Contains pattern ·) = [] := by simpa using unmatched
  simp [findings, filled, matchingLines_eq made, nothing]

/-- The lines of what is shown are those that were found. -/
theorem hasLines_findings (found : ∃ line ∈ lines, Contains pattern line) :
    HasLines (findings pattern content) (lines.filter (Contains pattern ·)) := by
  have something : lines.filter (Contains pattern ·) ≠ [] := by simpa using found
  refine ⟨something, fun line among => made.plain line (List.mem_of_mem_filter among), ?_⟩
  simp [findings, filled, matchingLines_eq made, something]

theorem findings_empty : findings "" content = content := by
  obtain ⟨first, others, split⟩ := List.exists_cons_of_ne_nil made.nonempty
  have found : ∃ line ∈ lines, Contains "" line := ⟨first, by simp [split], contains_empty first⟩
  have all : lines.filter (Contains "" ·) = lines := by simp [contains_empty]
  rw [← (hasLines_findings made filled found).joined, all, made.joined]

theorem findings_of_newline (inside : '\n' ∈ pattern.toList) :
    findings pattern content = "No matches found" :=
  findings_of_unmatched made filled fun line among contains =>
    made.plain line among (mem_of_contains contains inside)

end Findings

/-- In a file with something in it, a search shows a text whose lines are just the lines of the file that
    contain the pattern, each as it is, in order and as often; or it says that there are none. With the
    empty pattern it shows the whole content, and a pattern with a newline is never found. -/
theorem grep_shows_matching_lines (now : Instant) (fs : FileSystem) (cwd pattern name : String)
    (rest : List String) {file : File} (found : fs.get? (Path.join cwd name) = some (.file file))
    (filled : file.content ≠ "") :
    ∃ lines text, (∀ others, HasLines file.content others ↔ others = lines) ∧
      Command.grep.run now (pattern :: name :: rest) cwd fs = ⟨.ok (.message text), fs⟩ ∧
      ((∃ line ∈ lines, Contains pattern line) →
        ∀ shown, HasLines text shown ↔ shown = lines.filter (Contains pattern ·)) ∧
      ((∀ line ∈ lines, ¬ Contains pattern line) → text = "No matches found") ∧
      (pattern = "" → text = file.content) ∧
      ('\n' ∈ pattern.toList → text = "No matches found") := by
  have made : HasLines file.content (pieces '\n' file.content) := hasLines_pieces file.content
  refine ⟨pieces '\n' file.content, findings pattern file.content, fun others => hasLines_iff, ?_, ?_,
    findings_of_unmatched made filled, ?_, findings_of_newline made filled⟩
  · exact run_of_ok (grep_acts now name rest cwd pattern) (run_ask_of_ok (FileSystem.read_file found))
  · intro matched shown
    have cut := hasLines_findings made filled matched
    rw [hasLines_iff, hasLines_iff.mp cut]
  · rintro rfl
    exact findings_empty made filled

/-- Lines that end with a carriage return, one of them twice, and nothing after the last newline. -/
theorem grep_shows_returned_lines :
    let fs := FileSystem.root.insert "/list" (.file ⟨"milk\r\nbread\nmilk\r\n", .epoch⟩)
    fs.get? (Path.join "/" "list") = some (.file ⟨"milk\r\nbread\nmilk\r\n", .epoch⟩) ∧
      "milk\r\nbread\nmilk\r\n" ≠ "" ∧
      Command.grep.run .epoch ["m", "list"] "/" fs = ⟨.ok (.message "milk\r\nmilk\r"), fs⟩ ∧
      Command.grep.run .epoch ["", "list"] "/" fs = ⟨.ok (.message "milk\r\nbread\nmilk\r\n"), fs⟩ := by
  intro fs
  have found : fs.get? (Path.join "/" "list") = some (.file ⟨"milk\r\nbread\nmilk\r\n", .epoch⟩) := by
    decide
  have filled : "milk\r\nbread\nmilk\r\n" ≠ "" := by decide
  refine ⟨found, filled, ?_, ?_⟩
  · obtain ⟨lines, text, unique, ran, shows, -, -, -⟩ :=
      grep_shows_matching_lines .epoch fs "/" "m" "list" [] found filled
    have cut : lines = ["milk\r", "bread", "milk\r", ""] :=
      ((unique _).mp ⟨by decide, by decide, by decide⟩).symm
    have kept : lines.filter (Contains "m" ·) = ["milk\r", "milk\r"] := by rw [cut]; decide
    have matched : ∃ line ∈ lines, Contains "m" line := by rw [cut]; decide
    rw [kept] at shows
    have text_eq : text = "milk\r\nmilk\r" := ((shows matched _).mpr rfl).joined.symm.trans (by decide)
    rw [ran, text_eq]
  · obtain ⟨lines, text, -, ran, -, -, whole, -⟩ :=
      grep_shows_matching_lines .epoch fs "/" "" "list" [] found filled
    rw [ran, whole rfl]

end Command
end PathShell
