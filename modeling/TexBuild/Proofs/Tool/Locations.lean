import TexBuild.Proofs.Tool.Return
import TexBuild.Table.File

namespace TexBuild.Table

variable {h : Host}

theorem locations_of_loadsTable (loads : Search.LoadsTable h.environment) (tool platform : String)
    (home : Path) :
    locations h tool platform (some home) none =
      (knownLocations h.environment packagedNode tool platform home).mapError .table := by
  unfold locations
  rw [Search.packagedTable_of_loadsTable loads]
  rfl

/-- The packaged table gives every platform its own places in the order of the table, with the same
names in the templates, or is refused for all platforms. The names are what a home directory and the
name of an engine are read as in the table, where references in them are followed and the mark of
what is missing is refused. They are put in if they are single words there, found in a number of
steps that grows with the letters of the table; texts without references, other than that mark, are
put in as they are given. -/
theorem locations_fill_templates (h : Host) (home : Path) (tool : String) :
    let given := Slot.texts home.text tool
    ∃ outcome : Except Fault (Slot → String),
      (∀ platform, locations h tool platform (some home) none = outcome.map (located platform)) ∧
      (∀ names, outcome = .ok names → ∀ s, Reads h.environment given s (names s) ∧
        (hasReference (given s).toList = false → names s = given s)) ∧
      (Search.LoadsTable h.environment →
        (∀ steps names, steps ≤ 16 * ((givenTable given).letters + 1) →
          (∀ s, ReadsWithin h.environment given steps s (names s)) → outcome = .ok names) ∧
        ((∀ s, IsLiteral (given s)) → outcome = .ok given)) := by
  intro given
  obtain ⟨outcome, known, reads, readable⟩ := exists_outcome h.environment home tool
  by_cases loads : Search.LoadsTable h.environment
  · refine ⟨outcome.mapError .table, fun platform => ?_, fun names named s => ?_, fun _ => ⟨?_, ?_⟩⟩
    · rw [locations_of_loadsTable loads, known platform]
      cases outcome <;> rfl
    · have read := reads names (mapError_eq_ok_iff.mp named) s
      exact ⟨read, fun plain => ((reads_iff_of_plain plain).mp read).2⟩
    · intro steps names few within
      rw [readable steps names few within]
      rfl
    · intro literal
      have few : 1 ≤ 16 * ((givenTable given).letters + 1) := by omega
      rw [readable 1 given few fun s => readsWithin_of_isLiteral (literal s)]
      rfl
  · obtain ⟨e, failed, -⟩ := Search.packagedTable_of_not_loadsTable loads
    refine ⟨.error (.table e), fun platform => ?_, nofun, fun loads' => absurd loads' loads⟩
    unfold locations
    rw [failed]
    rfl

theorem loadsTable_desk : Search.LoadsTable Builder.desk.host.environment :=
  ⟨Node.usualLimit, rfl, by decide⟩

theorem isLiteral_desk : IsLiteral (Path.ofString "/h").text :=
  ⟨by decide, by decide⟩

theorem locations_fill_templates_desk :
    locations Builder.desk.host "xelatex" "linux" (some (Path.ofString "/h")) none =
      .ok (["/usr/bin/xelatex", "/usr/local/bin/xelatex", "/opt/texbin/xelatex",
        "/h/.texlive/bin/x86_64-linux/xelatex"].map Path.ofString) := by
  obtain ⟨outcome, known, -, put⟩ :=
    locations_fill_templates Builder.desk.host (Path.ofString "/h") "xelatex"
  have literal (s : Slot) : IsLiteral (Slot.texts (Path.ofString "/h").text "xelatex" s) := by
    cases s with
    | home => exact isLiteral_desk
    | tool => exact ⟨by decide, by decide⟩
  rw [known, (put loadsTable_desk).2 literal]
  exact congrArg Except.ok (by decide +kernel)

/-- A name that is a reference in its form is followed as one: every place has the name of the home
directory where that of the engine belongs. -/
theorem locations_follow_references :
    let tool := "$\x7bhome\x7d"
    let told := located "linux" (Slot.texts "/h" tool)
    let found := located "linux" (Slot.texts "/h" "/h")
    locations Builder.desk.host tool "linux" (some (Path.ofString "/h")) none = .ok found ∧
      told.head? = some (Path.ofString "/usr/bin/$\x7bhome\x7d") ∧
      found.head? = some (Path.ofString "/usr/bin/h") := by
  intro tool told found
  let given := Slot.texts (Path.ofString "/h").text tool
  obtain ⟨outcome, known, -, readable⟩ :=
    exists_outcome Builder.desk.host.environment (Path.ofString "/h") tool
  have refers : piece? (given .tool).toList = some Slot.home.piece := by
    have spelled : tool.toList = ['$', '\x7b', 'h', 'o', 'm', 'e', '\x7d'] := by decide
    change piece? tool.toList = _
    rw [spelled]
    rfl
  have home : ReadsWithin Builder.desk.host.environment given 1 .home "/h" :=
    readsWithin_of_isLiteral isLiteral_desk
  have within (s : Slot) :
      ReadsWithin Builder.desk.host.environment given 5 s (Slot.texts "/h" "/h" s) := by
    cases s with
    | home => exact home.mono (by decide)
    | tool => exact home.of_reference refers
  have few : 5 ≤ 16 * ((givenTable given).letters + 1) := by omega
  refine ⟨?_, by decide +kernel, by decide +kernel⟩
  rw [locations_of_loadsTable loadsTable_desk, known, readable 5 _ few within]
  rfl

end TexBuild.Table
