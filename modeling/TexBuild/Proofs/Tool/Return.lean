import TexBuild.Proofs.Build.Outcome
import TexBuild.Proofs.Path.Spelling
import TexBuild.Proofs.Tool.Search

namespace TexBuild.Search

variable {q : Search} {x : Programs} {t : Binary64} {probe : Probe} {s s' : Session} {h : Host}
  {command platform : String} {candidates : Option (List Path)} {tool : Tool}

theorem command_ne_empty_of_resolve (named : q.command ≠ "")
    (resolved : (q.resolve probe).runOn s = (.ok tool, s')) : tool.command ≠ "" := by
  cases finds_of_resolve resolved with
  | @path text _ _ _ absolute _ =>
    unfold absoluteCommand at absolute
    dsimp only at absolute
    split at absolute
    · cases absolute
      exact Path.text_ne_empty _
    · split at absolute
      · obtain ⟨directory, -, same⟩ := bind_eq_ok_iff.mp absolute
        cases same
        exact Path.text_ne_empty _
      · cases absolute
  | installed => exact Path.text_ne_empty _
  | answered | nowhere => exact named

theorem forCommand_command_ne_empty : (forCommand command candidates platform).command ≠ "" := by
  unfold forCommand
  dsimp only
  split
  · decide
  · assumption

/-- A command that is asked may change the volume, and nothing else. -/
theorem host_of_ask {answer : Bool}
    (asked : (ask (x.probe (.binary t)) command).runOn s = (.ok answer, s')) :
    ∃ v, s'.host = { s.host with volume := v } := by
  rw [runOn_ask] at asked
  dsimp only at asked
  split at asked <;> cases asked <;> exact ⟨_, rfl⟩

/-- What is listed of the packaged table does not hang on the volume. -/
theorem listsLocations_of_ask {answer : Bool}
    (asked : (ask (x.probe (.binary t)) command).runOn s = (.ok answer, s')) {name : String} :
    ListsLocations s'.host name platform ↔ ListsLocations s.host name platform := by
  obtain ⟨v, same⟩ := host_of_ask asked
  rw [same]
  exact ⟨fun ⟨table, home, tool⟩ => ⟨table, home, tool⟩, fun ⟨table, home, tool⟩ => ⟨table, home, tool⟩⟩

end TexBuild.Search
