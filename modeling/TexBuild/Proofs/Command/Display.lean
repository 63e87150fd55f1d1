import TexBuild.Command.Run
import TexBuild.Proofs.Volume.Respelling

namespace TexBuild

/-- A host as a system has it: the targets of links can be read, and the directory at hand is spelled
without links and comes after directories that can be entered, as it can itself. -/
structure Host.IsSound (h : Host) : Prop where
  targets : h.volume.FitLinks
  settled : h.volume.Settled h.cwd
  entered : h.volume.Entered h.cwd

variable {h : Host} {p q base : Path} {rest : List Name} {l : Loc}

theorem Host.workingDirectory_eq (entered : h.volume.Entered h.cwd) :
    h.workingDirectory = .ok (Volume.spell h.cwd) := by
  obtain ⟨mode, found, -⟩ := Volume.passable_eq_ok_iff.mp (entered h.cwd List.suffix_rfl)
  rw [Host.workingDirectory, found]

namespace Path

/-- A path lies at another one or below it. -/
def LiesIn (p base : Path) : Prop :=
  p.anchor = base.anchor ∧ base.names <+: p.names

instance (p base : Path) : Decidable (p.LiesIn base) :=
  inferInstanceAs (Decidable (_ ∧ _))

/-- What lies at or below a path is shown by the names that lead down to it, which lead back to it. -/
theorem LiesIn.exists_relativeTo? (inside : p.LiesIn base) :
    ∃ rest, p.relativeTo? base = some ⟨.here, rest⟩ ∧ base.join ⟨.here, rest⟩ = p := by
  obtain ⟨anchor, rest, parts⟩ := inside
  refine ⟨rest, ?_, ?_⟩
  · rw [relativeTo?, if_pos ⟨anchor, List.isPrefixOf_iff_prefix.mpr ⟨rest, parts⟩⟩, ← parts,
      List.drop_left]
  · obtain ⟨anchor', names⟩ := p
    obtain rfl : anchor' = base.anchor := anchor
    obtain rfl : base.names ++ rest = names := parts
    rfl

theorem relativeTo?_eq_none (apart : ¬ p.LiesIn base) : p.relativeTo? base = none :=
  if_neg fun both => apart ⟨both.1, List.isPrefixOf_iff_prefix.mp both.2⟩

end Path

namespace Command
open Volume

theorem displayed_eq (sound : h.IsSound) (resolved : h.canonical p = .ok q) :
    displayed h p = .ok ((q.relativeTo? (spell h.cwd)).getD p).text := by
  rw [displayed, resolved]
  dsimp only
  rw [Host.workingDirectory_eq sound.entered]
  refine bind_eq_ok_iff.mpr ⟨_, rfl, ?_⟩
  cases q.relativeTo? (spell h.cwd) with
  | none => rfl
  | some below => rfl

/-- A directory `w` at hand with links in it: two after one another, one into a directory below, one
that leads back from there, and one to itself. -/
def linkHost : Host where
  volume := {
    entries := [
      ([⟨"w", by decide⟩], .directory 0o755), ([⟨"y", by decide⟩, ⟨"w", by decide⟩], .file 0),
      ([⟨"x", by decide⟩, ⟨"w", by decide⟩], .link "y"),
      ([⟨"loop", by decide⟩, ⟨"w", by decide⟩], .link "loop"),
      ([⟨"deep", by decide⟩, ⟨"w", by decide⟩], .link "sub/low"),
      ([⟨"sub", by decide⟩, ⟨"w", by decide⟩], .directory 0o755),
      ([⟨"low", by decide⟩, ⟨"sub", by decide⟩, ⟨"w", by decide⟩], .directory 0o755),
      ([⟨"y", by decide⟩, ⟨"sub", by decide⟩, ⟨"w", by decide⟩], .link "../x")]
    files := [(0, ⟨[], 0o644⟩)]
    next := 1 }
  medium := .calm
  cwd := [⟨"w", by decide⟩]
  environment := []
  accounts := ⟨none, []⟩
  stack := .usual

theorem isSound_linkHost : linkHost.IsSound where
  targets := by
    refine fitLinks_of_entries fun loc target among => ?_
    simp only [linkHost, List.mem_cons, Prod.mk.injEq, Entry.link.injEq, reduceCtorEq, and_false,
      false_or, List.not_mem_nil, or_false] at among
    obtain ⟨-, rfl⟩ | ⟨-, rfl⟩ | ⟨-, rfl⟩ | ⟨-, rfl⟩ := among <;> decide
  settled := ⟨⟨by decide, by decide, by decide +kernel⟩, trivial⟩
  entered := by
    intro d above
    obtain rfl | above := List.suffix_cons_iff.mp above
    · decide
    · rw [List.suffix_nil.mp above]
      rfl

/-- A directory `w` at hand below one that cannot be entered, and a link beside that one. -/
def shutHost : Host :=
  { linkHost with
    volume := {
      entries := [
        ([⟨"shut", by decide⟩], .directory 0o600),
        ([⟨"w", by decide⟩, ⟨"shut", by decide⟩], .directory 0o755),
        ([⟨"z", by decide⟩], .link "y"), ([⟨"y", by decide⟩], .file 0)]
      files := [(0, ⟨[], 0o644⟩)]
      next := 1 }
    cwd := [⟨"w", by decide⟩, ⟨"shut", by decide⟩] }

end Command

end TexBuild
