import TexBuild.Proofs.Tool.Order
import TexBuild.Proofs.Volume.Canonical

namespace TexBuild

variable {h : Host} {p : Path} {loc : Loc} {e : Entry} {number : Nat}

theorem Host.expandUser_of_isAbsolute (absolute : p.IsAbsolute) : h.expandUser p = .ok p := by
  have none : account? p = none := by
    unfold account?
    split
    · next here _ => exact absurd here absolute
    · rfl
  unfold expandUser
  rw [none]

theorem Path.slash_mem_text (absolute : p.IsAbsolute) : '/' ∈ p.text.toList :=
  List.mem_of_head? (isAbsolute_ofString_iff.mp ((isAbsolute_ofString_text p).mpr absolute))

theorem isPathLike_text (absolute : p.IsAbsolute) : isPathLike p.text = true :=
  List.any_eq_true.mpr ⟨'/', Path.slash_mem_text absolute, rfl⟩

theorem absoluteCommand_of_find (clean : Volume.isClean p = true) (absolute : p.IsAbsolute)
    (found : h.volume.find h.cwd p.text = .ok (loc, .file number)) :
    Search.absoluteCommand h p.text = .ok (Volume.spell loc).text := by
  have resolved : h.resolve p = .ok (Volume.spell loc) := by
    unfold Host.resolve
    rw [Host.expandUser_of_isAbsolute absolute]
    exact Volume.canonical_of_find h.stack.enough clean absolute found nofun
  unfold Search.absoluteCommand
  dsimp only
  rw [Path.ofString_text_self, resolved]

/-- A probe that answers for every command that is fit for the system. -/
def Probe.Responds (probe : Probe) : Prop :=
  ∀ command, Text.isFit command.toList = true →
    ∀ s, ∃ answer s', (Search.ask probe command).runOn s = (.ok answer, s')

theorem Programs.responds_probe {x : Programs} {limit : Binary64} :
    Probe.Responds (x.probe (.binary limit)) :=
  fun _ fit s => Search.runOn_ask_of_fit fit s

namespace Search

variable {probe : Probe} {s t t' : Session} {command : String}

theorem runOn_resolve_of_place (responds : probe.Responds) (clean : Volume.isClean p = true)
    (absolute : p.IsAbsolute) (found : s.host.volume.find s.host.cwd p.text = .ok (loc, .file number))
    (candidates : Option (List Path)) (platform : String) :
    ∃ verified s', (resolve probe ⟨p.text, candidates, platform⟩).runOn s =
      (.ok ⟨(Volume.spell loc).text, false, verified⟩, s') := by
  have like : isPathLike p.text = true := isPathLike_text absolute
  have named := absoluteCommand_of_find clean absolute found
  by_cases there : s.host.HasFile (Path.ofString (Volume.spell loc).text)
  · obtain ⟨verified, s', asked⟩ := responds _ (Volume.isFit_of_isClean there.1) s
    exact ⟨verified, s', (Course.present (q := ⟨_, candidates, platform⟩) like named there
      asked).runOn_resolve⟩
  · exact ⟨false, s, (Course.absent (q := ⟨_, candidates, platform⟩) like named
      there).runOn_resolve⟩

theorem runOn_resolve_of_candidate (responds : probe.Responds) (bare : isPathLike command = false)
    (silent : (ask probe command).runOn t = (.ok false, t')) (there : t'.host.HasFile p)
    (platform : String) :
    ∃ verified t'', (resolve probe ⟨command, some [p], platform⟩).runOn t =
      (.ok ⟨p.text, false, verified⟩, t'') := by
  obtain ⟨verified, t₂, asked⟩ := responds p.text (Volume.isClean_iff.mp there.1) t'
  have sole : (Search.candidatePaths ⟨command, some [p], platform⟩).runOn t' =
      (.ok ([] ++ p :: []), t') := rfl
  exact ⟨verified, _, (Course.installed bare silent sole nofun there asked).runOn_resolve⟩

/-- An engine that is named by an absolute path is found under the spelling of the place where its
file stands, one that is found at this path as an install location under the path itself. The two
names, and with them the names that the engine is started with and the directories that come first
on its search path, are the same exactly if the path is that spelling. Both lead to the file from
everywhere, but for a spelling that is longer than the system takes. -/
theorem resolve_by_path_and_by_place (responds : probe.Responds) (clean : Volume.isClean p = true)
    (absolute : p.IsAbsolute)
    (found : s.host.volume.find s.host.cwd p.text = .ok (loc, .file number))
    (bare : isPathLike command = false)
    (silent : (ask probe command).runOn t = (.ok false, t')) (there : t'.host.HasFile p)
    (candidates : Option (List Path)) (platform platform' : String) :
    ∃ tool other s' t'',
      (resolve probe ⟨p.text, candidates, platform⟩).runOn s = (.ok tool, s') ∧
      (resolve probe ⟨command, some [p], platform'⟩).runOn t = (.ok other, t'') ∧
      (Path.ofString tool.command = Volume.spell loc ∧ Path.ofString other.command = p) ∧
      (tool.directory? = some (Volume.spell loc).parent ∧ other.directory? = some p.parent) ∧
      (tool.command = other.command ↔ p = Volume.spell loc) ∧
      ∀ directory, s.host.volume.find directory other.command = .ok (loc, .file number) ∧
        s.host.volume.find directory tool.command =
          if Volume.pathLimit < Text.octets tool.command.toList then .error .nameTooLong
          else .ok (loc, .file number) := by
  obtain ⟨verified, s', byPath⟩ :=
    runOn_resolve_of_place responds clean absolute found candidates platform
  obtain ⟨verified', t'', byPlace⟩ :=
    runOn_resolve_of_candidate responds bare silent there platform'
  have absolute' : (Path.ofString p.text).IsAbsolute := (Path.isAbsolute_ofString_text p).mpr absolute
  have file : s.host.volume.get? loc = some (.file number) :=
    Volume.get?_of_locate (Volume.find_eq_ok_iff.mp found)
  have straight : s.host.volume.Straight loc := by
    refine Volume.straight_of_find ?_ found
    rw [Path.origin_of_isAbsolute absolute']
    trivial
  refine ⟨_, _, s', t'', byPath, byPlace,
    ⟨Path.ofString_text_self _, Path.ofString_text_self p⟩, ⟨?_, ?_⟩, ?_, fun directory => ⟨?_, ?_⟩⟩
  · exact congrArg (fun q => some (Path.parent q)) (Path.ofString_text_self _)
  · exact congrArg (fun q => some (Path.parent q)) (Path.ofString_text_self p)
  · exact Path.text_inj.trans eq_comm
  · exact (Volume.find_of_isAbsolute absolute' directory _).trans found
  · exact Volume.find_spell straight file nofun directory

/-- The desk with a link to the engine beside the source. -/
def linkedDesk : Session :=
  Builder.desk.withVolume
    (Builder.desk.host.volume.put (Path.ofString "/s/latex").names.reverse (.link "/tex"))

theorem resolve_by_path_and_by_place_linked :
    let probe := Builder.greeting.probe (.binary (Binary64.ofInt 10))
    let p := Path.ofString "/s/latex"
    ∃ tool other s' t'',
      (resolve probe ⟨p.text, none, "linux"⟩).runOn linkedDesk = (.ok tool, s') ∧
      (resolve probe ⟨"lua", some [p], "linux"⟩).runOn linkedDesk = (.ok other, t'') ∧
      Path.ofString tool.command = Path.ofString "/tex" ∧ Path.ofString other.command = p := by
  intro probe p
  let asked := (ask probe "lua").runOn linkedDesk
  have found : linkedDesk.host.volume.find linkedDesk.host.cwd p.text =
      .ok ([⟨"tex", by decide⟩], .file 1) := toOption_eq_some_iff.mp (by decide +kernel)
  have silent : asked = (.ok false, asked.2) := Act.runOn_eq_ok (by decide +kernel)
  have there : asked.2.host.HasFile p := Host.pathExists_iff.mp (by decide +kernel)
  obtain ⟨tool, other, s', t'', byPath, byPlace, ⟨first, second⟩, -⟩ :=
    resolve_by_path_and_by_place Programs.responds_probe (by decide) (by decide) found (by decide)
      silent there none "linux" "linux"
  exact ⟨tool, other, s', t'', byPath, byPlace, first.trans (by decide), second⟩

/-- The link is found under its own name as an install location, but not as a command: the engine
is then started under the name of its file, and the directory of the link is not searched. -/
theorem resolve_by_path_loses_name :
    let probe := Builder.greeting.probe (.binary (Binary64.ofInt 10))
    let p := Path.ofString "/s/latex"
    let byPath := ((resolve probe ⟨p.text, none, "linux"⟩).runOn linkedDesk).1.toOption
    let byPlace := ((resolve probe ⟨"lua", some [p], "linux"⟩).runOn linkedDesk).1.toOption
    (p.IsAbsolute ∧ linkedDesk.host.pathExists p = true ∧
      ((ask probe "lua").runOn linkedDesk).1.toOption = some false) ∧
    byPath = some ⟨"/tex", false, true⟩ ∧ byPlace = some ⟨"/s/latex", false, true⟩ ∧
      byPath.bind Tool.directory? = some (Path.ofString "/") ∧
      byPlace.bind Tool.directory? = some (Path.ofString "/s") := by
  decide +kernel

end Search

end TexBuild
