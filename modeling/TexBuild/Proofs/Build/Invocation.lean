import TexBuild.Proofs.Build.Source
import TexBuild.Proofs.Host.Sight
import TexBuild.Proofs.Volume.Image

namespace TexBuild

namespace Host

variable {h : Host} {p q : Path} {roots : List String}

/-- Where a build is made, when the user's directories are these. -/
def buildDirectoryFrom (h : Host) (roots : List String) : Option Path → Except Fault Path
  | some p => h.resolve p
  | none => h.defaultBuildDirectory roots

theorem buildDirectory_eq (h : Host) (given : Option Path) :
    h.buildDirectory given = h.buildDirectoryFrom h.userRoots given := by
  cases given <;> rfl

theorem isAbsolute_lexicalPath (h : Host) (p : Path) : (h.lexicalPath p).IsAbsolute := by
  have steps (names : List Name) (q : Path) :
      (names.foldl lexicalStep q).anchor = q.anchor := by
    induction names generalizing q with
    | nil => rfl
    | cons n names ih =>
      rw [List.foldl_cons, ih, lexicalStep]
      split <;> rfl
  have whole : ((Volume.spell h.cwd).join p).IsAbsolute := (Volume.isAbsolute_spell h.cwd).join p
  unfold lexicalPath
  dsimp only
  rw [Path.IsAbsolute, steps]
  exact whole

theorem isAbsolute_of_temporary (found : h.temporaryDirectory = .ok p) : p.IsAbsolute := by
  unfold temporaryDirectory at found
  cases first : h.temporaryCandidates.find? h.isUsable with
  | none => rw [first] at found; cases found
  | some q =>
    rw [first] at found
    cases found
    have among : p ∈ h.temporaryCandidates := List.mem_of_find?_eq_some first
    unfold temporaryCandidates at among
    rw [List.mem_append, List.mem_append] at among
    obtain (named | usual) | here := among
    · obtain ⟨variableName, -, named⟩ := List.mem_filterMap.mp named
      split at named
      · split at named
        · cases named
        · cases named
          exact isAbsolute_lexicalPath h _
      · cases named
    · have absolute : ∀ p ∈ ["/tmp", "/var/tmp", "/usr/tmp"].map Path.ofString, p.IsAbsolute := by
        decide
      exact absolute p usual
    · rw [List.mem_singleton.mp here]
      exact Volume.isAbsolute_spell h.cwd

theorem isAbsolute_of_buildDirectoryBelow (found : h.buildDirectoryBelow roots = .ok p) :
    p.IsAbsolute := by
  unfold buildDirectoryBelow at found
  split at found
  · next root first =>
    cases found
    refine Path.IsAbsolute.join ?_ _
    exact Path.isAbsolute_ofString_iff.mpr (by simpa using List.find?_some first)
  · obtain ⟨directory, temporary, joined⟩ := bind_eq_ok_iff.mp found
    cases joined
    exact (isAbsolute_of_temporary temporary).join _

/-- Wherever a build is made, the path of the place is absolute. -/
theorem isAbsolute_of_buildDirectoryFrom {given : Option Path}
    (found : h.buildDirectoryFrom roots given = .ok p) : p.IsAbsolute := by
  cases given with
  | some q => exact isAbsolute_of_resolve found
  | none =>
    change h.defaultBuildDirectory roots = .ok p at found
    unfold defaultBuildDirectory at found
    split at found
    · split at found
      · exact isAbsolute_of_buildDirectoryBelow found
      · exact isAbsolute_of_resolve found
    · exact isAbsolute_of_buildDirectoryBelow found

end Host

namespace Plan

/-- What a build removes as an earlier document is what a path leads to, or a link on its way. -/
def Unseats (p : Plan) (s : Session) (q : Path) : Prop :=
  ∃ loc e v, s.host.volume.findLink s.host.cwd p.artifact.text = .ok (loc, e) ∧
    s.host.volume.unlink s.host.cwd p.artifact.text = .ok v ∧ s.host.Uses q loc

/-- How the engine is started by a build that found its source and its directory in the first
session, and has removed an earlier document in the second one. -/
structure Invokes (p : Plan) (s₁ s₂ : Session) (launch : Launch) : Prop where
  words : launch.arguments =
    [Tool.batchFlag, "-output-directory=" ++ p.directory.text, p.source.text]
  anchored : ∀ q ∈ [p.source, p.directory], q.text.toList.head? = some '/'
  workplace : launch.directory = p.source.parent.names.reverse
  agree : ∀ q ∈ [p.source, p.directory], ∀ (v : Volume) d,
    v.find launch.directory q.text = v.find d q.text
  source : s₁.host.isFile p.source = .ok true ∧
    ∃ loc id, s₁.host.volume.find launch.directory p.source.text = .ok (loc, .file id)
  directory : ∃ loc mode,
    s₁.host.volume.find launch.directory p.directory.text = .ok (loc, .directory mode)
  artifact : ∀ (v : Volume) d loc e, v.findLink d p.artifact.text = .ok (loc, e) →
    ∃ directory e', v.find launch.directory p.directory.text = .ok (directory, e') ∧
      loc = artifactName p.source :: directory
  still_iff : ∀ q ∈ [p.source, p.directory],
    s₂.host.volume.find launch.directory q.text = s₁.host.volume.find launch.directory q.text ↔
      ¬ p.Unseats s₁ q

end Plan

namespace Builder

variable (b : Builder) (x : Programs) (probe : Probe) (relocate : Relocation)

/-- A build whose source is found and whose earlier document is out of the way comes to start its
engine like this, whether that can be started or not. -/
def Spawns (p : Plan) (s : Session) (launch : Launch) : Prop :=
  ∃ tool s', (b.search.resolve probe).runOn s = (.ok tool, s') ∧
    launch = p.launch tool s'.host.environment

/-- A build that has come so far in a session goes on as far as this, and leaves this session
then. -/
inductive Follows (pr₀ : Progress) (s₀ : Session) : Progress → Session → Prop
  | refl : Follows pr₀ s₀ pr₀ s₀
  | next {pr pr' s₁ s₂} : Follows pr₀ s₀ pr s₁ →
      b.Takes x probe relocate pr s₁ (.onward pr') s₂ → Follows pr₀ s₀ pr' s₂

variable {b x probe relocate} {source : Path} {s s₀ s₁ s₂ s₃ : Session} {pr pr₀ : Progress}
  {p p' : Plan} {launch : Launch} {image : Image} {roots : List String}

/-- After its paths are known a build goes on as one with these paths. -/
theorem Reaches.follows (reach : b.Reaches x probe relocate source s pr s₁)
    (planned : pr.plan? = some p) :
    b.planAt s.host source = .ok p ∧
      b.Follows x probe relocate (.planned p) (s.telling (Report.start p.source p.directory)) pr
        s₁ := by
  refine ⟨reach.planAt_eq planned, ?_⟩
  induction reach with
  | begun => cases planned
  | next before onward ih =>
    cases onward with
    | plan paths =>
      obtain ⟨rfl, rfl⟩ := before.of_begun
      cases planned
      exact .refl
    | prepare made => exact (ih planned).next (.prepare made)
    | source found => exact (ih planned).next (.source found)
    | clear removed => exact (ih planned).next (.clear removed)
    | clearNothing absent => exact (ih planned).next (.clearNothing absent)
    | start search begun => exact (ih planned).next (.start search begun)
    | watch limited seen ended => exact (ih planned).next (.watch limited seen ended)
    | produce found => exact (ih planned).next (.produce found)

theorem Follows.number_le (follows : b.Follows x probe relocate pr₀ s₀ pr s₁) :
    pr₀.number ≤ pr.number := by
  induction follows with
  | refl => exact Nat.le_refl _
  | next _ onward ih =>
    have later := onward.number_eq
    omega

theorem Follows.of_planned
    (follows : b.Follows x probe relocate (.planned p) s₀ (.planned p') s₁) :
    p' = p ∧ s₁ = s₀ := by
  cases follows with
  | refl => exact ⟨rfl, rfl⟩
  | next before onward =>
    have later := onward.number_eq
    have beyond := before.number_le
    dsimp only [Progress.number] at later beyond
    omega

/-- The stages between the paths and the start of the engine. -/
theorem Follows.of_cleared
    (follows : b.Follows x probe relocate (.planned p) s₀ (.cleared p') s₂) :
    p' = p ∧ ∃ s₁, b.Follows x probe relocate (.planned p) s₀ (.sourced p) s₁ ∧
      s₀.host.makeDirectories p.directory = (s₁.host.volume, .ok ()) ∧
      s₁.host.cwd = s₀.host.cwd ∧ s₁.host.isFile p.source = .ok true ∧
      b.Takes x probe relocate (.sourced p) s₁ (.onward (.cleared p)) s₂ := by
  have of_sourced {p' s₁} (follows : b.Follows x probe relocate (.planned p) s₀ (.sourced p') s₁) :
      p' = p ∧ s₀.host.makeDirectories p.directory = (s₁.host.volume, .ok ()) ∧
        s₁.host.cwd = s₀.host.cwd ∧ s₁.host.isFile p.source = .ok true := by
    cases follows with
    | next before onward =>
      cases onward with
      | source found =>
        cases before with
        | next before onward =>
          cases onward with
          | prepare made =>
            obtain ⟨rfl, rfl⟩ := before.of_planned
            exact ⟨rfl, made, rfl, found⟩
  cases follows with
  | next sourced onward =>
    have clears := onward
    cases onward with
    | clear removed =>
      obtain ⟨rfl, made, here, found⟩ := of_sourced sourced
      exact ⟨rfl, _, sourced, made, here, found, clears⟩
    | clearNothing absent =>
      obtain ⟨rfl, made, here, found⟩ := of_sourced sourced
      exact ⟨rfl, _, sourced, made, here, found, clears⟩

/-- A path leads to the same after an earlier document is removed exactly if that was not on the
way to it. -/
theorem Takes.find_eq_iff (takes : b.Takes x probe relocate (.sourced p) s₁ (.onward pr) s₂)
    {q : Path} {loc : Loc} {e : Entry}
    (found : s₁.host.volume.find s₁.host.cwd q.text = .ok (loc, e)) :
    s₂.host.volume.find s₁.host.cwd q.text = s₁.host.volume.find s₁.host.cwd q.text ↔
      ¬ p.Unseats s₁ q := by
  cases takes with
  | @clear p s v removed =>
    obtain ⟨spare, e', named, leaf, rfl⟩ := Volume.unlink_eq_ok removed
    have unseats : p.Unseats s₁ q ↔ s₁.host.Uses q spare := by
      refine ⟨?_, fun uses => ⟨spare, e', _, named, removed, uses⟩⟩
      rintro ⟨spare', e'', v, named', -, uses⟩
      cases named.symm.trans named'
      exact uses
    rw [unseats, found, Session.volume_withVolume, Volume.find_erase_eq_ok_iff leaf,
      and_iff_right found, Host.Uses, not_or, and_comm]
    refine and_congr_right fun _ => ⟨?_, ?_⟩
    · rintro other ⟨e'', found'⟩
      cases found.symm.trans found'
      exact other rfl
    · rintro other rfl
      exact other ⟨e, found⟩
  | clearNothing absent =>
    refine iff_of_true rfl ?_
    rintro ⟨_, _, v, -, removed, -⟩
    cases absent.symm.trans removed

/-- The command line means to the engine what it means to the build. -/
theorem Follows.invokes (resolved : s.host.resolve source = .ok p.source)
    (directory : s.host.buildDirectoryFrom roots b.directory = .ok p.directory)
    (follows : b.Follows x probe relocate (.planned p) s₀ (.cleared p') s₂)
    (spawns : b.Spawns probe p' s₂ launch) :
    p' = p ∧ ∃ s₁, b.Follows x probe relocate (.planned p) s₀ (.sourced p) s₁ ∧
      p.Invokes s₁ s₂ launch := by
  obtain ⟨same, s₁, sourced, made, here, found, clears⟩ := follows.of_cleared
  obtain ⟨tool, s₃, -, rfl⟩ := same ▸ spawns
  refine ⟨same, s₁, sourced, ?_⟩
  have absolute : ∀ q ∈ [p.source, p.directory], q.IsAbsolute := by
    simp only [List.forall_mem_cons, List.not_mem_nil, false_imp_iff, implies_true, and_true]
    exact ⟨Host.isAbsolute_of_resolve resolved, Host.isAbsolute_of_buildDirectoryFrom directory⟩
  have agree : ∀ q ∈ [p.source, p.directory], ∀ (v : Volume) (d d' : Loc),
      v.find d q.text = v.find d' q.text := fun q among v =>
    Volume.find_of_isAbsolute ((Path.isAbsolute_ofString_text q).mpr (absolute q among))
  have seen : ∀ q ∈ [p.source, p.directory], ∀ (v : Volume),
      v.find (p.launch tool s₃.host.environment).directory q.text = v.find s₁.host.cwd q.text :=
    fun q among v => agree q among v _ _
  obtain ⟨-, regular⟩ := Host.isFile_eq_true_iff.mp found
  obtain ⟨place, id, file⟩ := Volume.isRegular_eq_true_iff.mp regular
  obtain ⟨place', mode, there⟩ :=
    Volume.isDirectory_iff.mp (Volume.isDirectory_of_makeDirectories made)
  rw [← here] at there
  constructor
  case words => rfl
  case anchored =>
    intro q among
    exact Path.isAbsolute_ofString_iff.mp ((Path.isAbsolute_ofString_text q).mpr (absolute q among))
  case workplace => rfl
  case agree => exact fun q among v d => agree q among v _ d
  case source => exact ⟨found, place, id, by rw [seen _ (.head _), file]⟩
  case directory => exact ⟨place', mode, by rw [seen _ (.tail _ (.head _)), there]⟩
  case artifact =>
    intro v d loc e named
    obtain ⟨-, directory, e', found, -, rfl, -⟩ :=
      (Volume.findLink_child_eq_ok_iff (artifactName_ne_up p.source)).mp named
    exact ⟨directory, e', by rw [agree _ (.tail _ (.head _)) v _ d, found], rfl⟩
  case still_iff =>
    intro q among
    rw [seen q among, seen q among]
    simp only [List.mem_cons, List.not_mem_nil, or_false] at among
    obtain rfl | rfl := among
    · exact clears.find_eq_iff file
    · exact clears.find_eq_iff there

/-- Whatever the directories of the user are, a build that comes to the start of the engine starts
it with absolute paths that lead to its source and its directory from everywhere, up to what the
removal of an earlier document took away. -/
theorem starts_with_own_paths :
    (∀ roots p p' s₂ launch, s.host.resolve source = .ok p.source →
      s.host.buildDirectoryFrom roots b.directory = .ok p.directory →
      b.Follows x probe relocate (.planned p) (s.telling (Report.start p.source p.directory))
        (.cleared p') s₂ →
      b.Spawns probe p' s₂ launch →
      p' = p ∧ ∃ s₁,
        b.Follows x probe relocate (.planned p) (s.telling (Report.start p.source p.directory))
          (.sourced p) s₁ ∧
        p.Invokes s₁ s₂ launch) ∧
    (∀ p s₂, b.Reaches x probe relocate source s (.cleared p) s₂ →
      s.host.resolve source = .ok p.source ∧
        s.host.buildDirectoryFrom s.host.userRoots b.directory = .ok p.directory ∧
        b.Follows x probe relocate (.planned p) (s.telling (Report.start p.source p.directory))
          (.cleared p) s₂) ∧
    ∀ p launch image s₃, b.Reaches x probe relocate source s (.started p launch image) s₃ →
      ∃ s₂, b.Reaches x probe relocate source s (.cleared p) s₂ ∧ b.Spawns probe p s₂ launch := by
  refine ⟨fun roots p p' s₂ launch resolved directory follows spawns =>
    follows.invokes resolved directory spawns, fun p s₂ reach => ?_, fun p launch image s₃ reach => ?_⟩
  · obtain ⟨paths, follows⟩ := reach.follows rfl
    obtain ⟨resolved, directory⟩ := planAt_eq_ok_iff.mp paths
    exact ⟨resolved, (Host.buildDirectory_eq _ _).symm.trans directory, follows⟩
  · obtain ⟨s₂, s₂', tool, cleared, search, same, -⟩ := reach.of_started
    exact ⟨s₂, cleared, tool, s₂', search, same⟩

/-- Of the user's directories the first one that is absolute counts. -/
theorem starts_with_own_paths_desk :
    let b : Builder := { deskBuilder with directory := none }
    let probe := greeting.probe (.whole 5)
    let p : Plan := ⟨Path.ofString "/s/cv.tex", Path.ofString "/b/build"⟩
    let s₀ := desk.telling (Report.start p.source p.directory)
    desk.host.resolve (Path.ofString "s/cv.tex") = .ok p.source ∧
      desk.host.buildDirectoryFrom ["", "cache", "/b"] b.directory = .ok p.directory ∧
      ∃ launch s₁ s₂, b.Follows greeting probe place (.planned p) s₀ (.cleared p) s₂ ∧
        b.Spawns probe p s₂ launch ∧ p.Invokes s₁ s₂ launch ∧
        launch.command :: launch.arguments =
          ["/tex", "-interaction=nonstopmode", "-output-directory=/b/build", "/s/cv.tex"] := by
  intro b probe p s₀
  have resolved : desk.host.resolve (Path.ofString "s/cv.tex") = .ok p.source :=
    toOption_eq_some_iff.mp (by decide +kernel)
  have directory : desk.host.buildDirectoryFrom ["", "cache", "/b"] b.directory = .ok p.directory :=
    toOption_eq_some_iff.mp (by decide +kernel)
  let v := (desk.host.makeDirectories p.directory).1
  let s₂ := s₀.withVolume v
  let search := (b.search.resolve probe).runOn s₂
  let tool : Tool := ⟨"/tex", false, true⟩
  have done : (s₀.host.makeDirectories p.directory).2 = .ok () := by decide +kernel
  have made : s₀.host.makeDirectories p.directory = (v, .ok ()) :=
    (Prod.eta _).symm.trans (congrArg (Prod.mk v) done)
  have there : s₂.host.isFile p.source = .ok true := toOption_eq_some_iff.mp (by decide +kernel)
  have absent : s₂.host.volume.unlink s₂.host.cwd p.artifact.text = .error .noEntry := by
    decide +kernel
  have resolves : (b.search.resolve probe).runOn s₂ = (.ok tool, search.2) :=
    Act.runOn_eq_ok (by decide +kernel)
  have cleared : b.Follows greeting probe place (.planned p) s₀ (.cleared p) s₂ :=
    ((Follows.refl.next (.prepare made)).next (.source there)).next (.clearNothing absent)
  have spawns : b.Spawns probe p s₂ (p.launch tool search.2.host.environment) :=
    ⟨tool, search.2, resolves, rfl⟩
  obtain ⟨-, s₁, -, invokes⟩ :=
    starts_with_own_paths.1 _ _ _ _ _ resolved directory cleared spawns
  exact ⟨resolved, directory, _, s₁, s₂, cleared, spawns, invokes, by decide +kernel⟩

/-- A source in the directory for builds that has the name of its own document is gone when the
engine is started with its path. -/
theorem starts_without_source :
    let source := Path.ofString "/b/cv.pdf"
    let s := desk.withVolume (desk.host.volume.putFile Job.deskSpot ⟨[37], 0o644⟩)
    let run := (deskBuilder.begin (greeting.probe (.whole 5)) source).runOn s
    let begun := run.1.toOption.bind Except.toOption
    s.host.pathExists source = true ∧
      begun.map (fun (_, launch, _) => launch.arguments.getLast?) = some (some "/b/cv.pdf") ∧
      begun.map (fun (_, launch, _) =>
        (run.2.host.volume.find launch.directory "/b/cv.pdf").toOption) = some none := by
  decide +kernel

end Builder

end TexBuild
