import TexBuild.Proofs.Host
import TexBuild.Proofs.Table.Substitution
import TexBuild.Proofs.Tool.Finding

namespace TexBuild

namespace Launch

variable {launch : Launch} {v : Volume} {f : Fault}

theorem isClean_iff :
    launch.isClean = true ↔
      ∀ word ∈ launch.command :: launch.arguments, Text.isFit word.toList = true :=
  List.all_eq_true

/-- A command line that is fit for the system starts a program or is refused. -/
theorem start_eq_error (clean : launch.isClean = true) (failed : launch.start v = .error f) :
    ∃ cause, f = .system cause := by
  unfold start at failed
  rw [if_pos clean] at failed
  rcases there : launch.station v with e | directory
  · rw [there] at failed
    cases failed
    exact ⟨_, rfl⟩
  · rw [there] at failed
    obtain ⟨e, -, same⟩ := mapError_eq_error_iff.mp failed
    exact ⟨_, same.symm⟩

/-- A word that the system does not take ends a launch before anything is looked up. -/
theorem start_of_not_isClean (unfit : launch.isClean ≠ true) :
    launch.start v = .error launch.unfit := by
  unfold start
  rw [if_neg unfit]
  rfl

theorem unfit_cases (l : Launch) : l.unfit = .nulInText ∨ l.unfit = .loneSurrogate :=
  Fault.unfit_cases _

theorem unfit_ne_system (l : Launch) {cause : SystemError} : l.unfit ≠ .system cause := by
  obtain same | same := l.unfit_cases
  · rw [same]
    nofun
  · rw [same]
    nofun

theorem isClean_of_start {image : Image} (started : launch.start v = .ok image) :
    launch.isClean = true := by
  by_cases clean : launch.isClean = true
  · exact clean
  · rw [start_of_not_isClean clean] at started
    cases started

end Launch

namespace Search

variable {q : Search} {x : Programs} {t : Binary64} {s : Session} {h : Host}
  {command platform : String}

/-- The packaged table is loaded: the variable for the most values that a document may hold is not
set, or is a number that is large enough. -/
def LoadsTable (environment : Environment) : Prop :=
  ∃ limit, Table.Node.limit environment = .ok limit ∧ Table.packagedNode.size ≤ limit

theorem packagedTable_of_loadsTable {environment : Environment} (loads : LoadsTable environment) :
    Table.packagedTable environment = .ok Table.packagedNode := by
  obtain ⟨limit, read, enough⟩ := loads
  unfold Table.packagedTable
  rw [read]
  exact if_neg (Nat.not_lt.mpr enough)

/-- A table that is not loaded is not refused like one whose references lead nowhere. -/
theorem packagedTable_of_not_loadsTable {environment : Environment}
    (unread : ¬ LoadsTable environment) :
    ∃ e, Table.packagedTable environment = .error e ∧ isTableRefusal (.table e) = false := by
  unfold Table.packagedTable
  rcases read : Table.Node.limit environment with e | limit
  · refine ⟨e, rfl, ?_⟩
    unfold Table.Node.limit at read
    split at read
    · cases read
    · next text _ =>
      cases whole : (Numeral.whole 10 text).toOption with
      | none =>
        rw [whole] at read
        cases read
        rfl
      | some n =>
        rw [whole] at read
        cases read
  · have large : limit < Table.packagedNode.size :=
      Nat.lt_of_not_le fun enough => unread ⟨limit, read, enough⟩
    exact ⟨.unconstructible, if_pos large, rfl⟩

/-- The stack has room for reading a text for references, if there is one in it. -/
def HasRoom (h : Host) (text : String) : Prop :=
  Table.hasReference text.toList = true → h.stack.reads text = true

/-- The packaged table gives install locations or is refused: it is loaded, and there is room for
reading the home directory for references and then, unless these are not well formed, the command. -/
structure ListsLocations (h : Host) (command platform : String) : Prop where
  table : LoadsTable h.environment
  home : HasRoom h (homeFor h platform).text
  tool : (Table.piece? (homeFor h platform).text.toList).isSome = true → HasRoom h command

theorem checkName_of_hasRoom {name : String} (room : HasRoom h name) :
    checkName h name =
      if (Table.piece? name.toList).isSome then .ok () else .error (.table .badReference) := by
  have read : ¬ (Table.hasReference name.toList = true ∧ (!h.stack.reads name) = true) := by
    rintro ⟨referring, unread⟩
    rw [room referring] at unread
    cases unread
  unfold checkName Table.Word.checkValue
  rw [if_neg read]
  dsimp only
  split <;> rfl

theorem checkName_of_not_hasRoom {name : String} (full : ¬ HasRoom h name) :
    checkName h name = .error .stackOverflow := by
  obtain ⟨referring, unread⟩ := Classical.not_imp.mp full
  exact if_pos ⟨referring, by simp [unread]⟩

/-- The packaged table ends a search exactly if it is not loaded, or if a name in it lies too deep. -/
theorem tablePaths_refuses_iff :
    (∀ f, tablePaths h command platform = .error f → isTableRefusal f = true) ↔
      ListsLocations h command platform := by
  unfold tablePaths
  by_cases loads : LoadsTable h.environment
  · rw [packagedTable_of_loadsTable loads]
    dsimp only [mapError_ok, bind, Except.bind]
    by_cases home : HasRoom h (homeFor h platform).text
    · rw [checkName_of_hasRoom home]
      by_cases read : (Table.piece? (homeFor h platform).text.toList).isSome = true
      · rw [if_pos read]
        by_cases tool : HasRoom h command
        · refine iff_of_true (fun f failed => ?_) ⟨loads, home, fun _ => tool⟩
          rw [checkName_of_hasRoom tool] at failed
          by_cases read : (Table.piece? command.toList).isSome = true
          · rw [if_pos read] at failed
            obtain ⟨e, located, rfl⟩ := mapError_eq_error_iff.mp failed
            exact Table.refuses_knownLocations _ _ located
          · rw [if_neg read] at failed
            cases failed
            rfl
        · refine iff_of_false (fun refuses => ?_) fun lists => tool (lists.tool read)
          rw [checkName_of_not_hasRoom tool] at refuses
          cases refuses _ rfl
      · rw [if_neg read]
        exact iff_of_true (fun f failed => by cases failed; rfl)
          ⟨loads, home, fun some => absurd some read⟩
    · refine iff_of_false (fun refuses => ?_) fun lists => home lists.home
      rw [checkName_of_not_hasRoom home] at refuses
      cases refuses _ rfl
  · -- a table that is not loaded would end the search with a fault that is no refusal
    obtain ⟨e, failed, other⟩ := packagedTable_of_not_loadsTable loads
    refine iff_of_false (fun refuses => ?_) fun lists => loads lists.table
    rw [failed] at refuses
    rw [refuses (.table e) rfl] at other
    cases other

/-- The search for an engine ends with one, found or not. A command that is a path must be fit
for the system, and the directory at hand there if the path is refused; a bare one must be fit
too, and where it does not answer the table of install locations must be one. -/
def Settles (q : Search) (x : Programs) (t : Binary64) (s : Session) : Prop :=
  if isPathLike q.command then
    s.host.Fits (Path.ofString q.command) ∧
      ∀ f, s.host.resolve (Path.ofString q.command) = .error f →
        s.host.volume.get? s.host.cwd ≠ none
  else
    Text.isFit q.command.toList = true ∧
      ∀ s', (ask (x.probe (.binary t)) q.command).runOn s = (.ok false, s') →
        q.candidates = none →
          ∀ f, tablePaths s'.host q.command q.platform = .error f → isTableRefusal f = true

theorem versionLaunch_isClean_iff :
    (Programs.versionLaunch h command).isClean = true ↔ Text.isFit command.toList = true := by
  have flag : Text.isFit Programs.versionFlag.toList = true := by decide
  rw [Launch.isClean_iff]
  simp [Programs.versionLaunch, flag]

/-- A command is asked by a launch; where the system does not start it, it has not answered. -/
theorem runOn_ask (s : Session) :
    (ask (x.probe (.binary t)) command).runOn s =
      let asked := { s with asked := s.asked ++ [command] }
      let launch := Programs.versionLaunch s.host command
      match launch.start s.host.volume with
      | .ok image =>
        let answer := x.answers (.binary t) launch image s.host.volume
        (.ok answer.1, asked.withVolume answer.2)
      | .error (.system _) => (.ok false, asked)
      | .error f => (.error f, asked) := by
  unfold ask Programs.probe
  rw [Act.runOn_bind, Act.runOn_noteAsked]
  dsimp only
  rw [Act.runOn_bind, Act.runOn_host]
  dsimp only
  rcases (Programs.versionLaunch s.host command).start s.host.volume with f | image
  · cases f <;> rfl
  · rfl

/-- A command that is fit for the system answers or does not. -/
theorem runOn_ask_of_fit (fit : Text.isFit command.toList = true) (s : Session) :
    ∃ answer s', (ask (x.probe (.binary t)) command).runOn s = (.ok answer, s') := by
  rw [runOn_ask]
  dsimp only
  rcases started : (Programs.versionLaunch s.host command).start s.host.volume with f | image
  · obtain ⟨cause, rfl⟩ := Launch.start_eq_error (versionLaunch_isClean_iff.mpr fit) started
    exact ⟨_, _, rfl⟩
  · exact ⟨_, _, rfl⟩

theorem runOn_ask_of_unfit (unfit : Text.isFit command.toList ≠ true) (s : Session) :
    ∃ f s', (ask (x.probe (.binary t)) command).runOn s = (.error f, s') := by
  have unclean : (Programs.versionLaunch s.host command).isClean ≠ true :=
    fun clean => unfit (versionLaunch_isClean_iff.mp clean)
  have start := Launch.start_of_not_isClean (v := s.host.volume) unclean
  rw [runOn_ask]
  dsimp only
  rw [start]
  obtain same | same := (Programs.versionLaunch s.host command).unfit_cases
  · rw [same]
    exact ⟨_, _, rfl⟩
  · rw [same]
    exact ⟨_, _, rfl⟩

theorem workingDirectory_iff :
    (∃ p, h.workingDirectory = .ok p) ↔ h.volume.get? h.cwd ≠ none := by
  unfold Host.workingDirectory
  cases h.volume.get? h.cwd <;> simp

/-- A command that is a path has an absolute form if it is resolved, or if it is refused in a directory
that is there. -/
theorem absoluteCommand_iff :
    (∃ text, absoluteCommand h command = .ok text) ↔
      h.Fits (Path.ofString command) ∧
        ∀ f, h.resolve (Path.ofString command) = .error f → h.volume.get? h.cwd ≠ none := by
  rw [← Host.resolve_refuses_iff, ← workingDirectory_iff, absoluteCommand]
  rcases h.resolve (Path.ofString command) with f | p
  · cases refusal : f.isRefusal with
    | false =>
      refine ⟨fun ⟨text, found⟩ => ?_, fun ⟨refuses, _⟩ => ?_⟩
      · dsimp only at found
        rw [refusal] at found
        cases found
      · have refused := refuses f rfl
        rw [refusal] at refused
        cases refused
    | true =>
      dsimp only
      rw [refusal, if_pos rfl]
      simp only [bind_eq_ok_iff]
      constructor
      · rintro ⟨text, directory, there, -⟩
        exact ⟨fun _ same => Except.error.inj same ▸ refusal, fun _ _ => ⟨directory, there⟩⟩
      · rintro ⟨-, there⟩
        obtain ⟨directory, there⟩ := there f rfl
        exact ⟨_, directory, there, rfl⟩
  · have settled f (failed : (.ok p : Except Fault Path) = .error f) : False := by cases failed
    exact ⟨fun _ => ⟨fun f failed => (settled f failed).elim,
      fun f failed => (settled f failed).elim⟩, fun _ => ⟨_, rfl⟩⟩

theorem fit_of_pathExists {p : Path} (found : h.pathExists p = true) :
    Volume.isClean p = true := by
  unfold Host.pathExists Host.isFile at found
  by_cases fit : Volume.isClean p = true
  · exact fit
  · rw [if_neg fit] at found
    cases found

theorem resolve_of_path (path : isPathLike q.command = true) :
    (∃ tool s', (q.resolve (x.probe (.binary t))).runOn s = (.ok tool, s')) ↔
      ∃ text, absoluteCommand s.host q.command = .ok text := by
  rw [runOn_resolve_of_path path, Act.runOn_bind, Act.runOn_ofExcept]
  rcases absoluteCommand s.host q.command with f | text
  · simp
  dsimp only
  refine ⟨fun _ => ⟨text, rfl⟩, fun _ => ?_⟩
  cases there : s.host.pathExists (Path.ofString text) with
  | false => exact ⟨_, _, rfl⟩
  | true =>
    have fit := Volume.isFit_of_isClean (fit_of_pathExists there)
    obtain ⟨answer, s', asked⟩ := runOn_ask_of_fit (x := x) (t := t) fit s
    rw [if_pos rfl, Act.runOn_bind, asked]
    exact ⟨_, _, rfl⟩

/-- The install locations are those that are given, or those of the table; a table that is refused has
none, and a notice tells so. -/
theorem runOn_candidatePaths (s : Session) :
    q.candidatePaths.runOn s =
      match q.candidates with
      | some paths => (.ok paths, s)
      | none =>
        match tablePaths s.host q.command q.platform with
        | .ok paths => (.ok paths, s)
        | .error f =>
          if isTableRefusal f then (.ok [], s.telling [tableNotice]) else (.error f, s) := by
  unfold candidatePaths
  cases q.candidates with
  | some paths => rfl
  | none =>
    dsimp only
    rw [Act.runOn_bind, Act.runOn_host]
    dsimp only
    rcases tablePaths s.host q.command q.platform with f | paths
    · cases refusal : isTableRefusal f with
      | true =>
        dsimp only
        rw [refusal, if_pos rfl, if_pos rfl]
        rfl
      | false =>
        dsimp only
        rw [refusal]
        rfl
    · rfl

theorem candidatePaths_iff :
    (∃ paths s', q.candidatePaths.runOn s = (.ok paths, s')) ↔
      (q.candidates = none →
        ∀ f, tablePaths s.host q.command q.platform = .error f → isTableRefusal f = true) := by
  rw [runOn_candidatePaths]
  cases q.candidates with
  | some paths => exact ⟨fun _ => nofun, fun _ => ⟨paths, s, rfl⟩⟩
  | none =>
    dsimp only
    rcases tablePaths s.host q.command q.platform with f | paths
    · cases refusal : isTableRefusal f <;> simp [refusal]
    · simp

theorem runOn_firstInstalled {paths : List Path} {path : Path}
    (first : firstInstalled s.host paths = some path) :
    ∃ answer s', (ask (x.probe (.binary t)) path.text).runOn s = (.ok answer, s') :=
  runOn_ask_of_fit (Volume.isClean_iff.mp (fit_of_pathExists (List.find?_some first))) s

/-- A search for a bare command settles with the command if it answers, and with the install locations if
not. -/
theorem resolve_of_bare (bare : isPathLike q.command = false) :
    (∃ tool s', (q.resolve (x.probe (.binary t))).runOn s = (.ok tool, s')) ↔
      Text.isFit q.command.toList = true ∧
        ∀ s', (ask (x.probe (.binary t)) q.command).runOn s = (.ok false, s') →
          ∃ paths s'', q.candidatePaths.runOn s' = (.ok paths, s'') := by
  rw [resolve_of_bare_command bare, Act.runOn_bind]
  by_cases fit : Text.isFit q.command.toList = true
  case neg =>
    obtain ⟨f, s', asked⟩ := runOn_ask_of_unfit (x := x) (t := t) fit s
    rw [asked]
    simp [fit]
  obtain ⟨answer, s', asked⟩ := runOn_ask_of_fit (x := x) (t := t) fit s
  rw [asked]
  cases answer with
  | true =>
    refine ⟨fun _ => ⟨fit, fun _ other => ?_⟩, fun _ => ?_⟩
    · cases other
    · exact ⟨_, _, rfl⟩
  | false =>
    dsimp only
    rw [settleAfter, Act.runOn_bind]
    rcases searched : q.candidatePaths.runOn s' with ⟨f | paths, s''⟩
    · refine ⟨fun ⟨_, _, found⟩ => (by cases found), fun ⟨_, found⟩ => ?_⟩
      obtain ⟨paths, s₃, there⟩ := found s' rfl
      rw [searched] at there
      cases there
    · refine ⟨fun _ => ⟨fit, fun s₃ same => ?_⟩, fun _ => ?_⟩
      · cases same
        exact ⟨paths, s'', searched⟩
      dsimp only
      rw [Act.runOn_bind, Act.runOn_host]
      dsimp only
      cases first : firstInstalled s''.host paths with
      | none => exact ⟨_, _, rfl⟩
      | some path =>
        obtain ⟨verified, s₃, asked'⟩ := runOn_firstInstalled (x := x) (t := t) first
        rw [settleFor, Act.runOn_bind, asked']
        exact ⟨_, _, rfl⟩

/-- A search ends with an engine exactly if it settles. -/
theorem resolve_settles_iff :
    (∃ tool s', (q.resolve (x.probe (.binary t))).runOn s = (.ok tool, s')) ↔
      q.Settles x t s := by
  unfold Settles
  cases path : isPathLike q.command with
  | true => rw [resolve_of_path path, absoluteCommand_iff, if_pos rfl]
  | false =>
    rw [resolve_of_bare path, if_neg Bool.false_ne_true]
    simp only [candidatePaths_iff]

end Search

end TexBuild
