import TexBuild.Proofs.Build.Outcome
import TexBuild.Proofs.Path.Spelling
import TexBuild.Proofs.Tool.Search
import TexBuild.Tool.Requirements

namespace TexBuild

/-- On this host an operation ends in this way and leaves the host as it is, whatever else the
session holds. -/
def Act.Gives {α : Type} (h : Host) (a : Act α) (r : Except Fault α) : Prop :=
  ∀ s, s.host = h → (a.runOn s).1 = r ∧ (a.runOn s).2.host = h

variable {h : Host}

namespace Act

variable {α β : Type} {a : Act α} {f : α → Act β} {x : α}

theorem gives_pure : Gives h (pure x : Act α) (.ok x) :=
  fun _ here => ⟨rfl, here⟩

theorem gives_throw {fault : Fault} : Gives h (throw fault : Act α) (.error fault) :=
  fun _ here => ⟨rfl, here⟩

theorem gives_tell {n : Notice} : Gives h (Act.tell n) (.ok ()) :=
  fun _ here => ⟨rfl, here⟩

theorem gives_noteAsked {command : String} : Gives h (Act.noteAsked command) (.ok ()) :=
  fun _ here => ⟨rfl, here⟩

theorem gives_ofExcept (r : Except Fault α) : Gives h (MonadExcept.ofExcept r : Act α) r := by
  intro s here
  rw [runOn_ofExcept]
  exact ⟨rfl, here⟩

/-- On a host that stays as it is, one operation after another is a computation. -/
theorem Gives.bind {r : Except Fault α} {g : α → Except Fault β} (first : Gives h a r)
    (next : ∀ x, Gives h (f x) (g x)) : Gives h (a >>= f) (r >>= g) := by
  intro s here
  obtain ⟨given, left⟩ := first s here
  rw [runOn_bind]
  generalize a.runOn s = ran at given left
  obtain ⟨fault | x, s₁⟩ := ran
  · subst given
    exact ⟨rfl, left⟩
  · subst given
    exact next x s₁ left

/-- On one host an operation ends in one way. -/
theorem Gives.unique {r r' : Except Fault α} (this : Gives h a r) (other : Gives h a r') : r = r' :=
  (this ⟨h, [], [], .still⟩ rfl).1.symm.trans (other ⟨h, [], [], .still⟩ rfl).1

theorem Gives.bind_host {f : Host → Act β} {r : Except Fault β} (next : Gives h (f h) r) :
    Gives h (Act.host >>= f) r := by
  intro s here
  subst here
  exact next s rfl

end Act

open Act

/-- A probe of programs that change nothing when they are asked for their version answers alike
as long as nothing around changes. -/
theorem Programs.gives_probe {x : Programs} {limit : Seconds} (command : String)
    (quiet : ∀ launch image, (x.answers limit launch image h.volume).2 = h.volume) :
    ∃ answer, Gives h (x.probe limit command) answer := by
  have unchanged : Gives h (Act.setVolume h.volume) (.ok ()) := by
    intro s here
    subst here
    exact ⟨rfl, rfl⟩
  unfold Programs.probe
  rcases started : (versionLaunch h command).start h.volume with fault | image
  · by_cases refused : ∃ cause, fault = .system cause
    · obtain ⟨cause, rfl⟩ := refused
      refine ⟨.ok false, Gives.bind_host ?_⟩
      dsimp only
      rw [started]
      exact gives_pure
    · refine ⟨.error fault, Gives.bind_host ?_⟩
      dsimp only
      rw [started]
      cases fault with
      | system cause => exact absurd ⟨cause, rfl⟩ refused
      | _ => exact gives_throw
  · let answer := (x.answers limit (versionLaunch h command) image h.volume).1
    refine ⟨limit.toBinary.mapError Fault.span >>= fun _ => .ok answer, Gives.bind_host ?_⟩
    dsimp only
    rw [started]
    dsimp only
    rw [quiet]
    exact (gives_ofExcept _).bind fun _ => unchanged.bind fun _ => gives_pure

namespace Search

variable {q : Search} {probe : Probe} {answers : String → Except Fault Bool} {paths : List Path}
  {path : Path}

/-- The install paths that are tried on a host. -/
def pathsOn (q : Search) (h : Host) : Except Fault (List Path) :=
  match q.candidates with
  | some paths => .ok paths
  | none =>
    match tablePaths h q.command q.platform with
    | .ok paths => .ok paths
    | .error fault => if isTableRefusal fault then .ok [] else .error fault

/-- The engine that a bare command stands for on a host, as commands answer there. -/
def toolOn (q : Search) (h : Host) (answers : String → Except Fault Bool) : Except Fault Tool := do
  if ← answers q.command then return ⟨q.command, true, true⟩
  match firstInstalled h (← q.pathsOn h) with
  | some path => return ⟨path.text, false, ← answers path.text⟩
  | none => return ⟨q.command, true, false⟩

theorem gives_candidatePaths : Gives h q.candidatePaths (q.pathsOn h) := by
  intro s here
  subst here
  rw [runOn_candidatePaths, pathsOn]
  cases q.candidates with
  | some paths => exact ⟨rfl, rfl⟩
  | none =>
    dsimp only
    rcases tablePaths s.host q.command q.platform with fault | paths
    · cases refusal : isTableRefusal fault with
      | true =>
        dsimp only
        rw [refusal, if_pos rfl, if_pos rfl]
        exact ⟨rfl, rfl⟩
      | false =>
        dsimp only
        rw [refusal, if_neg Bool.false_ne_true, if_neg Bool.false_ne_true]
        exact ⟨rfl, rfl⟩
    · exact ⟨rfl, rfl⟩

theorem gives_ask {command : String} {answer : Except Fault Bool}
    (probed : Gives h (probe command) answer) : Gives h (ask probe command) answer :=
  gives_noteAsked.bind fun _ => probed

theorem gives_resolve (bare : isPathLike q.command = false)
    (steady : ∀ command, Gives h (probe command) (answers command)) :
    Gives h (q.resolve probe) (q.toolOn h answers) := by
  rw [resolve_of_bare_command bare, toolOn]
  refine (gives_ask (steady q.command)).bind fun answer => ?_
  cases answer with
  | true => exact gives_tell.bind fun _ => gives_pure
  | false =>
    refine gives_candidatePaths.bind fun paths => Gives.bind_host ?_
    cases firstInstalled h paths with
    | none => exact gives_tell.bind fun _ => gives_pure
    | some path =>
      exact (gives_ask (steady path.text)).bind fun verified => gives_tell.bind fun _ => gives_pure

theorem gives_requirements (bare : isPathLike q.command = false)
    (steady : ∀ command, Gives h (probe command) (answers command)) :
    Gives h (q.requirements probe) (q.toolOn h answers >>= fun tool => .ok (status h tool)) :=
  (gives_resolve bare steady).bind fun _ => Gives.bind_host gives_pure

theorem gives_describe :
    Gives h q.describe
      (q.pathsOn h >>= fun paths => .ok ("\n".intercalate (q.describeLines h paths))) :=
  gives_candidatePaths.bind fun _ => Gives.bind_host gives_pure

/-- The report says of a candidate that it is there. -/
def Shows (h : Host) (path : Path) : Prop :=
  candidateLine h path = s!"  {path}: EXISTS"

/-- The first of some candidates of which the report says that it is there. -/
def FirstShown (h : Host) (paths : List Path) (path : Path) : Prop :=
  ∃ before after, paths = before ++ path :: after ∧ Shows h path ∧ ∀ p ∈ before, ¬ Shows h p

/-- The lines of the report before those of the candidates. -/
def opening (q : Search) (h : Host) (paths : List Path) : List String :=
  let variableName := homeVariable q.platform
  [s!"{variableName}: " ++ (h.environment.get? variableName).getD "NOT_FOUND", "Common paths:"] ++
    if paths = [] then ["  (none for this platform)"] else []

/-- The lines of the report after those of the candidates. -/
def closing (q : Search) (h : Host) : List String :=
  ["", match which h q.command with
    | some place => s!"{q.command} found in PATH: {place}"
    | none => s!"{q.command} not found in PATH"]

theorem describeLines_eq :
    q.describeLines h paths = q.opening h paths ++ paths.map (candidateLine h) ++ q.closing h :=
  rfl

theorem shows_iff : Shows h path ↔ h.pathExists path = true := by
  unfold Shows candidateLine
  cases h.pathExists path with
  | true => exact iff_of_true String.append_assoc rfl
  | false =>
    refine iff_of_false (fun same => ?_) Bool.false_ne_true
    have alike : s!"  {path}" ++ ": not found" = s!"  {path}" ++ ": EXISTS" :=
      String.append_assoc.symm.trans same
    have words : ": not found" = ": EXISTS" := by
      have letters := congrArg String.toList alike
      simp only [String.toList_append] at letters
      exact String.toList_injective (List.append_cancel_left letters)
    exact absurd words (by decide)

theorem firstShown_iff : FirstShown h paths path ↔ firstInstalled h paths = some path := by
  unfold FirstShown
  rw [firstInstalled, List.find?_eq_some_iff_append]
  simp only [shows_iff, Bool.not_eq_true, Bool.not_eq_eq_eq_not]
  constructor
  · rintro ⟨before, after, cut, there, none⟩
    exact ⟨there, before, after, cut, none⟩
  · rintro ⟨there, before, after, cut, none⟩
    exact ⟨before, after, cut, there, none⟩

theorem not_shown_iff : (∀ path ∈ paths, ¬ Shows h path) ↔ firstInstalled h paths = none := by
  simp only [shows_iff, firstInstalled, List.find?_eq_none]

/-- What is reported of an engine is all there or not at all. -/
theorem status_consistent (h : Host) (tool : Tool) :
    (status h tool).satisfied = (status h tool).available ∧
      (status h tool).available = (status h tool).path.isSome := by
  unfold status
  split
  · cases tool.verified with
    | false => exact ⟨rfl, rfl⟩
    | true => cases which h tool.command <;> exact ⟨rfl, rfl⟩
  · dsimp only
    cases h.pathExists (Path.ofString tool.command) <;> exact ⟨rfl, rfl⟩

theorem status_of_requirements {s s' : Session} {r : Requirements}
    (checked : (q.requirements probe).runOn s = (.ok r, s')) : ∃ tool, r = status s'.host tool := by
  obtain ⟨tool, s₁, -, checked⟩ := runOn_bind_eq_ok_iff.mp checked
  cases checked
  exact ⟨tool, rfl⟩

theorem status_answered (h : Host) (command : String) :
    ∃ path, status h ⟨command, true, true⟩ = ⟨true, some path, true⟩ := by
  unfold status
  dsimp only
  cases which h command with
  | none => exact ⟨command, rfl⟩
  | some place => exact ⟨place, rfl⟩

theorem status_installed (there : h.pathExists path = true) (verified : Bool) :
    status h ⟨path.text, false, verified⟩ = ⟨true, some path.text, true⟩ := by
  simp [status, Path.ofString_text_self, there]

/-- The three views of a search among some candidates, when the bare command does not answer. -/
structure AgreeAmong (q : Search) (probe : Probe) (h : Host)
    (answers : String → Except Fault Bool) (paths : List Path) : Prop where
  report : Gives h q.describe
    (.ok ("\n".intercalate (q.opening h paths ++ paths.map (candidateLine h) ++ q.closing h)))
  pathTool_iff : (∃ tool, Gives h (q.resolve probe) (.ok tool) ∧ tool.isBare = false) ↔
    (∃ path ∈ paths, Shows h path) ∧
      ∀ path, FirstShown h paths path → ∃ verified, answers path.text = .ok verified
  installed : ∀ path verified, FirstShown h paths path → answers path.text = .ok verified →
    Gives h (q.resolve probe) (.ok ⟨path.text, false, verified⟩) ∧
      Gives h (q.requirements probe) (.ok ⟨true, some path.text, true⟩)
  failed : ∀ path fault, FirstShown h paths path → answers path.text = .error fault →
    Gives h (q.resolve probe) (.error fault) ∧ Gives h (q.requirements probe) (.error fault)
  nowhere : (∀ path ∈ paths, ¬ Shows h path) →
    Gives h (q.resolve probe) (.ok ⟨q.command, true, false⟩) ∧
      Gives h (q.requirements probe) (.ok ⟨false, none, false⟩)

theorem agreeAmong (bare : isPathLike q.command = false)
    (steady : ∀ command, Gives h (probe command) (answers command))
    (silent : answers q.command = .ok false) (tried : q.pathsOn h = .ok paths) :
    AgreeAmong q probe h answers paths := by
  have found := gives_resolve bare steady
  have checked := gives_requirements bare steady
  have reported := gives_describe (q := q) (h := h)
  have tool : q.toolOn h answers =
      match firstInstalled h paths with
      | some path => answers path.text >>= fun verified => .ok ⟨path.text, false, verified⟩
      | none => .ok ⟨q.command, true, false⟩ := by
    rw [toolOn, silent, tried]
    rfl
  rw [tool] at found checked
  simp only [tried, describeLines_eq] at reported
  refine ⟨reported, ?_, fun path verified first answered => ?_, fun path fault first answered => ?_,
    fun none => ?_⟩
  · constructor
    · rintro ⟨t, given, named⟩
      have same := given.unique found
      cases first : firstInstalled h paths with
      | none =>
        rw [first] at same
        cases same
        cases named
      | some path =>
        rw [first] at same
        obtain ⟨verified, answered, -⟩ := bind_eq_ok_iff.mp same.symm
        have shown : FirstShown h paths path := firstShown_iff.mpr first
        refine ⟨?_, fun other shown' => ?_⟩
        · obtain ⟨before, after, rfl, there, -⟩ := shown
          exact ⟨path, by simp, there⟩
        · cases first.symm.trans (firstShown_iff.mp shown')
          exact ⟨verified, answered⟩
    · rintro ⟨⟨path, among, there⟩, answered⟩
      cases first : firstInstalled h paths with
      | none => exact absurd there (not_shown_iff.mpr first path among)
      | some path =>
        obtain ⟨verified, answered⟩ := answered path (firstShown_iff.mpr first)
        rw [first] at found
        dsimp only at found
        rw [answered] at found
        exact ⟨_, found, rfl⟩
  · have first := firstShown_iff.mp first
    rw [first] at found checked
    dsimp only at found checked
    rw [answered] at found checked
    have there : h.pathExists path = true := List.find?_some first
    rw [← status_installed there verified]
    exact ⟨found, checked⟩
  · rw [firstShown_iff.mp first] at found checked
    dsimp only at found checked
    rw [answered] at found checked
    exact ⟨found, checked⟩
  · rw [not_shown_iff.mp none] at found checked
    exact ⟨found, checked⟩

/-- The three views of a search agree on a host that stays as it is, with a probe that answers
alike. -/
theorem views_agree (steady : ∀ command, Gives h (probe command) (answers command)) :
    (isPathLike q.command = false →
      (answers q.command = .ok true →
        Gives h (q.resolve probe) (.ok ⟨q.command, true, true⟩) ∧
          ∃ path, Gives h (q.requirements probe) (.ok ⟨true, some path, true⟩)) ∧
      (answers q.command = .ok false → ∀ paths, Gives h q.candidatePaths (.ok paths) →
        AgreeAmong q probe h answers paths) ∧
      (answers q.command = .ok false → ∀ fault, Gives h q.candidatePaths (.error fault) →
        Gives h (q.resolve probe) (.error fault) ∧ Gives h (q.requirements probe) (.error fault) ∧
          Gives h q.describe (.error fault)) ∧
      ∀ fault, answers q.command = .error fault →
        Gives h (q.resolve probe) (.error fault) ∧ Gives h (q.requirements probe) (.error fault)) ∧
    ∀ s r s', (q.requirements probe).runOn s = (.ok r, s') →
      r.satisfied = r.available ∧ r.available = r.path.isSome := by
  refine ⟨fun bare => ?_, fun s r s' checked => ?_⟩
  · have found := gives_resolve bare steady
    have checked := gives_requirements bare steady
    have reported := gives_describe (q := q) (h := h)
    refine ⟨fun answered => ?_, fun silent paths tried => ?_, fun silent fault untold => ?_,
      fun fault failed => ?_⟩
    · have tool : q.toolOn h answers = .ok ⟨q.command, true, true⟩ := by
        rw [toolOn, answered]
        rfl
      rw [tool] at found checked
      obtain ⟨path, status⟩ := status_answered h q.command
      exact ⟨found, path, status ▸ checked⟩
    · exact agreeAmong bare steady silent (gives_candidatePaths.unique tried)
    · have tried := gives_candidatePaths.unique untold
      have tool : q.toolOn h answers = .error fault := by
        rw [toolOn, silent, tried]
        rfl
      rw [tool] at found checked
      rw [tried] at reported
      exact ⟨found, checked, reported⟩
    · have tool : q.toolOn h answers = .error fault := by
        rw [toolOn, failed]
        rfl
      rw [tool] at found checked
      exact ⟨found, checked⟩
  · obtain ⟨tool, rfl⟩ := status_of_requirements checked
    exact status_consistent s'.host tool

/-- Neither the bare command nor the first candidate is there, the second candidate is. -/
theorem views_agree_desk :
    let q : Search := ⟨"lua", some [Path.ofString "alt/tex", Path.ofString "/tex"], "linux"⟩
    let probe := Builder.greeting.probe (.whole 5)
    let h := Builder.desk.host
    let answers := fun command => ((probe command).runOn ⟨h, [], [], .still⟩).1
    (∀ command, Gives h (probe command) (answers command)) ∧ isPathLike q.command = false ∧
      answers q.command = .ok false ∧
      FirstShown h [Path.ofString "alt/tex", Path.ofString "/tex"] (Path.ofString "/tex") ∧
      Gives h (q.resolve probe) (.ok ⟨"/tex", false, true⟩) ∧
      Gives h (q.requirements probe) (.ok ⟨true, some "/tex", true⟩) := by
  intro q probe h answers
  have steady (command : String) : Gives h (probe command) (answers command) := by
    obtain ⟨answer, given⟩ : ∃ answer, Gives h (probe command) answer :=
      Programs.gives_probe command fun _ _ => rfl
    have same : answers command = answer := (given ⟨h, [], [], .still⟩ rfl).1
    rwa [same]
  have silent : answers q.command = .ok false := toOption_eq_some_iff.mp (by decide +kernel)
  have answered : answers "/tex" = .ok true := toOption_eq_some_iff.mp (by decide +kernel)
  have shown : FirstShown h [Path.ofString "alt/tex", Path.ofString "/tex"] (Path.ofString "/tex") :=
    firstShown_iff.mpr (by decide +kernel)
  have text : (Path.ofString "/tex").text = "/tex" := by decide
  have bare : isPathLike q.command = false := by decide +kernel
  obtain ⟨-, among, -⟩ := (views_agree (q := q) steady).1 bare
  have agree := among silent [Path.ofString "alt/tex", Path.ofString "/tex"] gives_candidatePaths
  have found := agree.installed (Path.ofString "/tex") true shown (by rw [text, answered])
  rw [text] at found
  exact ⟨steady, bare, silent, shown, found⟩

end Search

end TexBuild
