import TexBuild.Proofs.Build.Delivery
import TexBuild.Proofs.Tool.Agreement
import TexBuild.Proofs.Tool.Command

namespace TexBuild

/-- A path that the system can read leads to a regular file. One that is refused does not. -/
def Host.HasFile (h : Host) (p : Path) : Prop :=
  Volume.isClean p = true ∧ ∃ loc number, h.volume.find h.cwd p.text = .ok (loc, .file number)

theorem Host.pathExists_iff {h : Host} {p : Path} : h.pathExists p = true ↔ h.HasFile p := by
  have found : h.pathExists p = true ↔ h.isFile p = .ok true := by
    unfold pathExists
    cases h.isFile p <;> simp
  rw [found, isFile_eq_true_iff, Volume.isRegular_eq_true_iff, HasFile]

/-- A probe that does not itself write into the list of the commands that were asked. -/
def Probe.IsQuiet (probe : Probe) : Prop :=
  ∀ command s, ((probe command).runOn s).2.asked = s.asked

theorem Programs.isQuiet_probe {x : Programs} {limit : Seconds} :
    Probe.IsQuiet (x.probe limit) := by
  intro command s
  unfold Programs.probe
  rw [Act.runOn_bind, Act.runOn_host]
  dsimp only
  rcases (Programs.versionLaunch s.host command).start s.host.volume with fault | image
  · cases fault <;> rfl
  · dsimp only
    rw [Act.runOn_bind, Act.runOn_ofExcept]
    cases limit.toBinary.mapError Fault.span <;> rfl

namespace Search

/-- A search takes this course: the commands that it asks, in order, the engine that it ends with,
and the session that it leaves. A path asks only its own file, if there is one. A bare command is
asked first, then the first candidate that has a file, which is kept whatever it answers. -/
inductive Course (q : Search) (probe : Probe) (s : Session) : List String → Tool → Session → Prop
  | present {text verified s'} : isPathLike q.command = true →
      absoluteCommand s.host q.command = .ok text → s.host.HasFile (Path.ofString text) →
      (ask probe text).runOn s = (.ok verified, s') →
      Course q probe s [text] ⟨text, false, verified⟩ s'
  | absent {text} : isPathLike q.command = true →
      absoluteCommand s.host q.command = .ok text → ¬ s.host.HasFile (Path.ofString text) →
      Course q probe s [] ⟨text, false, false⟩ s
  | answered {s₁} : isPathLike q.command = false →
      (ask probe q.command).runOn s = (.ok true, s₁) →
      Course q probe s [q.command] ⟨q.command, true, true⟩
        (s₁.telling [Notice.build .debug s!"{q.command} found on PATH"])
  | installed {s₁ s₂ before path after verified s₃} : isPathLike q.command = false →
      (ask probe q.command).runOn s = (.ok false, s₁) →
      q.candidatePaths.runOn s₁ = (.ok (before ++ path :: after), s₂) →
      (∀ p ∈ before, ¬ s₂.host.HasFile p) → s₂.host.HasFile path →
      (ask probe path.text).runOn s₂ = (.ok verified, s₃) →
      Course q probe s [q.command, path.text] ⟨path.text, false, verified⟩
        (s₃.telling [q.pickNotice path verified])
  | nowhere {s₁ paths s₂} : isPathLike q.command = false →
      (ask probe q.command).runOn s = (.ok false, s₁) →
      q.candidatePaths.runOn s₁ = (.ok paths, s₂) → (∀ p ∈ paths, ¬ s₂.host.HasFile p) →
      Course q probe s [q.command] ⟨q.command, true, false⟩
        (s₂.telling [Notice.build .debug s!"{q.command} not found; falling back to bare command"])

variable {q : Search} {probe : Probe} {s s' s₁ s₂ : Session} {tool : Tool} {trace : List String}
  {before after paths : List Path} {path : Path} {command : String}

theorem firstInstalled_eq_none_iff {h : Host} :
    firstInstalled h paths = none ↔ ∀ p ∈ paths, ¬ h.HasFile p := by
  simp only [firstInstalled, List.find?_eq_none, Host.pathExists_iff]

theorem firstInstalled_eq_some_iff {h : Host} :
    firstInstalled h paths = some path ↔
      h.HasFile path ∧ ∃ before after, paths = before ++ path :: after ∧
        ∀ p ∈ before, ¬ h.HasFile p := by
  simp only [firstInstalled, List.find?_eq_some_iff_append, Host.pathExists_iff,
    Bool.not_eq_eq_eq_not, Bool.not_true, ← Bool.not_eq_true]

theorem Finds.exists_course (finds : q.Finds probe s tool s') :
    ∃ trace, q.Course probe s trace tool s' := by
  cases finds with
  | @path text verified s' like absolute asked =>
    by_cases there : s.host.HasFile (Path.ofString text)
    · rw [if_pos (Host.pathExists_iff.mpr there)] at asked
      exact ⟨_, .present like absolute there asked⟩
    · rw [if_neg (mt Host.pathExists_iff.mp there)] at asked
      cases asked
      exact ⟨_, .absent like absolute there⟩
  | answered bare asked => exact ⟨_, .answered bare asked⟩
  | installed picks asked =>
    obtain ⟨bare, s₁, paths, silent, searched, first⟩ := picks
    obtain ⟨there, before, after, rfl, none⟩ := firstInstalled_eq_some_iff.mp first
    exact ⟨_, .installed bare silent searched none there asked⟩
  | nowhere bare silent searched none =>
    exact ⟨_, .nowhere bare silent searched (firstInstalled_eq_none_iff.mp none)⟩

theorem runOn_resolve_of_answered (bare : isPathLike q.command = false)
    (asked : (ask probe q.command).runOn s = (.ok true, s₁)) :
    (q.resolve probe).runOn s =
      (.ok ⟨q.command, true, true⟩,
        s₁.telling [Notice.build .debug s!"{q.command} found on PATH"]) := by
  rw [resolve_of_bare_command bare, Act.runOn_bind, asked]
  rfl

theorem runOn_resolve_of_silent (bare : isPathLike q.command = false)
    (silent : (ask probe q.command).runOn s = (.ok false, s₁))
    (searched : q.candidatePaths.runOn s₁ = (.ok paths, s₂)) :
    (q.resolve probe).runOn s =
      (q.settleFor probe (firstInstalled s₂.host paths)).runOn s₂ := by
  rw [resolve_of_bare_command bare, Act.runOn_bind, silent]
  dsimp only
  rw [settleAfter, Act.runOn_bind, searched]
  rfl

theorem Course.runOn_resolve (course : q.Course probe s trace tool s') :
    (q.resolve probe).runOn s = (.ok tool, s') := by
  cases course with
  | present like absolute there asked =>
    rw [runOn_resolve_of_path like, absolute, Act.runOn_bind, Act.runOn_ofExcept]
    dsimp only
    rw [if_pos (Host.pathExists_iff.mpr there), Act.runOn_bind, asked]
    rfl
  | absent like absolute missing =>
    rw [runOn_resolve_of_path like, absolute, Act.runOn_bind, Act.runOn_ofExcept]
    dsimp only
    rw [if_neg (mt Host.pathExists_iff.mp missing)]
    rfl
  | answered bare asked => exact runOn_resolve_of_answered bare asked
  | @installed s₁ s₂ before path after _ _ bare silent searched none there asked =>
    have first : firstInstalled s₂.host (before ++ path :: after) = some path :=
      firstInstalled_eq_some_iff.mpr ⟨there, before, after, rfl, none⟩
    rw [runOn_resolve_of_silent bare silent searched, first, settleFor, Act.runOn_bind, asked]
    rfl
  | nowhere bare silent searched none =>
    rw [runOn_resolve_of_silent bare silent searched, firstInstalled_eq_none_iff.mpr none]
    rfl

theorem Course.length_le (course : q.Course probe s trace tool s') : trace.length ≤ 2 := by
  cases course <;> simp

theorem Course.isAbsolute (course : q.Course probe s trace tool s')
    (like : isPathLike q.command = true) : (Path.ofString tool.command).IsAbsolute := by
  cases course with
  | present _ absolute | absent _ absolute => exact isAbsolute_of_absoluteCommand absolute
  | answered bare | installed bare | nowhere bare =>
    rw [like] at bare
    cases bare

theorem asked_ask (quiet : Probe.IsQuiet probe) {r : Except Fault Bool}
    (ran : (ask probe command).runOn s = (r, s')) : s'.asked = s.asked ++ [command] := by
  have kept := quiet command { s with asked := s.asked ++ [command] }
  have split : (ask probe command).runOn s =
      (probe command).runOn { s with asked := s.asked ++ [command] } := by
    unfold ask
    rw [Act.runOn_bind, Act.runOn_noteAsked]
  rw [← split, ran] at kept
  exact kept

theorem asked_candidatePaths (searched : q.candidatePaths.runOn s = (.ok paths, s')) :
    s'.asked = s.asked ∧ (paths ≠ [] → s' = s) := by
  rw [runOn_candidatePaths] at searched
  split at searched
  · cases searched
    exact ⟨rfl, fun _ => rfl⟩
  · split at searched
    · cases searched
      exact ⟨rfl, fun _ => rfl⟩
    · split at searched
      · cases searched
        exact ⟨rfl, fun some => absurd rfl some⟩
      · cases searched

/-- The commands of a course are those that the session lists. -/
theorem Course.asked_eq (course : q.Course probe s trace tool s') (quiet : Probe.IsQuiet probe) :
    s'.asked = s.asked ++ trace := by
  cases course with
  | present like absolute there asked => exact asked_ask quiet asked
  | absent => exact (List.append_nil _).symm
  | answered bare asked =>
    rw [Session.asked_telling]
    exact asked_ask quiet asked
  | installed bare silent searched none there asked =>
    have first := asked_ask quiet silent
    have second := asked_ask quiet asked
    rw [Session.asked_telling, second, (asked_candidatePaths searched).1, first, List.append_assoc]
    rfl
  | nowhere bare silent searched none =>
    rw [Session.asked_telling, (asked_candidatePaths searched).1, asked_ask quiet silent]

theorem exists_course
    (answers : ∀ command t, ∃ answer t', (probe command).runOn t = (.ok answer, t'))
    (named : isPathLike q.command = true → ∃ text, absoluteCommand s.host q.command = .ok text)
    (listed : isPathLike q.command = false → ∀ s₁, (ask probe q.command).runOn s = (.ok false, s₁) →
      ∃ paths s₂, q.candidatePaths.runOn s₁ = (.ok paths, s₂)) :
    ∃ trace tool s', q.Course probe s trace tool s' := by
  have asks (command : String) (t : Session) :
      ∃ answer t', (ask probe command).runOn t = (.ok answer, t') := by
    unfold ask
    rw [Act.runOn_bind, Act.runOn_noteAsked]
    exact answers command _
  cases like : isPathLike q.command with
  | true =>
    obtain ⟨text, absolute⟩ := named like
    by_cases there : s.host.HasFile (Path.ofString text)
    · obtain ⟨verified, s', asked⟩ := asks text s
      exact ⟨_, _, _, .present like absolute there asked⟩
    · exact ⟨_, _, _, .absent like absolute there⟩
  | false =>
    obtain ⟨answer, s₁, asked⟩ := asks q.command s
    cases answer with
    | true => exact ⟨_, _, _, .answered like asked⟩
    | false =>
      obtain ⟨paths, s₂, searched⟩ := listed like s₁ asked
      cases first : firstInstalled s₂.host paths with
      | none => exact ⟨_, _, _, .nowhere like asked searched (firstInstalled_eq_none_iff.mp first)⟩
      | some path =>
        obtain ⟨there, before, after, rfl, none⟩ := firstInstalled_eq_some_iff.mp first
        obtain ⟨verified, s₃, asked'⟩ := asks path.text s₂
        exact ⟨_, _, _, .installed like asked searched none there asked'⟩

/-- A search that ends before its candidates does not depend on them. -/
theorem resolve_congr_of_early
    (early : isPathLike q.command = true ∨ ∃ s₁, (ask probe q.command).runOn s = (.ok true, s₁))
    (candidates : Option (List Path)) (platform : String) :
    (resolve probe ⟨q.command, candidates, platform⟩).runOn s = (q.resolve probe).runOn s := by
  cases like : isPathLike q.command with
  | true =>
    rw [runOn_resolve_of_path like,
      runOn_resolve_of_path (q := ⟨q.command, candidates, platform⟩) like]
  | false =>
    obtain path | ⟨s₁, asked⟩ := early
    · rw [like] at path
      cases path
    · rw [runOn_resolve_of_answered like asked,
        runOn_resolve_of_answered (q := ⟨q.command, candidates, platform⟩) like asked]

/-- A search that picks a candidate does not depend on those after it. -/
theorem resolve_congr_of_installed (bare : isPathLike q.command = false)
    (silent : (ask probe q.command).runOn s = (.ok false, s₁))
    (searched : q.candidatePaths.runOn s₁ = (.ok (before ++ path :: after), s₂))
    (there : s₂.host.HasFile path) (other : List Path) :
    (resolve probe ⟨q.command, some (before ++ path :: other), q.platform⟩).runOn s =
      (q.resolve probe).runOn s := by
  -- only a table that is refused leaves a record, and it gives no candidates
  obtain rfl : s₂ = s₁ := (asked_candidatePaths searched).2 (by simp)
  have found : s₂.host.pathExists path = true := Host.pathExists_iff.mpr there
  have first : firstInstalled s₂.host (before ++ path :: other) =
      firstInstalled s₂.host (before ++ path :: after) := by
    simp only [firstInstalled, List.find?_append, List.find?_cons_of_pos found]
  rw [runOn_resolve_of_silent bare silent searched,
    runOn_resolve_of_silent (q := ⟨q.command, some (before ++ path :: other), q.platform⟩) bare
      silent rfl, first]
  rfl

/-- A search ends with an engine exactly as one of the courses says. It takes one if no probe
fails, the command has an absolute form and the candidates can be listed. A course asks at most
two commands, and makes one that is a path absolute; if it ends early it needs no candidates, and
if it ends with a candidate none of those after it. -/
theorem resolve_takes_course (q : Search) (probe : Probe) (s : Session) :
    (∀ tool s', (q.resolve probe).runOn s = (.ok tool, s') ↔
      ∃ trace, q.Course probe s trace tool s') ∧
    ((∀ command t, ∃ answer t', (probe command).runOn t = (.ok answer, t')) →
      (isPathLike q.command = true → ∃ text, absoluteCommand s.host q.command = .ok text) →
      (isPathLike q.command = false → ∀ s₁, (ask probe q.command).runOn s = (.ok false, s₁) →
        ∃ paths s₂, q.candidatePaths.runOn s₁ = (.ok paths, s₂)) →
      ∃ trace tool s', q.Course probe s trace tool s') ∧
    (∀ trace tool s', q.Course probe s trace tool s' →
      trace.length ≤ 2 ∧ (Probe.IsQuiet probe → s'.asked = s.asked ++ trace) ∧
        (isPathLike q.command = true → (Path.ofString tool.command).IsAbsolute)) ∧
    ((isPathLike q.command = true ∨ ∃ s₁, (ask probe q.command).runOn s = (.ok true, s₁)) →
      ∀ candidates platform,
        (resolve probe ⟨q.command, candidates, platform⟩).runOn s = (q.resolve probe).runOn s) ∧
    (∀ s₁ before path after s₂, isPathLike q.command = false →
      (ask probe q.command).runOn s = (.ok false, s₁) →
      q.candidatePaths.runOn s₁ = (.ok (before ++ path :: after), s₂) → s₂.host.HasFile path →
      ∀ other, (resolve probe ⟨q.command, some (before ++ path :: other), q.platform⟩).runOn s =
        (q.resolve probe).runOn s) := by
  refine ⟨fun tool s' => ⟨fun resolved => (finds_of_resolve resolved).exists_course, ?_⟩,
    exists_course,
    fun trace tool s' course => ⟨course.length_le, course.asked_eq, course.isAbsolute⟩,
    resolve_congr_of_early, fun s₁ before path after s₂ => resolve_congr_of_installed⟩
  rintro ⟨trace, course⟩
  exact course.runOn_resolve

/-- Of a path that is not there, a directory and two paths of one file, the first of the two is
asked after the bare command and nothing else. -/
theorem resolve_takes_course_desk :
    let candidates := ["alt/tex", "/s", "/tex", "//tex"].map Path.ofString
    let q : Search := ⟨"lua", some candidates, "linux"⟩
    let run := (q.resolve (Builder.greeting.probe (.whole 5))).runOn Builder.desk
    run = (.ok ⟨"/tex", false, true⟩, run.2) ∧
      q.Course (Builder.greeting.probe (.whole 5)) Builder.desk ["lua", "/tex"]
        ⟨"/tex", false, true⟩ run.2 ∧ run.2.asked = ["lua", "/tex"] := by
  intro candidates q run
  have resolved : run = (.ok ⟨"/tex", false, true⟩, run.2) := Act.runOn_eq_ok (by decide +kernel)
  have asked : run.2.asked = ["lua", "/tex"] := by decide +kernel
  obtain ⟨ends, -, courses, -⟩ :=
    resolve_takes_course q (Builder.greeting.probe (.whole 5)) Builder.desk
  obtain ⟨trace, course⟩ := (ends _ _).mp resolved
  obtain rfl : trace = ["lua", "/tex"] :=
    ((courses _ _ _ course).2.1 Programs.isQuiet_probe).symm.trans asked
  exact ⟨resolved, course, asked⟩

end Search

end TexBuild
