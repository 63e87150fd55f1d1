import TexBuild.Proofs.Session

namespace TexBuild.Search

/-- A bare command does not answer, and this is the first of the candidates at which there is a
file. -/
def Picks (q : Search) (probe : Probe) (s : Session) (path : Path) (s₂ : Session) : Prop :=
  isPathLike q.command = false ∧
    ∃ s₁ paths, (ask probe q.command).runOn s = (.ok false, s₁) ∧
      q.candidatePaths.runOn s₁ = (.ok paths, s₂) ∧ firstInstalled s₂.host paths = some path

/-- The record about the candidate that is picked. -/
def pickNotice (q : Search) (path : Path) (verified : Bool) : Notice :=
  let answer := if verified then "True" else "False"
  Notice.build .debug s!"{q.command} found at {path} (verified={answer})"

/-- What a search does with the candidate that it has picked, or when there is none. -/
def settleFor (q : Search) (probe : Probe) : Option Path → Act Tool
  | some path => do
    let verified ← ask probe path.text
    Act.tell (q.pickNotice path verified)
    return ⟨path.text, false, verified⟩
  | none => do
    Act.tell (Notice.build .debug s!"{q.command} not found; falling back to bare command")
    return ⟨q.command, true, false⟩

/-- What a search does when its bare command has been asked. -/
def settleAfter (q : Search) (probe : Probe) : Bool → Act Tool
  | true => do
    Act.tell (Notice.build .debug s!"{q.command} found on PATH")
    return ⟨q.command, true, true⟩
  | false => do
    let paths ← q.candidatePaths
    q.settleFor probe (firstInstalled (← Act.host) paths)

/-- A search that begins in a session finds this engine and leaves this session: by the path that
is its command, on the search path, at a candidate, or nowhere. -/
inductive Finds (q : Search) (probe : Probe) (s : Session) : Tool → Session → Prop
  | path {text verified s'} : isPathLike q.command = true →
      absoluteCommand s.host q.command = .ok text →
      (if s.host.pathExists (Path.ofString text) then ask probe text else pure false).runOn s =
        (.ok verified, s') →
      Finds q probe s ⟨text, false, verified⟩ s'
  | answered {s₁} : isPathLike q.command = false →
      (ask probe q.command).runOn s = (.ok true, s₁) →
      Finds q probe s ⟨q.command, true, true⟩
        (s₁.telling [Notice.build .debug s!"{q.command} found on PATH"])
  | installed {path s₂ verified s₃} : q.Picks probe s path s₂ →
      (ask probe path.text).runOn s₂ = (.ok verified, s₃) →
      Finds q probe s ⟨path.text, false, verified⟩ (s₃.telling [q.pickNotice path verified])
  | nowhere {s₁ paths s₂} : isPathLike q.command = false →
      (ask probe q.command).runOn s = (.ok false, s₁) →
      q.candidatePaths.runOn s₁ = (.ok paths, s₂) → firstInstalled s₂.host paths = none →
      Finds q probe s ⟨q.command, true, false⟩
        (s₂.telling [Notice.build .debug s!"{q.command} not found; falling back to bare command"])

variable {q : Search} {probe : Probe} {s s' : Session} {tool : Tool}

/-- A search whose command is a path is about the file of that path. -/
theorem runOn_resolve_of_path (path : isPathLike q.command = true) (s : Session) :
    (q.resolve probe).runOn s =
      (MonadExcept.ofExcept (absoluteCommand s.host q.command) >>= fun text =>
        (if s.host.pathExists (Path.ofString text) then ask probe text else pure false) >>=
          fun verified => pure ⟨text, false, verified⟩ : Act Tool).runOn s := by
  unfold resolve
  rw [if_pos path, Act.runOn_bind, Act.runOn_bind]
  unfold Act.ask
  rw [Act.runOn_bind, Act.runOn_host]
  dsimp only
  rw [Act.runOn_ofExcept]
  cases absoluteCommand s.host q.command with
  | error f => rfl
  | ok text =>
    dsimp only
    rw [Act.runOn_bind, Act.runOn_host]
    dsimp only
    split <;> rfl

theorem resolve_of_bare_command (bare : isPathLike q.command = false) :
    q.resolve probe = ask probe q.command >>= q.settleAfter probe := by
  unfold resolve
  rw [bare, if_neg Bool.false_ne_true]
  refine bind_congr fun answer => ?_
  cases answer with
  | true => rfl
  | false =>
    refine bind_congr fun paths => bind_congr fun h => ?_
    cases firstInstalled h paths <;> rfl

theorem finds_of_path (path : isPathLike q.command = true)
    (resolved : (q.resolve probe).runOn s = (.ok tool, s')) : q.Finds probe s tool s' := by
  rw [runOn_resolve_of_path path] at resolved
  obtain ⟨text, s₁, named, resolved⟩ := Act.runOn_bind_eq_ok_iff.mp resolved
  obtain ⟨absolute, rfl⟩ := Act.runOn_ofExcept_eq_ok_iff.mp named
  obtain ⟨verified, s₂, asked, resolved⟩ := Act.runOn_bind_eq_ok_iff.mp resolved
  cases resolved
  exact .path path absolute asked

theorem finds_of_bare (bare : isPathLike q.command = false)
    (resolved : (q.resolve probe).runOn s = (.ok tool, s')) : q.Finds probe s tool s' := by
  rw [resolve_of_bare_command bare] at resolved
  obtain ⟨answer, s₁, asked, resolved⟩ := Act.runOn_bind_eq_ok_iff.mp resolved
  cases answer with
  | true =>
    cases resolved
    exact .answered bare asked
  | false =>
    obtain ⟨paths, s₂, searched, resolved⟩ := Act.runOn_bind_eq_ok_iff.mp resolved
    rw [Act.runOn_bind, Act.runOn_host] at resolved
    dsimp only at resolved
    cases first : firstInstalled s₂.host paths with
    | none =>
      rw [first] at resolved
      cases resolved
      exact .nowhere bare asked searched first
    | some path =>
      rw [first] at resolved
      obtain ⟨verified, s₃, asked', resolved⟩ := Act.runOn_bind_eq_ok_iff.mp resolved
      cases resolved
      exact .installed ⟨bare, s₁, paths, asked, searched, first⟩ asked'

/-- A search ends with an engine only in one of these ways. -/
theorem finds_of_resolve (resolved : (q.resolve probe).runOn s = (.ok tool, s')) :
    q.Finds probe s tool s' := by
  cases path : isPathLike q.command with
  | true => exact finds_of_path path resolved
  | false => exact finds_of_bare path resolved

end TexBuild.Search
