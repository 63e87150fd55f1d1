import TexBuild.Proofs.Build.Delivery
import TexBuild.Proofs.Diagnostic.Window
import TexBuild.Proofs.Tool.Search

namespace TexBuild.Builder

/-- What keeps the next stage of a build from ending it with a fault: paths that are fit for
the system, room for the directories that are made, a system that tells whether a file is there, a
search that settles on an engine with a fit command line, an engine whose end is seen, and a log in
which no number is too long. -/
def Clear (b : Builder) (x : Programs) (t : Binary64) : Progress → Session → Prop
  | .begun source, s =>
    s.host.Fits source ∧
      ((∃ p, s.host.resolve source = .ok p) →
        ∀ q, s.host.given? b.directory = some q → s.host.Fits q)
  | .prepared p, s => s.host.Answers p.source
  | .cleared p, s =>
    b.search.Settles x t s ∧
      ∀ tool s', (b.search.resolve (x.probe (.binary t))).runOn s = (.ok tool, s') →
        (p.launch tool s'.host.environment).isClean = true
  | .started _ launch image, s =>
    b.meetLimit (x.runs b.limit launch image s.host.volume).events = .ok () ∧
      (∃ cause, (b.watched x launch image s).1.phase = .over cause ∧
        ∀ why, cause = some why → b.nameLimit why = .ok ()) ∧
      Diagnostic.longReference? (b.watched x launch image s).1.output = none
  | .watched p _, s => s.host.Answers p.artifact
  | .planned p, s => (s.host.makeDirectories p.directory).2 ≠ .error .tooDeep
  | .sourced _, _ | .produced .., _ => True

variable {b : Builder} {x : Programs} {probe : Probe} {relocate : Relocation} {t : Binary64}
  {source : Path} {s s₁ s₂ s' : Session} {pr : Progress} {p : Plan} {w : Supervision}
  {launch : Launch} {image : Image} {f : Fault} {r : BuildResult}

theorem planAt_refuses_iff {h : Host} :
    (∀ f, b.planAt h source = .error f → f.isRefusal = true) ↔
      h.Fits source ∧
        ((∃ p, h.resolve source = .ok p) → ∀ q, h.given? b.directory = some q → h.Fits q) := by
  rw [← Host.resolve_refuses_iff, ← Host.buildDirectory_refuses_iff, planAt]
  rcases h.resolve source with f | p
  · simp [bind, Except.bind]
  · rcases h.buildDirectory b.directory with f | q <;> simp [bind, Except.bind, pure, Except.pure]

theorem exists_findings_iff {log : String} :
    (∃ ds, findings log = .ok ds) ↔ Diagnostic.longReference? log.toList = none := by
  unfold findings
  rw [Diagnostic.parse_eq]
  cases Diagnostic.longReference? log.toList <;> simp

theorem Reaches.of_started
    (reach : b.Reaches x probe relocate source s (.started p launch image) s₁) :
    ∃ s₀ s₀' tool, b.Reaches x probe relocate source s (.cleared p) s₀ ∧
      (b.search.resolve probe).runOn s₀ = (.ok tool, s₀') ∧
      launch = p.launch tool s₀'.host.environment ∧
      launch.start s₀'.host.volume = .ok image := by
  cases reach with
  | next before onward =>
    cases onward with
    | start search start => exact ⟨_, _, _, before, search, rfl, start⟩

theorem isClean_of_launch {tool : Tool} {env : Environment}
    (clean : (p.launch tool env).isClean = true) :
    Volume.isClean p.source = true ∧ Volume.isClean p.directory = true := by
  rw [Launch.isClean_iff] at clean
  have source := clean p.source.text (.tail _ (.tail _ (.tail _ (.head _))))
  have directory := clean _ (.tail _ (.tail _ (.head _)))
  rw [String.toList_append, Text.isFit_append] at directory
  exact ⟨Volume.isClean_iff.mpr source, Volume.isClean_iff.mpr directory.2⟩

/-- The document of a build is fit for the system in both its places. -/
theorem Reaches.isClean (reach : b.Reaches x probe relocate source s (.produced p w) s₁) :
    Volume.isClean p.artifact = true ∧ Volume.isClean p.destination = true := by
  -- an engine was started, and its command line held both paths of the build
  obtain ⟨p', launch, image, s₂, started⟩ := reach.exists_started (Nat.le_add_right 5 2)
  have same := (reach.planAt_eq rfl).symm.trans (started.planAt_eq rfl)
  cases same
  obtain ⟨s₀, s₀', tool, -, -, rfl, start⟩ := started.of_started
  obtain ⟨source, directory⟩ := isClean_of_launch (Launch.isClean_of_start start)
  have name := Volume.isFit_artifactName source
  exact ⟨Volume.isClean_child.mpr ⟨directory, name⟩,
    Volume.isClean_child.mpr ⟨Volume.isClean_parent source, name⟩⟩

theorem runOn_place_eq_error {built destination : Path}
    (clean : Volume.isClean built = true ∧ Volume.isClean destination = true)
    (failed : (place built destination).runOn s = (.error f, s')) :
    ∃ cause, f = .relocation cause := by
  rw [runOn_place, if_pos (Bool.and_eq_true_iff.mpr clean)] at failed
  rcases made : s.host.volume.copyFile s.host.medium s.host.cwd built.text destination.text with
    ⟨v, (_ | cause) | _⟩ <;> rw [made] at failed <;> cases failed
  exact ⟨_, rfl⟩

/-- A stage that is clear ends with no fault. -/
theorem Takes.unbroken (takes : b.Takes x (x.probe (.binary t)) place pr s₁ (.broken f) s₂)
    (reach : b.Reaches x (x.probe (.binary t)) place source s pr s₁) (clear : b.Clear x t pr s₁) :
    False := by
  cases takes with
  | planBroken paths refusal =>
    rw [planAt_refuses_iff.mpr clear _ paths] at refusal
    cases refusal
  | prepareBroken made => exact clear (congrArg Prod.snd made)
  | sourceBroken found => exact Host.isFile_answers_iff.mpr clear _ found
  | searchBroken search =>
    obtain ⟨tool, s', found⟩ := Search.resolve_settles_iff.mpr clear.1
    rw [search] at found
    cases found
  | startBroken search start other =>
    obtain ⟨cause, same⟩ := Launch.start_eq_error (clear.2 _ _ search) start
    exact other cause same
  | watchEscaped _ seen escaped =>
    obtain ⟨-, ⟨why, ended, -⟩, -⟩ := clear
    rw [seen, escaped] at ended
    cases ended
  | watchUnending _ seen pending _ =>
    obtain ⟨-, ⟨why, ended, -⟩, -⟩ := clear
    rw [seen] at ended
    exact pending why ended
  | @nameBroken _ _ _ _ _ _ why _ limit seen ended unnamed =>
    obtain ⟨-, ⟨cause, ended', named⟩, -⟩ := clear
    rw [seen, ended] at ended'
    rw [named why (Phase.over.inj ended').symm] at unnamed
    cases unnamed
  | limitBroken limit =>
    obtain ⟨within, -⟩ := clear
    rw [limit] at within
    cases within
  | produceBroken found => exact Host.isFile_answers_iff.mpr clear _ found
  | deliverBroken placed other =>
    obtain ⟨cause, same⟩ := runOn_place_eq_error reach.isClean placed
    exact other cause same

/-- A stage that ends with no fault is clear, once the log of its engine can be read. -/
theorem clear_of_unbroken
    (unbroken : ∀ f s₂, ¬ b.Takes x (x.probe (.binary t)) place pr s₁ (.broken f) s₂)
    (read : Diagnostic.longReference? (b.engineLog x pr s₁).toList = none) :
    b.Clear x t pr s₁ := by
  cases pr with
  | begun source =>
    refine planAt_refuses_iff.mp fun f paths => ?_
    cases refusal : f.isRefusal with
    | true => rfl
    | false => exact absurd (.planBroken paths refusal) (unbroken f s₁)
  | planned p =>
    intro deep
    have made := (Prod.eta (s₁.host.makeDirectories p.directory)).symm
    rw [deep] at made
    exact unbroken _ _ (.prepareBroken made)
  | prepared p =>
    exact Host.isFile_answers_iff.mp fun cause found => unbroken _ _ (.sourceBroken found)
  | cleared p =>
    refine ⟨Search.resolve_settles_iff.mp ?_, fun tool s' search => ?_⟩
    · rcases search : (b.search.resolve (x.probe (.binary t))).runOn s₁ with ⟨f | tool, s'⟩
      · exact absurd (.searchBroken search) (unbroken f s')
      · exact ⟨tool, s', rfl⟩
    · by_cases clean : (p.launch tool s'.host.environment).isClean = true
      · exact clean
      · exact absurd (.startBroken search (Launch.start_of_not_isClean clean)
          fun _ => Launch.unfit_ne_system _) (unbroken _ _)
  | started p launch image =>
    have within : b.meetLimit (x.runs b.limit launch image s₁.host.volume).events = .ok () := by
      cases limit : b.meetLimit (x.runs b.limit launch image s₁.host.volume).events with
      | error e => exact absurd (.limitBroken limit) (unbroken _ _)
      | ok _ => rfl
    refine ⟨within, ?_, by rwa [engineLog, Supervision.log, String.toList_ofList] at read⟩
    rcases seen : b.watched x launch image s₁ with ⟨w, s₂⟩
    cases phase : w.phase with
    | «over» cause =>
      refine ⟨cause, rfl, ?_⟩
      rintro why rfl
      cases named : b.nameLimit why with
      | ok _ => rfl
      | error e => exact absurd (.nameBroken within seen phase named) (unbroken _ _)
    | escaped => exact absurd (.watchEscaped within seen phase) (unbroken _ _)
    | _ =>
      exact absurd (.watchUnending within seen (by simp [phase]) (by simp [phase])) (unbroken _ _)
  | watched p w =>
    exact Host.isFile_answers_iff.mp fun cause found => unbroken _ _ (.produceBroken found)
  | _ => trivial

/-- The log that a build has by one of its stages is the one that it ends with. -/
theorem Ends.engineLog_eq (ends : b.Ends x probe relocate source s (.ok r, s₂))
    (reach : b.Reaches x probe relocate source s pr s₁) :
    b.engineLog x pr s₁ = "" ∨ b.engineLog x pr s₁ = r.rawLog := by
  by_cases early : pr.number < 5
  · exact .inl (engineLog_eq_empty.mpr early)
  · have running : 5 ≤ pr.number := Nat.le_of_not_lt early
    obtain ⟨p, launch, image, s₃, started⟩ := reach.exists_started running
    exact .inr ((started.engineLog_eq reach running).trans (ends.rawLog_of_started started).symm)

/-- A build that ends with a result has a log that can be read if its stages are clear. -/
theorem Ends.exists_findings (ends : b.Ends x (x.probe (.binary t)) place source s (.ok r, s₂))
    (clear : ∀ pr s₁, b.Reaches x (x.probe (.binary t)) place source s pr s₁ → b.Clear x t pr s₁) :
    ∃ ds, findings r.rawLog = .ok ds := by
  rw [exists_findings_iff]
  by_cases silent : r.rawLog = ""
  · rw [silent]
    rfl
  · obtain ⟨p, launch, image, s₁, started⟩ :=
      Classical.not_not.mp (mt ends.rawLog_eq_empty_iff.mpr silent)
    obtain ⟨-, -, read⟩ := clear _ _ started
    rw [ends.rawLog_of_started started, Supervision.log, String.toList_ofList]
    exact read

end TexBuild.Builder
