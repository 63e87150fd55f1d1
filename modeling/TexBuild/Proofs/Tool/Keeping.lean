import TexBuild.Proofs.Session

namespace TexBuild

/-- What holds of the host before an operation holds after it, too, however it ends. -/
def Act.Keeps {α : Type} (P : Host → Prop) (a : Act α) : Prop :=
  ∀ s, P s.host → P (a.runOn s).2.host

variable {P : Host → Prop}

namespace Act

variable {α β : Type} {a : Act α} {f : α → Act β}

theorem keeps_of_host (same : ∀ s, (a.runOn s).2.host = s.host) : Keeps P a := by
  intro s held
  rw [same]
  exact held

/-- What each of two acts keeps the two keep one after the other. -/
theorem Keeps.bind (first : Keeps P a) (next : ∀ x, Keeps P (f x)) : Keeps P (a >>= f) := by
  intro s held
  have between := first s held
  rw [runOn_bind]
  generalize a.runOn s = ran at between ⊢
  obtain ⟨fault | x, s'⟩ := ran
  · exact between
  · exact next x s' between

theorem keeps_pure {x : α} : Keeps P (pure x : Act α) :=
  keeps_of_host fun _ => rfl

theorem keeps_throw {fault : Fault} : Keeps P (throw fault : Act α) :=
  keeps_of_host fun _ => rfl

theorem keeps_host : Keeps P Act.host :=
  keeps_of_host fun _ => rfl

theorem keeps_tell {n : Notice} : Keeps P (Act.tell n) :=
  keeps_of_host fun _ => rfl

theorem keeps_ofExcept {e : Except Fault α} : Keeps P (MonadExcept.ofExcept e : Act α) :=
  keeps_of_host fun s => by rw [runOn_ofExcept]

end Act

/-- A program that is asked for its version does no more than it does by answering. -/
theorem Programs.keeps_probe {x : Programs} {limit : Seconds} (command : String)
    (answers : ∀ launch image h, P h →
      P { h with volume := (x.answers limit launch image h.volume).2 }) :
    Act.Keeps P (x.probe limit command) := by
  intro s held
  unfold Programs.probe
  rw [Act.runOn_bind, Act.runOn_host]
  dsimp only
  rcases (Programs.versionLaunch s.host command).start s.host.volume with fault | image
  · cases fault <;> exact held
  · dsimp only
    rw [Act.runOn_bind, Act.runOn_ofExcept]
    cases limit.toBinary.mapError Fault.span with
    | error fault => exact held
    | ok _ => exact answers _ image s.host held

namespace Search

variable {q : Search} {probe : Probe}

theorem keeps_ask (probes : ∀ command, Act.Keeps P (probe command)) {command : String} :
    Act.Keeps P (ask probe command) :=
  .bind (Act.keeps_of_host fun _ => rfl) fun _ => probes command

/-- The search for install locations leaves the host as it is. -/
theorem keeps_candidatePaths : Act.Keeps P q.candidatePaths := by
  unfold candidatePaths
  split
  · exact Act.keeps_pure
  · refine .bind Act.keeps_host fun h => ?_
    split
    · exact Act.keeps_pure
    · split
      · exact .bind Act.keeps_tell fun _ => Act.keeps_pure
      · exact Act.keeps_throw

/-- A search changes nothing but by what it probes. -/
theorem keeps_resolve (probes : ∀ command, Act.Keeps P (probe command)) :
    Act.Keeps P (q.resolve probe) := by
  unfold resolve
  split
  · refine .bind (.bind Act.keeps_host fun _ => Act.keeps_ofExcept) fun command => ?_
    refine .bind Act.keeps_host fun h => ?_
    split
    · exact .bind (keeps_ask probes) fun _ => Act.keeps_pure
    · exact .bind Act.keeps_pure fun _ => Act.keeps_pure
  · refine .bind (keeps_ask probes) fun answer => ?_
    split
    · exact .bind Act.keeps_tell fun _ => Act.keeps_pure
    · refine .bind keeps_candidatePaths fun paths => ?_
      refine .bind Act.keeps_host fun h => ?_
      split
      · refine .bind (keeps_ask probes) fun verified => ?_
        exact .bind Act.keeps_tell fun _ => Act.keeps_pure
      · exact .bind Act.keeps_tell fun _ => Act.keeps_pure

end Search

end TexBuild
