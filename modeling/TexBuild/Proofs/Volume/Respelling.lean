import TexBuild.Proofs.Volume.Settled

namespace TexBuild.Volume

/-- It is known where the link at a place leads, spelled from the root. -/
def Learned (seen : Links) (l : Loc) : Prop :=
  ∃ q, seen.lookup (.ofLoc l) = some (some q)

/-- Links met under any spellings, and links met from the root only: what is known under some spelling
of a link is known from the root, and with a link all that are met behind it are known there. -/
structure Mirrors (v : Volume) (cwd : Loc) (seen other : Links) : Prop where
  known : v.Known cwd seen
  rooted : v.Known cwd other
  covers : ∀ ⦃p : Standpoint⦄ ⦃n q⦄, seen.lookup (p.down n) = some (some q) →
    Learned other (n :: p.loc cwd)
  thorough : ∀ ⦃d n⦄, Learned other (n :: d) →
    ∀ ⦃l⦄, v.Meets cwd (.ofLoc d) [.down n] l → Learned other l

variable {v : Volume} {room j k : Nat} {cwd l l' : Loc} {n : Name} {o p q m : Standpoint}
  {steps : List Step} {pieces : List (List Char)} {target : String}
  {seen seen' other other' : Links} {r : Except Halt (Links × Standpoint)} {place place' : Path}

theorem learned_seek (fresh : seen.lookup o = none) :
    Learned ((o, none) :: seen) l ↔ Learned seen l := by
  unfold Learned
  by_cases same : Standpoint.ofLoc l = o
  · rw [same, fresh, List.lookup_cons_self]
    exact iff_of_false nofun nofun
  · rw [lookup_seek same]

theorem learned_learn :
    Learned ((.ofLoc l', some q) :: seen) l ↔ l = l' ∨ Learned seen l := by
  unfold Learned
  by_cases same : l = l'
  · rw [same, List.lookup_cons_self]
    exact iff_of_true ⟨q, rfl⟩ (.inl rfl)
  · rw [List.lookup_cons, beq_eq_false_iff_ne.mpr fun both => same (congrArg Standpoint.below both)]
    exact (or_iff_right same).symm

theorem mirrors_nil : v.Mirrors cwd [] [] where
  known := known_nil
  rooted := known_nil
  covers := nofun
  thorough := nofun

/-- A link that becomes known while pieces are followed is met on their way. -/
theorem Follows.known_or_meets (follows : v.Follows cwd room seen p pieces r)
    (known : v.Known cwd seen) (ends : r = .ok (seen', q))
    (found : seen'.lookup (o.down n) = some (some m)) :
    (∃ m', seen.lookup (o.down n) = some (some m')) ∨
      v.Meets cwd p (stepsOf pieces) (n :: o.loc cwd) := by
  induction follows generalizing seen' q m with
  | deep | sought | circled | deeper => cases ends
  | done =>
    cases ends
    exact .inl ⟨m, found⟩
  | blank step _ ih =>
    rw [stepsOf_blank step]
    exact ih known ends found
  | stay step _ ih =>
    rw [stepsOf_cons step]
    exact (ih known ends found).imp_right .stay
  | up step _ ih =>
    rw [stepsOf_cons step]
    exact (ih known ends found).imp_right .up
  | down step link _ ih =>
    rw [stepsOf_cons step]
    exact (ih known ends found).imp_right (.down link)
  | known step _ met _ ih =>
    obtain ⟨j, leads⟩ := known met
    rw [stepsOf_cons step]
    exact (ih known ends found).imp_right leads.meets
  | @opened _ _ _ p' _ _ _ _ n' _ step link _ inner _ nested ih =>
    obtain ⟨further, j, within⟩ := inner.leads known.seek rfl
    have leads := leads_of_target link within.of_pieces
    rw [stepsOf_cons step]
    obtain ⟨m', before⟩ | later := ih (further.learn leads) ends found
    · by_cases same : o.down n = p'.down n'
      · obtain ⟨rfl, rfl⟩ := Standpoint.down_inj same
        exact .inr (.link link)
      · rw [List.lookup_cons, beq_eq_false_iff_ne.mpr same] at before
        obtain ⟨m'', earlier⟩ | meets := nested known.seek rfl before
        · exact .inl ⟨m'', (lookup_seek same).symm.trans earlier⟩
        · exact .inr (.beyond link meets.append.of_pieces)
    · exact .inr (leads.meets later)

/-- What is known of a link from the root is where it leads. -/
theorem Mirrors.lookup (mirrors : v.Mirrors cwd seen other) (entered : v.Entered cwd)
    (leads : v.Leads cwd k p [.down n] q) (learned : Learned other (n :: p.loc cwd)) :
    other.lookup ((Standpoint.ofLoc (p.loc cwd)).down n) = some (some (.ofLoc (q.loc cwd))) := by
  obtain ⟨m, found⟩ := learned
  obtain ⟨j, back⟩ := mirrors.rooted (p := .ofLoc (p.loc cwd)) found
  obtain ⟨-, rfl⟩ := back.unique (leads.fromRoot entered)
  exact found

/-- Where all is known that is met behind a link, all is known that is met by going over it. -/
theorem Mirrors.beyond (mirrors : v.Mirrors cwd seen other) (entered : v.Entered cwd)
    (leads : v.Leads cwd k p [.down n] q) (learned : Learned other (n :: p.loc cwd))
    (all : ∀ ⦃l⦄, Learned other l ∨ v.Meets cwd (.ofLoc (q.loc cwd)) steps l → Learned other' l)
    ⦃l : Loc⦄ (either : Learned other l ∨
      v.Meets cwd (.ofLoc (p.loc cwd)) (.down n :: steps) l) : Learned other' l := by
  refine all (either.elim .inl fun meets => ?_)
  rw [← List.singleton_append] at meets
  exact ((leads.fromRoot entered).meets_or meets).imp_left (mirrors.thorough learned ·)

/-- The target of a link is sought that is not known from the root. -/
theorem Mirrors.seek (mirrors : v.Mirrors cwd seen other)
    (fresh : other.lookup (.ofLoc (n :: p.loc cwd)) = none) :
    v.Mirrors cwd ((p.down n, none) :: seen) ((.ofLoc (n :: p.loc cwd), none) :: other) where
  known := mirrors.known.seek
  rooted := mirrors.rooted.seek
  covers := by
    intro p' n' q found
    rw [List.lookup_cons] at found
    split at found
    · cases found
    · exact (learned_seek fresh).mpr (mirrors.covers found)
  thorough := by
    intro d n' learned l meets
    exact (learned_seek fresh).mpr (mirrors.thorough ((learned_seek fresh).mp learned) meets)

/-- It becomes known where a link leads, when all that are met behind it are known from the root. -/
theorem Mirrors.learn (mirrors : v.Mirrors cwd seen other) (entered : v.Entered cwd)
    (leads : v.Leads cwd k p [.down n] q)
    (all : ∀ ⦃l⦄, v.Meets cwd (.ofLoc (p.loc cwd)) [.down n] l → l = n :: p.loc cwd ∨ Learned other l) :
    v.Mirrors cwd ((p.down n, some q) :: seen)
      ((.ofLoc (n :: p.loc cwd), some (.ofLoc (q.loc cwd))) :: other) where
  known := mirrors.known.learn leads
  rooted := mirrors.rooted.learn (leads.fromRoot entered)
  covers := by
    intro p' n' q' found
    rw [List.lookup_cons] at found
    split at found
    · next same =>
      obtain ⟨rfl, rfl⟩ := Standpoint.down_inj (beq_iff_eq.mp same)
      exact learned_learn.mpr (.inl rfl)
    · exact learned_learn.mpr (.inr (mirrors.covers found))
  thorough := by
    intro d n' learned l meets
    rw [learned_learn] at learned ⊢
    obtain same | earlier := learned
    · obtain ⟨rfl, rfl⟩ := List.cons.inj same
      exact all meets
    · exact .inr (mirrors.thorough earlier meets)

/-- A link is followed that is already known from the root: nothing new is met there. -/
theorem Mirrors.skip (mirrors : v.Mirrors cwd seen other) (entered : v.Entered cwd)
    (link : v.readLink cwd p n = some target)
    (inner : v.Follows cwd room ((p.down n, none) :: seen) (p.origin (Route.ofString target))
      (Text.pieces '/' target.toList) (.ok (seen', q)))
    (learned : Learned other (n :: p.loc cwd)) :
    v.Mirrors cwd ((p.down n, some q) :: seen') other := by
  obtain ⟨further, k, within⟩ := inner.leads mirrors.known.seek rfl
  refine ⟨further.learn (leads_of_target link within.of_pieces), mirrors.rooted, ?_,
    mirrors.thorough⟩
  intro p' n' q' found
  rw [List.lookup_cons] at found
  split at found
  · next same =>
    obtain ⟨rfl, rfl⟩ := Standpoint.down_inj (beq_iff_eq.mp same)
    exact learned
  · obtain ⟨m, before⟩ | meets := inner.known_or_meets mirrors.known.seek rfl found
    · rw [List.lookup_cons] at before
      split at before
      · cases before
      · exact mirrors.covers before
    · have behind : v.Meets cwd p [.down n] (n' :: p'.loc cwd) :=
        .beyond link meets.append.of_pieces
      exact mirrors.thorough learned (behind.fromRoot entered)

/-- Pieces that are followed to their end from a place are followed to the same end if the place is
spelled from the root, in the same room: what is known of a link is found there sooner. -/
theorem Follows.fromRoot (entered : v.Entered cwd) (follows : v.Follows cwd room seen p pieces r)
    (ends : r = .ok (seen', q)) (leads : v.Leads cwd k p (stepsOf pieces) q)
    (mirrors : v.Mirrors cwd seen other) (seeks : v.Seeks cwd k other) :
    ∃ other', v.Follows cwd room other (.ofLoc (p.loc cwd)) pieces
        (.ok (other', .ofLoc (q.loc cwd))) ∧ v.Mirrors cwd seen' other' ∧
      ∀ ⦃l⦄, Learned other l ∨ v.Meets cwd (.ofLoc (p.loc cwd)) (stepsOf pieces) l →
        Learned other' l := by
  induction follows generalizing seen' q k other with
  | deep | sought | circled | deeper => cases ends
  | done =>
    cases ends
    exact ⟨other, .done, mirrors, fun l learned => learned.resolve_right nofun⟩
  | blank step _ ih =>
    rw [stepsOf_blank step] at leads ⊢
    obtain ⟨other', onward, mirrors, all⟩ := ih ends leads mirrors seeks
    exact ⟨other', .blank step onward, mirrors, all⟩
  | stay step _ ih =>
    rw [stepsOf_cons step] at leads ⊢
    cases leads with
    | stay leads =>
      obtain ⟨other', onward, mirrors, all⟩ := ih ends leads mirrors seeks
      refine ⟨other', .stay step onward, mirrors,
        fun l either => all (either.imp_right fun meets => ?_)⟩
      cases meets with
      | stay meets => exact meets
  | up step _ ih =>
    rw [stepsOf_cons step] at leads ⊢
    cases leads with
    | up leads =>
      obtain ⟨other', onward, mirrors, all⟩ := ih ends leads mirrors seeks
      rw [Standpoint.loc_up, ← Standpoint.ofLoc_up] at onward all
      refine ⟨other', .up step onward, mirrors, fun l either => all (either.imp_right fun meets => ?_)⟩
      cases meets with
      | up meets => exact meets
  | down step link _ ih =>
    rw [stepsOf_cons step] at leads ⊢
    have free := entered.readLink_ofLoc.trans link
    cases leads with
    | down _ leads =>
      obtain ⟨other', onward, mirrors, all⟩ := ih ends leads mirrors seeks
      refine ⟨other', .down step free onward, mirrors,
        fun l either => all (either.imp_right fun meets => ?_)⟩
      cases meets with
      | down _ meets => exact meets
      | link link' => rw [free] at link'; cases link'
      | beyond link' => rw [free] at link'; cases link'
    | beyond link' => rw [link] at link'; cases link'
  | known step link met _ ih =>
    rw [stepsOf_cons step, ← List.singleton_append] at leads
    rw [stepsOf_cons step]
    obtain ⟨a, b, m, rfl, first, leads⟩ := leads.exists_of_append
    obtain ⟨j, back⟩ := mirrors.known met
    obtain ⟨rfl, rfl⟩ := first.unique back
    have learned := mirrors.covers met
    obtain ⟨other', onward, mirrors', all⟩ :=
      ih ends leads mirrors (seeks.mono (Nat.le_add_left _ _))
    exact ⟨other', .known step (entered.readLink_ofLoc.trans link)
      (mirrors.lookup entered first learned) onward, mirrors',
      mirrors.beyond entered first learned all⟩
  | @opened _ _ _ p m _ _ _ n target step link _ inner _ nested ih =>
    rw [stepsOf_cons step] at leads ⊢
    obtain ⟨a, b, m', rfl, within, leads⟩ := leads.exists_of_link link
    obtain ⟨-, j, back⟩ := inner.leads mirrors.known.seek rfl
    obtain ⟨rfl, rfl⟩ := within.to_pieces.unique back
    have first := leads_of_target link within
    have rooted := entered.readLink_ofLoc.trans link
    have seeks' : v.Seeks cwd b other := seeks.mono (Nat.le_add_left _ _)
    rcases met : other.lookup (.ofLoc (n :: p.loc cwd)) with _ | _ | known
    · obtain ⟨other₁, inner', mirrors₁, all₁⟩ := nested rfl within.to_pieces (mirrors.seek met)
        (seeks.seek (first.fromRoot entered) (by omega))
      have within' := within.fromRoot entered
      rw [Standpoint.loc_origin, ← Standpoint.ofLoc_origin] at inner' all₁ within'
      have behind ⦃l⦄ (meets : v.Meets cwd (.ofLoc (p.loc cwd)) [.down n] l) :
          l = n :: p.loc cwd ∨ Learned other₁ l := by
        obtain here | further := within'.meets_target rooted meets
        · exact .inl (here.trans (congrArg (n :: ·) Standpoint.loc_ofLoc))
        · exact .inr (all₁ (.inr further))
      have mirrors' := mirrors₁.learn entered first behind
      obtain ⟨other', onward, mirrors'', all⟩ := ih ends leads mirrors' (inner'.seeks seeks')
      refine ⟨other', .opened step rooted met inner' onward, mirrors'', fun l either =>
        mirrors'.beyond entered first (learned_learn.mpr (.inl rfl)) all (either.imp_left ?_)⟩
      exact fun before => learned_learn.mpr (.inr (all₁ (.inl ((learned_seek met).mpr before))))
    · exact absurd met (seeks.lookup_ne (first.fromRoot entered) (by omega))
    · have learned : Learned other (n :: p.loc cwd) := ⟨known, met⟩
      obtain ⟨other', onward, mirrors', all⟩ :=
        ih ends leads (mirrors.skip entered link inner learned) seeks'
      exact ⟨other', .known step rooted (mirrors.lookup entered first learned) onward, mirrors',
        mirrors.beyond entered first learned all⟩

/-- Pieces behind the names of a settled place are followed from the root as they are from there. -/
theorem Settled.follows (settled : v.Settled l)
    (follows : v.Follows cwd (room + 1) seen (.ofLoc l) pieces r) :
    v.Follows cwd (room + 1) seen .root (l.reverse.map Name.chars ++ pieces) r := by
  induction l generalizing pieces with
  | nil => exact follows
  | cons n l ih =>
    rw [List.reverse_cons, List.map_append, List.append_assoc]
    have step := Route.step?_chars n
    rw [Step.ofName_of_ne settled.1.1] at step
    exact ih settled.2 (.down step settled.1.2.2 follows)

/-- A path whose links come to an end is followed alike behind the spelling of the directory at hand. -/
theorem followPath_join (entered : v.Entered cwd) (settled : v.Settled cwd)
    (relative : place.anchor = .here) (some : place.names ≠ [])
    (leads : v.Leads cwd k (Standpoint.here.origin (Route.ofString place.text))
      (Route.ofString place.text).steps q)
    (followed : v.followPath cwd room place = .ok q) :
    v.followPath cwd room ((spell cwd).join place) = .ok (.ofLoc (q.loc cwd)) := by
  have joined : (spell cwd).join place = ⟨.root, cwd.reverse ++ place.names⟩ := by
    rw [Path.join, relative]
    rfl
  have more : cwd.reverse ++ place.names ≠ [] := List.append_ne_nil_of_right_ne_nil _ some
  have pieces : Text.pieces '/' place.text.toList = place.names.map Name.chars := by
    rw [Path.text, String.toList_ofList, Path.pieces_chars_eq some, relative]
    rfl
  have pieces' : Text.pieces '/' ((spell cwd).join place).text.toList =
      [] :: (cwd.reverse.map Name.chars ++ place.names.map Name.chars) := by
    rw [joined, Path.text, String.toList_ofList, Path.pieces_chars_eq more, List.map_append]
    rfl
  have start : Standpoint.here.origin (Route.ofString place.text) = .here := by
    rw [Path.ofString_text, relative]
    rfl
  have start' : Standpoint.here.origin (Route.ofString ((spell cwd).join place).text) = .root := by
    rw [Path.ofString_text, joined]
    rfl
  unfold followPath at followed ⊢
  dsimp only at followed ⊢
  rw [start', pieces']
  rw [start] at leads followed
  cases whole : v.follow cwd (room + 1) [] .here (Text.pieces '/' place.text.toList) with
  | error halt => rw [whole] at followed; cases followed
  | ok found =>
    rw [whole] at followed
    cases followed
    obtain ⟨other, onward, -⟩ := Follows.fromRoot entered follows_follow whole leads.to_pieces
      mirrors_nil seeks_nil
    rw [Standpoint.loc_here, pieces] at onward
    have blank : Route.step? [] = Option.none := rfl
    rw [(Follows.blank blank (settled.follows onward)).eq]
    rfl

/-- A path that leads somewhere is resolved alike behind the spelling of the directory at hand. -/
theorem Arrives.target_join (arrives : v.Arrives cwd k place l) (entered : v.Entered cwd)
    (settled : v.Settled cwd) (resolved : v.target cwd room place = .ok place') :
    v.target cwd room ((spell cwd).join place) = .ok place' := by
  by_cases absolute : place.IsAbsolute
  · rwa [Path.join_of_isAbsolute absolute]
  have relative : place.anchor = .here := not_not.mp absolute
  obtain ⟨rfl, q, leads, rfl, followed⟩ := arrives.followed resolved
  by_cases none : place.names = []
  · have joined : (spell cwd).join place = spell cwd := by
      rw [Path.join, relative, none, List.append_nil]
    have here : q.loc cwd = cwd := by
      obtain ⟨m, start, ends⟩ := arrives
      rw [Path.steps, none, if_neg absolute] at start
      cases start
      exact ends.symm
    rw [joined, here]
    exact settled.target_spell cwd room
  · have clean := isClean_join settled.isClean_spell (arrives.clean resolved)
    have whole := followPath_join entered settled relative none leads followed
    rw [target_of_followPath clean whole, Standpoint.loc_ofLoc]

end TexBuild.Volume
