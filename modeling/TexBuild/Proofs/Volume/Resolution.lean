import Mathlib.Data.List.TakeWhile
import TexBuild.Proofs.Path.Clean
import TexBuild.Proofs.Path.Spelling
import TexBuild.Proofs.Volume.Erasure

namespace TexBuild.Volume

/-- The steps that the pieces of a spelling stand for. -/
def stepsOf (pieces : List (List Char)) : List Step :=
  pieces.filterMap Route.step?

/-- What comes of following pieces of a spelling, where so many may be followed within one another. -/
inductive Follows (v : Volume) (cwd : Loc) :
    Nat → Links → Standpoint → List (List Char) → Except Halt (Links × Standpoint) → Prop
  | deep {seen p pieces} : Follows v cwd 0 seen p pieces (.error .deep)
  | done {room seen p} : Follows v cwd (room + 1) seen p [] (.ok (seen, p))
  | blank {room seen p piece rest r} : Route.step? piece = none →
      Follows v cwd (room + 1) seen p rest r → Follows v cwd (room + 1) seen p (piece :: rest) r
  | stay {room seen p piece rest r} : Route.step? piece = some .stay →
      Follows v cwd (room + 1) seen p rest r → Follows v cwd (room + 1) seen p (piece :: rest) r
  | up {room seen p piece rest r} : Route.step? piece = some .up →
      Follows v cwd (room + 1) seen p.up rest r → Follows v cwd (room + 1) seen p (piece :: rest) r
  | down {room seen p piece rest r n} : Route.step? piece = some (.down n) →
      v.readLink cwd p n = none → Follows v cwd (room + 1) seen (p.down n) rest r →
      Follows v cwd (room + 1) seen p (piece :: rest) r
  | known {room seen p piece rest r n target q} : Route.step? piece = some (.down n) →
      v.readLink cwd p n = some target → seen.lookup (p.down n) = some (some q) →
      Follows v cwd (room + 1) seen q rest r → Follows v cwd (room + 1) seen p (piece :: rest) r
  | sought {room seen p piece rest n target} : Route.step? piece = some (.down n) →
      v.readLink cwd p n = some target → seen.lookup (p.down n) = some none →
      Follows v cwd (room + 1) seen p (piece :: rest)
        (.error (.circle (keep (spell ((p.down n).loc cwd)) rest)))
  | opened {room seen seen' p q piece rest r n target} : Route.step? piece = some (.down n) →
      v.readLink cwd p n = some target → seen.lookup (p.down n) = none →
      Follows v cwd room ((p.down n, none) :: seen) (p.origin (Route.ofString target))
        (Text.pieces '/' target.toList) (.ok (seen', q)) →
      Follows v cwd (room + 1) ((p.down n, some q) :: seen') q rest r →
      Follows v cwd (room + 1) seen p (piece :: rest) r
  | circled {room seen p piece rest n target path} : Route.step? piece = some (.down n) →
      v.readLink cwd p n = some target → seen.lookup (p.down n) = none →
      Follows v cwd room ((p.down n, none) :: seen) (p.origin (Route.ofString target))
        (Text.pieces '/' target.toList) (.error (.circle path)) →
      Follows v cwd (room + 1) seen p (piece :: rest) (.error (.circle (keep path rest)))
  | deeper {room seen p piece rest n target} : Route.step? piece = some (.down n) →
      v.readLink cwd p n = some target → seen.lookup (p.down n) = none →
      Follows v cwd room ((p.down n, none) :: seen) (p.origin (Route.ofString target))
        (Text.pieces '/' target.toList) (.error .deep) →
      Follows v cwd (room + 1) seen p (piece :: rest) (.error .deep)

variable {v : Volume} {room k : Nat} {cwd spare l : Loc} {n : Name} {seen seen' : Links}
  {p q : Standpoint} {piece : List Char} {pieces rest : List (List Char)} {steps more : List Step}
  {s : Step} {r : Except Halt (Links × Standpoint)} {path target : String} {place q' : Path}
  {expand : Links → Standpoint → String → Except Halt (Links × Standpoint)}

/-- The following of links does what it is described to do. -/
theorem follows_follow : v.Follows cwd room seen p pieces (v.follow cwd room seen p pieces) := by
  induction room generalizing seen p pieces with
  | zero => exact .deep
  | succ room nested =>
    rw [follow]
    induction pieces generalizing seen p with
    | nil => exact .done
    | cons piece rest ih =>
      unfold followWith
      rcases step : Route.step? piece with _ | n | _ | _
      · exact .blank step ih
      · dsimp only
        cases link : v.readLink cwd p n with
        | none => exact .down step link ih
        | some target =>
          rcases met : seen.lookup (p.down n) with _ | _ | known
          · have inner := @nested ((p.down n, none) :: seen) (p.origin (Route.ofString target))
              (Text.pieces '/' target.toList)
            dsimp only
            generalize v.follow cwd room _ _ _ = o at inner
            rcases o with (path | _) | ⟨seen', q⟩
            · exact .circled step link met inner
            · exact .deeper step link met inner
            · exact .opened step link met inner ih
          · exact .sought step link met
          · exact .known step link met ih
      · exact .up step ih
      · exact .stay step ih

/-- Pieces are followed in one way only. -/
theorem Follows.eq (follows : v.Follows cwd room seen p pieces r) :
    v.follow cwd room seen p pieces = r := by
  induction follows with
  | deep => rfl
  | done => rfl
  | blank step _ ih =>
    rw [follow] at ih ⊢
    rwa [followWith, step]
  | stay step _ ih =>
    rw [follow] at ih ⊢
    rwa [followWith, step]
  | up step _ ih =>
    rw [follow] at ih ⊢
    rwa [followWith, step]
  | down step link _ ih =>
    rw [follow] at ih ⊢
    unfold followWith
    rw [step]
    dsimp only
    rwa [link]
  | known step link met _ ih =>
    rw [follow] at ih ⊢
    unfold followWith
    rw [step]
    dsimp only
    rw [link, met]
    exact ih
  | sought step link met =>
    rw [follow, followWith, step]
    dsimp only
    rw [link, met]
  | opened step link met _ _ inner ih =>
    rw [follow] at ih ⊢
    unfold followWith
    rw [step]
    dsimp only
    rw [link, met]
    dsimp only
    rw [inner]
    exact ih
  | circled step link met _ inner =>
    rw [follow, followWith, step]
    dsimp only
    rw [link, met]
    dsimp only
    rw [inner]
  | deeper step link met _ inner =>
    rw [follow, followWith, step]
    dsimp only
    rw [link, met]
    dsimp only
    rw [inner]

theorem stepsOf_cons (step : Route.step? piece = some s) :
    stepsOf (piece :: rest) = s :: stepsOf rest :=
  List.filterMap_cons_some step

theorem stepsOf_blank (step : Route.step? piece = none) : stepsOf (piece :: rest) = stepsOf rest :=
  List.filterMap_cons_none step

/-- A slash at the end of a spelling asks for a directory, which the following of links does not. -/
theorem steps_ofString (path : String) :
    (Route.ofString path).steps = stepsOf (Text.pieces '/' path.toList) ∨
      (Route.ofString path).steps = stepsOf (Text.pieces '/' path.toList) ++ [.stay] := by
  unfold Route.ofString
  dsimp only
  split
  · exact .inr rfl
  · exact .inl rfl

theorem Meets.insert_stay (meets : v.Meets cwd p (steps ++ more) l) :
    v.Meets cwd p (steps ++ .stay :: more) l := by
  generalize whole : steps ++ more = all at meets
  induction meets generalizing steps with
  | @stay p all l further ih =>
    cases steps with
    | nil =>
      obtain rfl : more = .stay :: all := whole
      exact .stay (.stay further)
    | cons s steps =>
      obtain ⟨rfl, rest⟩ := List.cons.inj whole
      exact .stay (ih rest)
  | @up p all l further ih =>
    cases steps with
    | nil =>
      obtain rfl : more = .up :: all := whole
      exact .stay (.up further)
    | cons s steps =>
      obtain ⟨rfl, rest⟩ := List.cons.inj whole
      exact .up (ih rest)
  | @down p n all l free further ih =>
    cases steps with
    | nil =>
      obtain rfl : more = .down n :: all := whole
      exact .stay (.down free further)
    | cons s steps =>
      obtain ⟨rfl, rest⟩ := List.cons.inj whole
      exact .down free (ih rest)
  | @link p n all target link =>
    cases steps with
    | nil =>
      obtain rfl : more = .down n :: all := whole
      exact .stay (.link link)
    | cons s steps =>
      obtain ⟨rfl, rest⟩ := List.cons.inj whole
      exact .link link
  | @beyond p n all target l link further ih =>
    cases steps with
    | nil =>
      obtain rfl : more = .down n :: all := whole
      exact .stay (.beyond link further)
    | cons s steps =>
      obtain ⟨rfl, rest⟩ := List.cons.inj whole
      have onward : v.Meets cwd _ (((Route.ofString target).steps ++ steps) ++ .stay :: more) l :=
        ih (by rw [List.append_assoc]; exact congrArg _ rest)
      rw [List.append_assoc] at onward
      exact .beyond link onward

theorem Meets.of_pieces (meets : v.Meets cwd p (stepsOf (Text.pieces '/' path.toList) ++ more) l) :
    v.Meets cwd p ((Route.ofString path).steps ++ more) l := by
  obtain same | same := steps_ofString path
  · rwa [same]
  · rw [same, List.append_assoc]
    exact meets.insert_stay

/-- The following of links leads where the system goes, which asks for a directory at a slash at the
end of a spelling. -/
theorem Leads.to_pieces (leads : v.Leads cwd k p (Route.ofString path).steps q) :
    v.Leads cwd k p (stepsOf (Text.pieces '/' path.toList)) q := by
  obtain same | same := steps_ofString path
  · rwa [same] at leads
  · rw [same] at leads
    obtain ⟨a, b, m, rfl, first, last⟩ := leads.exists_of_append
    cases last with
    | stay last =>
      cases last
      exact first

theorem Leads.of_pieces (leads : v.Leads cwd k p (stepsOf (Text.pieces '/' path.toList)) q) :
    v.Leads cwd k p (Route.ofString path).steps q := by
  obtain same | same := steps_ofString path
  · rwa [same]
  · rw [same]
    exact leads.append (.stay .done)

/-- Over a link one meets the link itself, and what its target meets. -/
theorem Leads.meets_target
    (within : v.Leads cwd k (p.origin (Route.ofString target)) (Route.ofString target).steps q)
    (link : v.readLink cwd p n = some target) (meets : v.Meets cwd p [.down n] l) :
    l = n :: p.loc cwd ∨
      v.Meets cwd (p.origin (Route.ofString target)) (stepsOf (Text.pieces '/' target.toList)) l := by
  cases meets with
  | down free => rw [link] at free; cases free
  | link => exact .inl rfl
  | beyond link' further =>
    cases link.symm.trans link'
    rw [List.append_nil] at further
    obtain same | same := steps_ofString target
    · rw [same] at further
      exact .inr further
    · rw [same] at further within
      obtain ⟨a, b, m, -, first, -⟩ := within.exists_of_append
      obtain further | last := first.meets_or further
      · exact .inr further
      · cases last with
        | stay last => cases last

/-- The links that are known to lead somewhere lead there. -/
def Known (v : Volume) (cwd : Loc) (seen : Links) : Prop :=
  ∀ ⦃p n q⦄, seen.lookup (p.down n) = some (some q) → ∃ k, v.Leads cwd k p [.down n] q

/-- A link leads where its target leads, over one link more. -/
theorem leads_of_target (link : v.readLink cwd p n = some target)
    (within : v.Leads cwd k (p.origin (Route.ofString target)) (Route.ofString target).steps q) :
    v.Leads cwd (k + 1) p [.down n] q :=
  .beyond link (by rwa [List.append_nil])

theorem known_nil : v.Known cwd [] :=
  nofun

theorem Known.seek (known : v.Known cwd seen) : v.Known cwd ((p, none) :: seen) := by
  intro p' n' q found
  rw [List.lookup_cons] at found
  split at found
  · cases found
  · exact known found

theorem Known.learn (known : v.Known cwd seen) (leads : v.Leads cwd k p [.down n] q) :
    v.Known cwd ((p.down n, some q) :: seen) := by
  intro p' n' q' found
  rw [List.lookup_cons] at found
  split at found
  · next same =>
    obtain ⟨rfl, rfl⟩ := Standpoint.down_inj (beq_iff_eq.mp same)
    cases found
    exact ⟨k, leads⟩
  · exact known found

/-- Where the following of pieces ends, there they lead, and no link becomes known to lead anywhere
that it does not. -/
theorem Follows.leads (follows : v.Follows cwd room seen p pieces r) (known : v.Known cwd seen)
    (ends : r = .ok (seen', q)) :
    v.Known cwd seen' ∧ ∃ k, v.Leads cwd k p (stepsOf pieces) q := by
  induction follows generalizing seen' q with
  | deep | sought | circled | deeper => cases ends
  | done =>
    cases ends
    exact ⟨known, 0, .done⟩
  | blank step _ ih =>
    rw [stepsOf_blank step]
    exact ih known ends
  | stay step _ ih =>
    obtain ⟨known', k, onward⟩ := ih known ends
    rw [stepsOf_cons step]
    exact ⟨known', k, .stay onward⟩
  | up step _ ih =>
    obtain ⟨known', k, onward⟩ := ih known ends
    rw [stepsOf_cons step]
    exact ⟨known', k, .up onward⟩
  | down step link _ ih =>
    obtain ⟨known', k, onward⟩ := ih known ends
    rw [stepsOf_cons step]
    exact ⟨known', k, .down link onward⟩
  | known step _ met _ ih =>
    obtain ⟨known', k, onward⟩ := ih known ends
    obtain ⟨j, leads⟩ := known met
    rw [stepsOf_cons step]
    exact ⟨known', j + k, leads.append onward⟩
  | opened step link _ _ _ inner ih =>
    obtain ⟨further, j, within⟩ := inner known.seek rfl
    have first := leads_of_target link within.of_pieces
    obtain ⟨known', k, onward⟩ := ih (further.learn first) ends
    rw [stepsOf_cons step]
    exact ⟨known', j + 1 + k, first.append onward⟩

/-- The following of links does not rest on an entry that is no link on its way. -/
theorem Follows.erase (leaf : v.IsLeaf spare) (follows : v.Follows cwd room seen p pieces r)
    (known : v.Known cwd seen) (apart : ¬ v.Meets cwd p (stepsOf pieces) spare) :
    (v.erase spare).Follows cwd room seen p pieces r := by
  have same {p n steps} (apart : ¬ v.Meets cwd p (.down n :: steps) spare) :
      (v.erase spare).readLink cwd p n = v.readLink cwd p n :=
    readLink_erase leaf fun here => Option.eq_none_iff_forall_ne_some.mpr fun target link =>
      apart (here ▸ .link link)
  induction follows with
  | deep => exact .deep
  | done => exact .done
  | blank step _ ih =>
    rw [stepsOf_blank step] at apart
    exact .blank step (ih known apart)
  | stay step _ ih =>
    rw [stepsOf_cons step] at apart
    exact .stay step (ih known fun meets => apart (.stay meets))
  | up step _ ih =>
    rw [stepsOf_cons step] at apart
    exact .up step (ih known fun meets => apart (.up meets))
  | down step link _ ih =>
    rw [stepsOf_cons step] at apart
    exact .down step ((same apart).trans link) (ih known fun meets => apart (.down link meets))
  | known step link met _ ih =>
    rw [stepsOf_cons step] at apart
    obtain ⟨j, leads⟩ := known met
    exact .known step ((same apart).trans link) met
      (ih known fun meets => apart (leads.meets meets))
  | sought step link met =>
    rw [stepsOf_cons step] at apart
    exact .sought step ((same apart).trans link) met
  | opened step link met inner _ nested ih =>
    rw [stepsOf_cons step] at apart
    obtain ⟨further, j, within⟩ := inner.leads known.seek rfl
    have leads := leads_of_target link within.of_pieces
    exact .opened step ((same apart).trans link) met
      (nested known.seek fun meets => apart (.beyond link meets.append.of_pieces))
      (ih (further.learn leads) fun meets => apart (leads.meets meets))
  | circled step link met _ nested =>
    rw [stepsOf_cons step] at apart
    exact .circled step ((same apart).trans link) met
      (nested known.seek fun meets => apart (.beyond link meets.append.of_pieces))
  | deeper step link met _ nested =>
    rw [stepsOf_cons step] at apart
    exact .deeper step ((same apart).trans link) met
      (nested known.seek fun meets => apart (.beyond link meets.append.of_pieces))

theorem passes_text_iff :
    v.Passes cwd place.text l ↔
      v.Meets cwd (if place.IsAbsolute then .root else .here) place.route l := by
  unfold Passes Standpoint.origin
  rw [Path.ofString_text]
  simp only [decide_eq_true_eq]
  exact Iff.rfl

/-- A path that begins with another one passes all links of that one. -/
theorem Passes.join {below : Path} (relative : below.anchor = .here) (some : below.names ≠ [])
    (passes : v.Passes cwd place.text l) : v.Passes cwd (place.join below).text l := by
  obtain ⟨steps, anchor⟩ := Path.steps_join (p := place) relative
  have more : (place.join below).names ≠ [] := by
    simp [Path.join, relative, some]
  rw [passes_text_iff] at passes ⊢
  simp only [Path.IsAbsolute, anchor]
  rw [Path.route, if_neg more, steps]
  unfold Path.route at passes
  by_cases none : place.names = []
  · rw [if_pos none] at passes
    cases passes with
    | stay meets => cases meets
  · rw [if_neg none] at passes
    exact passes.append

theorem join_unfitPart (place : Path) : (fitPart place).join ⟨.here, unfitPart place⟩ = place := by
  obtain ⟨anchor, names⟩ := place
  exact congrArg (Path.mk anchor) List.takeWhile_append_dropWhile

theorem unfitPart_eq_nil_iff : unfitPart place = [] ↔ isClean place = true := by
  rw [unfitPart, List.dropWhile_eq_nil_iff, isClean_iff_names]

theorem fitPart_of_isClean (clean : isClean place = true) : fitPart place = place := by
  have whole := join_unfitPart place
  rwa [unfitPart_eq_nil_iff.mpr clean, Path.join, List.append_nil] at whole

theorem Passes.of_fitPart (passes : v.Passes cwd (fitPart place).text l) :
    v.Passes cwd place.text l := by
  by_cases clean : unfitPart place = []
  · rwa [fitPart_of_isClean (unfitPart_eq_nil_iff.mp clean)] at passes
  · rw [← join_unfitPart place]
    exact passes.join rfl clean

theorem followPath_erase (leaf : v.IsLeaf spare) (apart : ¬ v.Passes cwd place.text spare) :
    (v.erase spare).followPath cwd room place = v.followPath cwd room place := by
  refine congrArg (Except.map Prod.snd) (follows_follow.erase leaf known_nil fun meets => ?_).eq
  have further : v.Meets cwd _ ((Route.ofString place.text).steps ++ []) spare :=
    meets.append.of_pieces
  rw [List.append_nil] at further
  exact apart further

/-- Where a path leads once all links are followed does not hang on an entry that is no link on
its way. -/
theorem target_erase (leaf : v.IsLeaf spare) (apart : ¬ v.Passes cwd place.text spare) :
    (v.erase spare).target cwd room place = v.target cwd room place := by
  unfold target
  rw [followPath_erase leaf fun passes => apart passes.of_fitPart]

/-- What is kept of a path behind a circle of links is absolute. -/
theorem Follows.isAbsolute (follows : v.Follows cwd room seen p pieces r)
    (ends : r = .error (.circle place)) : place.IsAbsolute := by
  induction follows generalizing place with
  | deep | done | deeper => cases ends
  | sought =>
    cases ends
    exact (isAbsolute_spell _).join _
  | circled _ _ _ _ nested =>
    cases ends
    exact (nested rfl).join _
  | opened _ _ _ _ _ _ ih => exact ih ends
  | blank _ _ ih => exact ih ends
  | stay _ _ ih => exact ih ends
  | up _ _ ih => exact ih ends
  | down _ _ _ ih => exact ih ends
  | known _ _ _ _ ih => exact ih ends

theorem isAbsolute_of_followPath (circle : v.followPath cwd room place = .error (.circle q')) :
    q'.IsAbsolute := by
  unfold followPath at circle
  dsimp only at circle
  generalize whole : v.follow cwd (room + 1) _ _ _ = r at circle
  cases r with
  | ok _ => cases circle
  | error halt =>
    cases circle
    exact follows_follow.isAbsolute whole

theorem isAbsolute_of_target (resolved : v.target cwd room place = .ok q') : q'.IsAbsolute := by
  unfold target at resolved
  split at resolved
  · cases resolved
    exact isAbsolute_spell _
  · cases resolved
  · next circle =>
    dsimp only at resolved
    split at resolved
    · cases resolved
      exact (isAbsolute_of_followPath circle).join _
    · cases resolved
  · cases resolved

theorem canonical_eq :
    v.canonical cwd room place = (v.target cwd room place).bind fun q' =>
      if place.anchor = .here ∧ v.get? cwd = none then .error (.system (.ofErrno .noEntry))
      else if v.find cwd q'.text = .error .linkLoop then .error (.linkLoop q'.text)
      else .ok q' := by
  unfold canonical
  refine congrArg _ (funext fun q' => ?_)
  by_cases gone : place.anchor = .here ∧ v.get? cwd = none
  · rw [if_pos gone, if_pos gone]
    rfl
  rw [if_neg gone, if_neg gone]
  rcases v.find cwd q'.text with x | found
  · cases x <;> rfl
  · rfl

theorem canonical_eq_ok_iff :
    v.canonical cwd room place = .ok q' ↔
      v.target cwd room place = .ok q' ∧ ¬ (place.anchor = .here ∧ v.get? cwd = none) ∧
        v.find cwd q'.text ≠ .error .linkLoop := by
  rw [canonical_eq]
  refine bind_eq_ok_iff.trans ⟨?_, fun ⟨same, here, straight⟩ => ⟨q', same, ?_⟩⟩
  · rintro ⟨path, same, found⟩
    split at found
    · cases found
    · split at found
      · cases found
      · cases found
        exact ⟨same, ‹_›, ‹_›⟩
  · rw [if_neg here, if_neg straight]

theorem canonical_erase (leaf : v.IsLeaf spare) (apart : ¬ v.Passes cwd place.text spare)
    (apart' : ¬ v.Passes cwd q'.text spare) (elsewhere : cwd ≠ spare)
    (found : v.canonical cwd room place = .ok q') :
    (v.erase spare).canonical cwd room place = .ok q' := by
  rw [canonical_eq_ok_iff] at found ⊢
  obtain ⟨same, here, straight⟩ := found
  refine ⟨by rwa [target_erase leaf apart], by rwa [get?_erase_of_ne v elsewhere], ?_⟩
  obtain ⟨as, -⟩ | ⟨lost, -⟩ := find_erase leaf apart'
  · rwa [as]
  · rw [lost]
    nofun

end TexBuild.Volume
