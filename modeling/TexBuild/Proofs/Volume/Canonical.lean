import TexBuild.Proofs.Volume.Resolution

namespace TexBuild.Volume

variable {v : Volume} {budget room j k k' : Nat} {cwd loc l : Loc} {n : Name} {e : Entry}
  {steps more : List Step} {path target : String} {pieces rest : List (List Char)}
  {o p q q' : Standpoint} {seen seen' : Links} {r : Except Halt (Links × Standpoint)}

/-- Each link whose target is sought leads somewhere over more than so many links. -/
def Seeks (v : Volume) (cwd : Loc) (k : Nat) (seen : Links) : Prop :=
  ∀ ⦃p n⦄, seen.lookup (p.down n) = some none → ∃ j q, k < j ∧ v.Leads cwd j p [.down n] q

theorem seeks_nil : v.Seeks cwd k [] :=
  nofun

theorem Seeks.mono (seeks : v.Seeks cwd k seen) (less : j ≤ k) : v.Seeks cwd j seen := by
  intro p n sought
  obtain ⟨i, q, more, leads⟩ := seeks sought
  exact ⟨i, q, Nat.lt_of_le_of_lt less more, leads⟩

theorem Seeks.seek (seeks : v.Seeks cwd k seen) (leads : v.Leads cwd (j + 1) p [.down n] q)
    (less : j ≤ k) : v.Seeks cwd j ((p.down n, none) :: seen) := by
  intro p' n' sought
  rw [List.lookup_cons] at sought
  split at sought
  · next same =>
    obtain ⟨rfl, rfl⟩ := Standpoint.down_inj (beq_iff_eq.mp same)
    exact ⟨j + 1, q, Nat.lt_succ_self j, leads⟩
  · exact seeks.mono less sought

/-- A link from which there are no more links to go than there are left is not one of those whose
targets are sought. -/
theorem Seeks.lookup_ne (seeks : v.Seeks cwd k seen) (leads : v.Leads cwd j p [.down n] q)
    (less : j ≤ k) : seen.lookup (p.down n) ≠ some none := by
  intro sought
  obtain ⟨i, m, more, back⟩ := seeks sought
  obtain ⟨rfl, -⟩ := leads.unique back
  exact absurd more (Nat.not_lt_of_le less)

theorem lookup_learn (sought : ((p, some q) :: seen).lookup o = some none) :
    o ≠ p ∧ seen.lookup o = some none := by
  rw [List.lookup_cons] at sought
  split at sought
  · cases sought
  · next apart => exact ⟨beq_eq_false_iff_ne.mp apart, sought⟩

theorem lookup_seek (apart : o ≠ p) : ((p, none) :: seen).lookup o = seen.lookup o := by
  rw [List.lookup_cons, beq_eq_false_iff_ne.mpr apart]

/-- Once pieces are followed to their end, no target is sought that was not before. -/
theorem Follows.lookup_sought (follows : v.Follows cwd room seen p pieces r)
    (ends : r = .ok (seen', q)) (sought : seen'.lookup o = some none) :
    seen.lookup o = some none := by
  induction follows generalizing seen' q with
  | deep | sought | circled | deeper => cases ends
  | done =>
    cases ends
    exact sought
  | blank _ _ ih => exact ih ends sought
  | stay _ _ ih => exact ih ends sought
  | up _ _ ih => exact ih ends sought
  | down _ _ _ ih => exact ih ends sought
  | known _ _ _ _ ih => exact ih ends sought
  | opened _ _ _ _ _ nested ih =>
    obtain ⟨apart, before⟩ := lookup_learn (ih ends sought)
    exact (lookup_seek apart).symm.trans (nested rfl before)

/-- A link that is followed to its end is sought no more. -/
theorem Follows.seeks (inner : v.Follows cwd room ((o, none) :: seen) p pieces (.ok (seen', q)))
    (seeks : v.Seeks cwd k seen) : v.Seeks cwd k ((o, some q) :: seen') := by
  intro p' n' sought
  obtain ⟨apart, before⟩ := lookup_learn sought
  exact seeks ((lookup_seek apart).symm.trans (inner.lookup_sought rfl before))

/-- Where pieces lead somewhere over so many links, their following ends there, or it comes upon too
many links within one another. A link is not met again while its own target is sought: more links
would be left before it than there are. -/
theorem Follows.of_leads (follows : v.Follows cwd room seen p pieces r) (known : v.Known cwd seen)
    (leads : v.Leads cwd k p (stepsOf pieces) q) (seeks : v.Seeks cwd k seen) :
    (∃ seen', r = .ok (seen', q)) ∨ room ≤ k ∧ r = .error .deep := by
  induction follows generalizing k q with
  | deep => exact .inr ⟨Nat.zero_le k, rfl⟩
  | done =>
    cases leads
    exact .inl ⟨_, rfl⟩
  | blank step _ ih =>
    rw [stepsOf_blank step] at leads
    exact ih known leads seeks
  | stay step _ ih =>
    rw [stepsOf_cons step] at leads
    cases leads with
    | stay leads => exact ih known leads seeks
  | up step _ ih =>
    rw [stepsOf_cons step] at leads
    cases leads with
    | up leads => exact ih known leads seeks
  | down step link _ ih =>
    rw [stepsOf_cons step] at leads
    cases leads with
    | down _ leads => exact ih known leads seeks
    | beyond link' => rw [link] at link'; cases link'
  | known step link met _ ih =>
    rw [stepsOf_cons step, ← List.singleton_append] at leads
    obtain ⟨a, b, m, rfl, first, leads⟩ := leads.exists_of_append
    obtain ⟨j, back⟩ := known met
    obtain ⟨rfl, rfl⟩ := first.unique back
    exact (ih known leads (seeks.mono (Nat.le_add_left _ _))).imp_right
      (And.imp_left Nat.le_add_left_of_le)
  | sought step link met =>
    rw [stepsOf_cons step, ← List.singleton_append] at leads
    obtain ⟨a, b, m, rfl, first, -⟩ := leads.exists_of_append
    exact absurd met (seeks.lookup_ne first (Nat.le_add_right a b))
  | opened step link met inner _ _ ih =>
    rw [stepsOf_cons step] at leads
    obtain ⟨a, b, m, rfl, within, leads⟩ := leads.exists_of_link link
    obtain ⟨further, j, back⟩ := inner.leads known.seek rfl
    obtain ⟨rfl, rfl⟩ := within.to_pieces.unique back
    exact (ih (further.learn (leads_of_target link within)) leads
      (inner.seeks (seeks.mono (Nat.le_add_left _ _)))).imp_right (And.imp_left Nat.le_add_left_of_le)
  | circled step link _ _ nested =>
    rw [stepsOf_cons step] at leads
    obtain ⟨a, b, m, rfl, within, -⟩ := leads.exists_of_link link
    obtain ⟨_, done⟩ | ⟨-, deep⟩ :=
      nested known.seek within.to_pieces (seeks.seek (leads_of_target link within) (by omega))
    · cases done
    · cases deep
  | deeper step link _ _ nested =>
    rw [stepsOf_cons step] at leads
    obtain ⟨a, b, m, rfl, within, -⟩ := leads.exists_of_link link
    obtain ⟨_, done⟩ | ⟨full, -⟩ :=
      nested known.seek within.to_pieces (seeks.seek (leads_of_target link within) (by omega))
    · cases done
    · exact .inr ⟨by omega, rfl⟩

variable {expand : Loc → String → List Step → Except Errno Spot} {place : Path}

/-- Where the links on the way of a path come to an end, their following arrives there, or comes upon
too many of them within one another. -/
theorem followPath_of_leads
    (leads : v.Leads cwd k (Standpoint.here.origin (Route.ofString place.text))
      (Route.ofString place.text).steps q) (room : Nat) :
    v.followPath cwd room place = .ok q ∨
      room < k ∧ v.followPath cwd room place = .error .deep := by
  have follows : v.Follows cwd (room + 1) [] (Standpoint.here.origin (Route.ofString place.text))
      (Text.pieces '/' place.text.toList) _ := follows_follow
  unfold followPath
  obtain ⟨seen', done⟩ | ⟨full, deep⟩ := follows.of_leads known_nil leads.to_pieces seeks_nil
  · exact .inl (congrArg (Except.map Prod.snd) done)
  · exact .inr ⟨full, congrArg (Except.map Prod.snd) deep⟩

theorem target_of_followPath (clean : isClean place = true)
    (arrives : v.followPath cwd room place = .ok q) :
    v.target cwd room place = .ok (spell (q.loc cwd)) := by
  unfold target
  rw [fitPart_of_isClean clean, unfitPart_eq_nil_iff.mpr clean, arrives]

theorem exists_leads_of_walkWith
    (expands : ∀ p target rest, v.Reached cwd p → expand (p.loc cwd) target rest = .ok (.there l e) →
      ∃ k q, k < budget ∧ v.Leads cwd k (p.origin (Route.ofString target))
        ((Route.ofString target).steps ++ rest) q ∧ q.loc cwd = l)
    (reached : v.Reached cwd p)
    (walked : v.walkWith true expand (p.loc cwd) steps = .ok (.there l e)) :
    ∃ k q, k ≤ budget ∧ v.Leads cwd k p steps q ∧ q.loc cwd = l := by
  induction steps generalizing p with
  | nil =>
    rw [walkWith] at walked
    cases here : v.get? (p.loc cwd) with
    | none => rw [here] at walked; cases walked
    | some e' =>
      rw [here] at walked
      cases walked
      exact ⟨0, p, Nat.zero_le _, .done, rfl⟩
  | cons step rest ih =>
    have pass := passable_of_walkWith walked
    cases step with
    | stay =>
      obtain ⟨k, q, less, onward, ends⟩ := ih reached ((walkWith_stay pass).symm.trans walked)
      exact ⟨k, q, less, .stay onward, ends⟩
    | up =>
      rw [walkWith_up pass, ← Standpoint.loc_up] at walked
      obtain ⟨k, q, less, onward, ends⟩ := ih (reached.up pass) walked
      exact ⟨k, q, less, .up onward, ends⟩
    | down n =>
      obtain ⟨-, short, ⟨-, -, free⟩ | ⟨_, -, ⟨-, ends⟩, -⟩ | ⟨target, below, -, walked⟩ |
        ⟨e', below, plain, walked⟩⟩ := walkWith_down_eq_ok_iff.mp walked
      · cases free
      · cases ends
      · obtain ⟨k, q, less, onward, ends⟩ := expands p target rest reached walked
        exact ⟨k + 1, q, less, .beyond (readLink_of_link reached pass short below) onward, ends⟩
      · obtain ⟨k, q, less, onward, ends⟩ :=
          ih (p := p.down n) (reached_down_iff.mpr ⟨pass, reached⟩) walked
        exact ⟨k, q, less, .down (readLink_eq_none below plain) onward, ends⟩

theorem exists_leads_of_walk (reached : v.Reached cwd p)
    (walked : v.walk true budget (p.loc cwd) steps = .ok (.there l e)) :
    ∃ k q, k ≤ budget ∧ v.Leads cwd k p steps q ∧ q.loc cwd = l := by
  induction budget generalizing p steps with
  | zero =>
    rw [walk] at walked
    exact exists_leads_of_walkWith (fun _ _ _ _ none => by cases none) reached walked
  | succ budget ih =>
    rw [walk] at walked
    refine exists_leads_of_walkWith (fun p target rest reached further => ?_) reached walked
    dsimp only at further
    rw [← Standpoint.loc_origin] at further
    obtain ⟨k, q, less, onward, ends⟩ := ih (reached.origin _) further
    exact ⟨k, q, Nat.lt_succ_of_le less, onward, ends⟩

/-- A path that leads to something leads there over no more links than a system passes. -/
theorem exists_leads_of_find (found : v.find cwd path = .ok (l, e)) :
    ∃ k q, k ≤ linkBudget ∧ v.Leads cwd k (Standpoint.here.origin (Route.ofString path))
      (Route.ofString path).steps q ∧ q.loc cwd = l := by
  refine exists_leads_of_walk (e := e) (reached_here.origin _) ?_
  rw [Standpoint.loc_origin]
  exact (locate_eq_ok_iff.mp (find_eq_ok_iff.mp found)).2.2

/-- Where a path leads to something, the following of links ends there as well. -/
theorem target_of_find (enough : linkBudget ≤ room) (clean : isClean place = true)
    (found : v.find cwd place.text = .ok (l, e)) : v.target cwd room place = .ok (spell l) := by
  obtain ⟨k, q, less, leads, rfl⟩ := exists_leads_of_find found
  obtain arrives | ⟨full, -⟩ := followPath_of_leads leads room
  · exact target_of_followPath clean arrives
  · omega

section Straight

/-- The names of a place are read as names, and all that stands above it may be passed through. -/
def Straight (v : Volume) : Loc → Prop
  | [] => True
  | n :: loc => (n ≠ Name.up ∧ n.octets ≤ nameLimit) ∧ v.passable loc = .ok () ∧ Straight v loc

theorem Straight.tail (straight : v.Straight loc) : v.Straight loc.tail := by
  cases loc with
  | nil => trivial
  | cons n loc => exact straight.2.2

theorem Straight.origin (straight : v.Straight loc) (r : Route) : v.Straight (r.origin loc) := by
  unfold Route.origin
  split
  · trivial
  · exact straight

/-- A step down of a spelling goes to one of its pieces, and never to two dots. -/
theorem chars_of_mem_steps (among : Step.down n ∈ (Route.ofString path).steps) :
    n.chars ∈ Text.pieces '/' path.toList ∧ n ≠ Name.up := by
  have inside : Step.down n ∈ (Text.pieces '/' path.toList).filterMap Route.step? := by
    unfold Route.ofString at among
    dsimp only at among
    split at among
    · obtain inside | last := List.mem_append.mp among
      · exact inside
      · cases List.mem_singleton.mp last
    · exact among
  obtain ⟨cs, piece, step⟩ := List.mem_filterMap.mp inside
  unfold Route.step? at step
  split at step
  · cases step
  split at step
  · cases step
  · next other =>
    obtain ⟨n, made, same⟩ := Option.map_eq_some_iff.mp step
    cases same
    have chars : n.chars = cs := Name.chars_of_ofChars? made
    refine ⟨chars ▸ piece, ?_⟩
    rintro rfl
    exact other chars.symm

theorem ne_up_of_mem_steps (among : Step.down n ∈ (Route.ofString path).steps) : n ≠ Name.up :=
  (chars_of_mem_steps among).2

theorem straight_of_walkWith
    (expands : ∀ loc target rest, v.Straight loc → (∀ n, .down n ∈ rest → n ≠ Name.up) →
      expand loc target rest = .ok (.there l e) → v.Straight l)
    (named : ∀ n, .down n ∈ steps → n ≠ Name.up) (straight : v.Straight loc)
    (walked : v.walkWith true expand loc steps = .ok (.there l e)) : v.Straight l := by
  induction steps generalizing loc with
  | nil =>
    rw [walkWith] at walked
    cases here : v.get? loc with
    | none => rw [here] at walked; cases walked
    | some e' =>
      rw [here] at walked
      cases walked
      exact straight
  | cons step rest ih =>
    have pass := passable_of_walkWith walked
    have later : ∀ n, .down n ∈ rest → n ≠ Name.up := fun n among => named n (.tail _ among)
    cases step with
    | stay => exact ih later straight ((walkWith_stay pass).symm.trans walked)
    | up => exact ih later straight.tail ((walkWith_up pass).symm.trans walked)
    | down n =>
      obtain ⟨-, short, ⟨-, -, free⟩ | ⟨_, -, ⟨-, ends⟩, -⟩ | ⟨target, -, -, walked⟩ |
        ⟨e', -, -, walked⟩⟩ := walkWith_down_eq_ok_iff.mp walked
      · cases free
      · cases ends
      · exact expands _ _ _ straight later walked
      · have below : v.Straight (n :: loc) := ⟨⟨named n (.head _), short⟩, pass, straight⟩
        exact ih later below walked

theorem straight_of_walk (named : ∀ n, .down n ∈ steps → n ≠ Name.up) (straight : v.Straight loc)
    (walked : v.walk true budget loc steps = .ok (.there l e)) : v.Straight l := by
  induction budget generalizing loc steps with
  | zero =>
    rw [walk] at walked
    exact straight_of_walkWith (fun _ _ _ _ _ none => by cases none) named straight walked
  | succ budget ih =>
    rw [walk] at walked
    refine straight_of_walkWith (fun loc target rest straight later further => ?_) named straight
      walked
    refine ih (fun n among => ?_) (straight.origin _) further
    obtain among | among := List.mem_append.mp among
    · exact ne_up_of_mem_steps among
    · exact later n among

/-- What a spelling leads to is reached by its own names. -/
theorem straight_of_find (start : v.Straight ((Route.ofString path).origin cwd))
    (found : v.find cwd path = .ok (l, e)) : v.Straight l :=
  straight_of_walk (fun _ among => ne_up_of_mem_steps among) start
    (locate_eq_ok_iff.mp (find_eq_ok_iff.mp found)).2.2

theorem Straight.walkWith_eq (straight : v.Straight loc) (there : v.get? loc = some e)
    (plain : ∀ target, e ≠ .link target) (steps : List Step) :
    v.walkWith true expand [] (loc.reverse.map .down ++ steps) = v.walkWith true expand loc steps := by
  induction loc generalizing e steps with
  | nil => rfl
  | cons n loc ih =>
    obtain ⟨⟨-, short⟩, pass, straight⟩ := straight
    obtain ⟨mode, above, -⟩ := passable_eq_ok_iff.mp pass
    rw [List.reverse_cons, List.map_append, List.append_assoc, ih straight above nofun]
    refine (walkWith_down pass).trans ?_
    rw [if_neg (Nat.not_lt.mpr short), there]
    cases e with
    | link target => exact absurd rfl (plain target)
    | _ => rfl

theorem spell_route (straight : v.Straight loc) (some : loc ≠ []) :
    (spell loc).route = loc.reverse.map .down := by
  have names : ∀ n ∈ loc, n ≠ Name.up := by
    intro n among
    induction loc with
    | nil => cases among
    | cons d loc ih =>
      obtain rfl | later := List.mem_cons.mp among
      · exact straight.1.1
      · exact ih straight.2.2 (List.ne_nil_of_mem later) later
  have nonempty : (spell loc).names ≠ [] := by simpa [spell] using some
  unfold Path.route Path.steps
  rw [if_neg nonempty]
  exact List.map_congr_left fun n among => Step.ofName_of_ne (names n (List.mem_reverse.mp among))

/-- The spelling of a place leads there from anywhere, if it is not too long. -/
theorem find_spell (straight : v.Straight loc) (there : v.get? loc = some e)
    (plain : ∀ target, e ≠ .link target) (cwd : Loc) :
    v.find cwd (spell loc).text =
      if pathLimit < Text.octets (spell loc).text.toList then .error .nameTooLong else .ok (loc, e) := by
  have whole (budget : Nat) : v.walk true budget [] (spell loc).route = .ok (.there loc e) := by
    have root : v.passable [] = .ok () := rfl
    have ends {expand} : v.walkWith true expand [] (spell loc).route = .ok (.there loc e) := by
      by_cases none : loc = []
      · subst none
        refine (walkWith_stay root).trans ?_
        rw [walkWith, there]
      · rw [spell_route straight none, ← List.append_nil (List.map _ _),
          straight.walkWith_eq there plain, walkWith, there]
    cases budget with
    | zero => exact ends
    | succ budget => exact ends
  by_cases long : pathLimit < Text.octets (spell loc).text.toList
  · unfold find locate
    rw [if_neg (Path.text_ne_empty _), if_pos long, if_pos long]
    rfl
  · have absolute : (Path.ofString (spell loc).text).IsAbsolute :=
      (Path.isAbsolute_ofString_text _).mpr (isAbsolute_spell loc)
    rw [if_neg long, find_eq_ok_iff, locate_eq_ok_iff, Path.origin_of_isAbsolute absolute,
      Path.ofString_text]
    exact ⟨Path.text_ne_empty _, Nat.le_of_not_lt long, whole _⟩

/-- An absolute path that leads to something is resolved to the spelling of its place. -/
theorem canonical_of_find (enough : linkBudget ≤ room) (clean : isClean place = true)
    (absolute : place.IsAbsolute) (found : v.find cwd place.text = .ok (l, e))
    (plain : ∀ target, e ≠ .link target) : v.canonical cwd room place = .ok (spell l) := by
  refine canonical_eq_ok_iff.mpr
    ⟨target_of_find enough clean found, fun gone => absolute gone.1, ?_⟩
  have start : v.Straight ((Route.ofString place.text).origin cwd) := by
    rw [Path.origin_of_isAbsolute ((Path.isAbsolute_ofString_text place).mpr absolute)]
    trivial
  have there : v.get? l = some e := get?_of_locate (find_eq_ok_iff.mp found)
  rw [find_spell (straight_of_find start found) there plain]
  split <;> nofun

end Straight

end TexBuild.Volume
