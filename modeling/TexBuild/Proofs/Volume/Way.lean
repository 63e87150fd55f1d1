import TexBuild.Proofs.Volume.Walk
import TexBuild.Volume.Canonical

namespace TexBuild.Volume

/-- What a name in a directory leads to, a link not followed. -/
def spotIn (v : Volume) (loc : Loc) (n : Name) : Except Errno Spot :=
  v.walkWith false (fun _ _ _ => .error .linkLoop) loc [.down n]

/-- All directories that a spelling passes before it comes to its place can be entered. -/
def Reached (v : Volume) (cwd : Loc) (p : Standpoint) : Prop :=
  ∀ d ∈ p.way cwd, v.passable d = .ok ()

/-- Steps from a standpoint come upon the link at a place, be it that the link is their last one
or that it stands on the way through other links. Names at which there is nothing are taken as
they are spelled. -/
inductive Meets (v : Volume) (cwd : Loc) : Standpoint → List Step → Loc → Prop
  | stay {p steps l} : Meets v cwd p steps l → Meets v cwd p (.stay :: steps) l
  | up {p steps l} : Meets v cwd p.up steps l → Meets v cwd p (.up :: steps) l
  | down {p n steps l} : v.readLink cwd p n = none → Meets v cwd (p.down n) steps l →
      Meets v cwd p (.down n :: steps) l
  | link {p n steps target} : v.readLink cwd p n = some target →
      Meets v cwd p (.down n :: steps) (n :: p.loc cwd)
  | beyond {p n steps target l} : v.readLink cwd p n = some target →
      Meets v cwd (p.origin (Route.ofString target)) ((Route.ofString target).steps ++ steps) l →
      Meets v cwd p (.down n :: steps) l

/-- A spelling, read from a directory, comes upon the link at a place. -/
def Passes (v : Volume) (cwd : Loc) (path : String) (l : Loc) : Prop :=
  v.Meets cwd (Standpoint.here.origin (Route.ofString path)) (Route.ofString path).steps l

/-- Steps lead from a standpoint to another one, over so many links. Names at which there is nothing
are taken as they are spelled. -/
inductive Leads (v : Volume) (cwd : Loc) : Nat → Standpoint → List Step → Standpoint → Prop
  | done {p} : Leads v cwd 0 p [] p
  | stay {k p steps q} : Leads v cwd k p steps q → Leads v cwd k p (.stay :: steps) q
  | up {k p steps q} : Leads v cwd k p.up steps q → Leads v cwd k p (.up :: steps) q
  | down {k p n steps q} : v.readLink cwd p n = none → Leads v cwd k (p.down n) steps q →
      Leads v cwd k p (.down n :: steps) q
  | beyond {k p n steps target q} : v.readLink cwd p n = some target →
      Leads v cwd k (p.origin (Route.ofString target)) ((Route.ofString target).steps ++ steps) q →
      Leads v cwd (k + 1) p (.down n :: steps) q

variable {v : Volume} {follow : Bool} {cwd loc l : Loc} {n : Name} {e : Entry}
  {p q q' : Standpoint} {steps more : List Step} {path target : String} {budget j k k' : Nat}
  {spot : Spot}
  {expand : Loc → String → List Step → Except Errno Spot}

namespace Standpoint

@[simp] theorem loc_down : (p.down n).loc cwd = n :: p.loc cwd := rfl

@[simp] theorem loc_root : root.loc cwd = [] := rfl

@[simp] theorem loc_here : here.loc cwd = cwd := rfl

theorem down_inj {q : Standpoint} {m : Name} (same : p.down n = q.down m) : p = q ∧ n = m := by
  obtain ⟨climbed, below⟩ := p
  obtain ⟨climbed', below'⟩ := q
  cases same
  exact ⟨rfl, rfl⟩

theorem loc_up : p.up.loc cwd = (p.loc cwd).tail := by
  obtain ⟨climbed, below⟩ := p
  cases below with
  | cons n below => rfl
  | nil =>
    cases climbed with
    | none => rfl
    | some k =>
      change cwd.drop (k + 1) = (cwd.drop k).tail
      rw [List.tail_drop]

theorem loc_origin (r : Route) : (p.origin r).loc cwd = r.origin (p.loc cwd) := by
  unfold origin Route.origin
  split <;> rfl

end Standpoint

theorem reached_root : v.Reached cwd .root :=
  nofun

theorem reached_here : v.Reached cwd .here :=
  nofun

theorem Reached.origin (reached : v.Reached cwd p) (r : Route) : v.Reached cwd (p.origin r) := by
  unfold Standpoint.origin
  split
  · exact reached_root
  · exact reached

/-- Below a place that is reached and can be entered all names are reached. -/
theorem reached_down_iff :
    v.Reached cwd (p.down n) ↔ v.passable (p.loc cwd) = .ok () ∧ v.Reached cwd p :=
  List.forall_mem_cons

theorem Reached.up (reached : v.Reached cwd p) (pass : v.passable (p.loc cwd) = .ok ()) :
    v.Reached cwd p.up := by
  obtain ⟨climbed, below⟩ := p
  cases below with
  | cons n below => exact (reached_down_iff.mp reached).2
  | nil =>
    cases climbed with
    | none => exact reached
    | some k =>
      intro d among
      obtain ⟨j, less, rfl⟩ := List.mem_map.mp among
      obtain before | rfl := Nat.lt_succ_iff_lt_or_eq.mp (List.mem_range.mp less)
      · exact reached _ (List.mem_map_of_mem (List.mem_range.mpr before))
      · exact pass

theorem walkWith_of_blocked {step : Step} {x : Errno} (blocked : v.passable loc = .error x) :
    v.walkWith follow expand loc (step :: steps) = .error x := by
  cases step <;> rw [walkWith, blocked] <;> rfl

/-- A walk that goes well over a name ends there, goes on through a link, or goes on below. -/
theorem walkWith_down_eq_ok_iff :
    v.walkWith follow expand loc (.down n :: steps) = .ok spot ↔
      v.passable loc = .ok () ∧ n.octets ≤ nameLimit ∧
        (v.get? (n :: loc) = none ∧ steps = [] ∧ spot = .vacant loc n ∨
          (∃ target, v.get? (n :: loc) = some (.link target) ∧ (steps = [] ∧ follow = false) ∧
            spot = .there (n :: loc) (.link target)) ∨
          (∃ target, v.get? (n :: loc) = some (.link target) ∧ ¬ (steps = [] ∧ follow = false) ∧
            expand loc target steps = .ok spot) ∨
          ∃ e, v.get? (n :: loc) = some e ∧ (∀ target, e ≠ .link target) ∧
            v.walkWith follow expand (n :: loc) steps = .ok spot) := by
  cases pass : v.passable loc with
  | error x => simp [walkWith_of_blocked pass]
  | ok _ =>
    rw [walkWith_down pass]
    by_cases long : nameLimit < n.octets
    · rw [if_pos long]
      simp [Nat.not_le_of_lt long]
    rw [if_neg long]
    simp only [Nat.le_of_not_lt long, true_and]
    rcases v.get? (n :: loc) with _ | ⟨_ | _ | target | _ | _⟩
    · by_cases last : steps = [] <;> simp [last, eq_comm]
    · simp
    · simp
    · by_cases ends : steps = [] ∧ follow = false <;> simp [ends, eq_comm]
    · simp
    · simp

theorem spotIn_of_blocked {x : Errno} (blocked : v.passable loc = .error x) :
    v.spotIn loc n = .error x :=
  walkWith_of_blocked blocked

theorem spotIn_of_passable (pass : v.passable loc = .ok ()) :
    v.spotIn loc n =
      if nameLimit < n.octets then .error .nameTooLong
      else
        match v.get? (n :: loc) with
        | none => .ok (.vacant loc n)
        | some e => .ok (.there (n :: loc) e) := by
  rw [spotIn, walkWith_down pass]
  rcases below : v.get? (n :: loc) with _ | ⟨_ | _ | target | _ | _⟩ <;> simp [walkWith, below]

theorem isOk_passable : (v.passable loc).isOk = true ↔ v.passable loc = .ok () := by
  cases v.passable loc <;> simp [Except.isOk, Except.toBool]

/-- A name is followed as a link where it is one for those that come to it by its spelling. -/
theorem readLink_eq_some_iff :
    v.readLink cwd p n = some target ↔
      (v.Reached cwd p ∧ v.passable (p.loc cwd) = .ok ()) ∧ n.octets ≤ nameLimit ∧
        v.get? (n :: p.loc cwd) = some (.link target) := by
  have passed : (p.loc cwd :: p.way cwd).all (fun d => (v.passable d).isOk) = true ↔
      v.Reached cwd p ∧ v.passable (p.loc cwd) = .ok () := by
    rw [List.all_cons, Bool.and_eq_true, List.all_eq_true, isOk_passable, and_comm]
    exact and_congr_left fun _ => forall₂_congr fun _ _ => isOk_passable
  rw [← passed, ← and_assoc]
  unfold readLink
  by_cases read : (p.loc cwd :: p.way cwd).all (fun d => (v.passable d).isOk) = true ∧
      n.octets ≤ nameLimit
  · rw [if_pos read, and_iff_right read]
    rcases v.get? (n :: p.loc cwd) with _ | ⟨_ | _ | aim | _ | _⟩ <;> simp
  · rw [if_neg read]
    exact iff_of_false nofun fun found => read found.1

theorem readLink_eq_none (below : v.get? (n :: p.loc cwd) = some e)
    (plain : ∀ target, e ≠ .link target) : v.readLink cwd p n = none := by
  rw [Option.eq_none_iff_forall_ne_some]
  intro target link
  rw [(readLink_eq_some_iff.mp link).2.2] at below
  exact plain target (Option.some.inj below).symm

/-- What stands at a name for those that have come to the directory of it. -/
theorem readLink_of_link (reached : v.Reached cwd p) (pass : v.passable (p.loc cwd) = .ok ())
    (short : n.octets ≤ nameLimit) (below : v.get? (n :: p.loc cwd) = some (.link target)) :
    v.readLink cwd p n = some target :=
  readLink_eq_some_iff.mpr ⟨⟨reached, pass⟩, short, below⟩

theorem Meets.exists_link (meets : v.Meets cwd p steps l) :
    ∃ target, v.get? l = some (.link target) := by
  induction meets with
  | link link => exact ⟨_, (readLink_eq_some_iff.mp link).2.2⟩
  | stay _ ih => exact ih
  | up _ ih => exact ih
  | down _ _ ih => exact ih
  | beyond _ _ ih => exact ih

theorem Meets.append (meets : v.Meets cwd p steps l) : v.Meets cwd p (steps ++ more) l := by
  induction meets with
  | stay _ ih => exact .stay ih
  | up _ ih => exact .up ih
  | down free _ ih => exact .down free ih
  | link link => exact .link link
  | beyond link _ ih =>
    rw [List.append_assoc] at ih
    exact .beyond link ih

theorem Leads.unique (leads : v.Leads cwd k p steps q) (other : v.Leads cwd k' p steps q') :
    k = k' ∧ q = q' := by
  induction leads generalizing k' with
  | done =>
    cases other
    exact ⟨rfl, rfl⟩
  | stay _ ih =>
    cases other with
    | stay other => exact ih other
  | up _ ih =>
    cases other with
    | up other => exact ih other
  | down free _ ih =>
    cases other with
    | down _ other => exact ih other
    | beyond link => rw [free] at link; cases link
  | beyond link _ ih =>
    cases other with
    | down free => rw [free] at link; cases link
    | beyond link' other =>
      cases link.symm.trans link'
      obtain ⟨rfl, same⟩ := ih other
      exact ⟨rfl, same⟩

/-- Steps lead from one standpoint to another by way of where the first of them lead. -/
theorem Leads.append (leads : v.Leads cwd k p steps q) (further : v.Leads cwd j q more q') :
    v.Leads cwd (k + j) p (steps ++ more) q' := by
  induction leads with
  | done => rwa [Nat.zero_add]
  | stay _ ih => exact .stay (ih further)
  | up _ ih => exact .up (ih further)
  | down free _ ih => exact .down free (ih further)
  | beyond link _ ih =>
    have onward := ih further
    rw [List.append_assoc] at onward
    rw [Nat.add_right_comm]
    exact .beyond link onward

theorem Leads.exists_of_append (leads : v.Leads cwd k p (steps ++ more) q) :
    ∃ a b m, k = a + b ∧ v.Leads cwd a p steps m ∧ v.Leads cwd b m more q := by
  generalize whole : steps ++ more = all at leads
  induction leads generalizing steps with
  | done =>
    obtain ⟨rfl, rfl⟩ := List.append_eq_nil_iff.mp whole
    exact ⟨0, 0, _, rfl, .done, .done⟩
  | stay onward ih =>
    cases steps with
    | nil => cases whole; exact ⟨0, _, _, (Nat.zero_add _).symm, .done, .stay onward⟩
    | cons s steps =>
      obtain ⟨rfl, rfl⟩ := List.cons.inj whole
      obtain ⟨a, b, m, rfl, first, second⟩ := ih rfl
      exact ⟨a, b, m, rfl, .stay first, second⟩
  | up onward ih =>
    cases steps with
    | nil => cases whole; exact ⟨0, _, _, (Nat.zero_add _).symm, .done, .up onward⟩
    | cons s steps =>
      obtain ⟨rfl, rfl⟩ := List.cons.inj whole
      obtain ⟨a, b, m, rfl, first, second⟩ := ih rfl
      exact ⟨a, b, m, rfl, .up first, second⟩
  | down free onward ih =>
    cases steps with
    | nil => cases whole; exact ⟨0, _, _, (Nat.zero_add _).symm, .done, .down free onward⟩
    | cons s steps =>
      obtain ⟨rfl, rfl⟩ := List.cons.inj whole
      obtain ⟨a, b, m, rfl, first, second⟩ := ih rfl
      exact ⟨a, b, m, rfl, .down free first, second⟩
  | beyond link onward ih =>
    cases steps with
    | nil => cases whole; exact ⟨0, _, _, (Nat.zero_add _).symm, .done, .beyond link onward⟩
    | cons s steps =>
      obtain ⟨rfl, rfl⟩ := List.cons.inj whole
      obtain ⟨a, b, m, rfl, first, second⟩ := ih (List.append_assoc _ _ _)
      exact ⟨a + 1, b, m, Nat.add_right_comm a b 1, .beyond link first, second⟩

/-- A link leads where the steps behind it lead from its target, over one link more. -/
theorem Leads.exists_of_link (leads : v.Leads cwd k p (.down n :: steps) q)
    (link : v.readLink cwd p n = some target) :
    ∃ a b m, k = a + 1 + b ∧
      v.Leads cwd a (p.origin (Route.ofString target)) (Route.ofString target).steps m ∧
      v.Leads cwd b m steps q := by
  cases leads with
  | down free => rw [free] at link; cases link
  | beyond link' onward =>
    cases link.symm.trans link'
    obtain ⟨a, b, m, rfl, within, further⟩ := onward.exists_of_append
    exact ⟨a, b, m, Nat.add_right_comm a b 1, within, further⟩

/-- Whatever is met by going on from where steps lead is met by going on behind them. -/
theorem Leads.meets (leads : v.Leads cwd k p steps q) (meets : v.Meets cwd q more l) :
    v.Meets cwd p (steps ++ more) l := by
  induction leads with
  | done => exact meets
  | stay _ ih => exact .stay (ih meets)
  | up _ ih => exact .up (ih meets)
  | down free _ ih => exact .down free (ih meets)
  | beyond link _ ih =>
    have onward := ih meets
    rw [List.append_assoc] at onward
    exact .beyond link onward

/-- What is met behind steps that lead somewhere is met on their way or by going on from there. -/
theorem Leads.meets_or (leads : v.Leads cwd k p steps q) (meets : v.Meets cwd p (steps ++ more) l) :
    v.Meets cwd p steps l ∨ v.Meets cwd q more l := by
  induction leads with
  | done => exact .inr meets
  | stay _ ih =>
    cases meets with
    | stay meets => exact (ih meets).imp_left .stay
  | up _ ih =>
    cases meets with
    | up meets => exact (ih meets).imp_left .up
  | down free _ ih =>
    cases meets with
    | down _ meets => exact (ih meets).imp_left (.down free)
    | link link => rw [free] at link; cases link
    | beyond link => rw [free] at link; cases link
  | beyond link _ ih =>
    rw [List.append_assoc] at ih
    cases meets with
    | down free => rw [free] at link; cases link
    | link link => exact .inl (.link link)
    | beyond link' meets =>
      cases link.symm.trans link'
      exact (ih meets).imp_left (.beyond link)

theorem get?_of_walkWith
    (expands : ∀ loc target rest, expand loc target rest = .ok (.there l e) → v.get? l = some e)
    (walked : v.walkWith follow expand loc steps = .ok (.there l e)) : v.get? l = some e := by
  induction steps generalizing loc with
  | nil =>
    rw [walkWith] at walked
    cases here : v.get? loc with
    | none => rw [here] at walked; cases walked
    | some e' =>
      rw [here] at walked
      cases walked
      exact here
  | cons step rest ih =>
    have pass := passable_of_walkWith walked
    cases step with
    | stay => exact ih ((walkWith_stay pass).symm.trans walked)
    | up => exact ih ((walkWith_up pass).symm.trans walked)
    | down n =>
      obtain ⟨-, -, ⟨-, -, free⟩ | ⟨target, below, -, there⟩ | ⟨target, -, -, walked⟩ |
        ⟨e', -, -, walked⟩⟩ := walkWith_down_eq_ok_iff.mp walked
      · cases free
      · cases there
        exact below
      · exact expands loc target rest walked
      · exact ih walked

theorem get?_of_walk (walked : v.walk follow budget loc steps = .ok (.there l e)) :
    v.get? l = some e := by
  induction budget generalizing loc steps with
  | zero =>
    rw [walk] at walked
    exact get?_of_walkWith (fun _ _ _ none => by cases none) walked
  | succ budget ih =>
    rw [walk] at walked
    exact get?_of_walkWith (fun _ _ _ further => ih further) walked

theorem locate_eq_ok_iff :
    v.locate cwd follow path = .ok spot ↔
      path ≠ "" ∧ Text.octets path.toList ≤ pathLimit ∧
        v.walk follow linkBudget ((Route.ofString path).origin cwd) (Route.ofString path).steps =
          .ok spot := by
  unfold locate
  by_cases empty : path = ""
  · simp [empty]
  rw [if_neg empty, and_iff_right empty]
  by_cases long : pathLimit < Text.octets path.toList
  · simp [long, Nat.not_le_of_lt long]
  · rw [if_neg long, and_iff_right (Nat.le_of_not_lt long)]

/-- What a spelling leads to stands there. -/
theorem get?_of_locate (located : v.locate cwd follow path = .ok (.there l e)) :
    v.get? l = some e :=
  get?_of_walk (locate_eq_ok_iff.mp located).2.2

end TexBuild.Volume
