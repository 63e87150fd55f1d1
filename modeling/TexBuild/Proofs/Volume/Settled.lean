import TexBuild.Proofs.Volume.Canonical

namespace TexBuild.Volume

/-- The spelling of a place from the root. -/
def Standpoint.ofLoc (loc : Loc) : Standpoint :=
  ⟨none, loc⟩

/-- A place is spelled with names that the system reads as such, and no link stands there or above. -/
def Settled (v : Volume) : Loc → Prop
  | [] => True
  | n :: loc =>
    (n ≠ Name.up ∧ Text.isFit n.chars = true ∧ v.readLink [] (.ofLoc loc) n = none) ∧ Settled v loc

/-- The links of a volume have targets that the system can read. -/
def FitLinks (v : Volume) : Prop :=
  ∀ loc target, v.get? loc = some (.link target) → Text.isFit target.toList = true

/-- Steps go down to names that the system reads as such. -/
def Named (steps : List Step) : Prop :=
  ∀ n, .down n ∈ steps → n ≠ Name.up ∧ Text.isFit n.chars = true

/-- All directories from the root down to a place can be entered. -/
def Entered (v : Volume) (loc : Loc) : Prop :=
  ∀ d, d <:+ loc → v.passable d = .ok ()

/-- A path leads from a directory to a place, over so many links. -/
def Arrives (v : Volume) (cwd : Loc) (k : Nat) (place : Path) (l : Loc) : Prop :=
  ∃ q, v.Leads cwd k (if place.IsAbsolute then .root else .here) place.steps q ∧ q.loc cwd = l

variable {v : Volume} {k room : Nat} {cwd loc base below d l : Loc} {n : Name} {e : Entry}
  {steps more : List Step} {o p q : Standpoint} {place place' : Path} {target : String}

namespace Standpoint

@[simp] theorem loc_ofLoc : (ofLoc loc).loc cwd = loc :=
  List.append_nil loc

theorem ofLoc_up (loc : Loc) : (ofLoc loc).up = ofLoc loc.tail := by
  cases loc <;> rfl

theorem ofLoc_origin (loc : Loc) (r : Route) : (ofLoc loc).origin r = ofLoc (r.origin loc) := by
  unfold origin Route.origin
  split <;> rfl

theorem descent_append :
    descent base (below ++ loc) = descent (loc ++ base) below ++ descent base loc := by
  induction below with
  | nil => rfl
  | cons n below ih =>
    rw [List.cons_append, descent, descent, ih, List.append_assoc, List.cons_append]

theorem suffix_of_mem_descent (among : d ∈ descent base below) : d <:+ below ++ base := by
  induction below with
  | nil => cases among
  | cons n below ih =>
    refine List.IsSuffix.trans ?_ (List.suffix_cons n (below ++ base))
    obtain rfl | among := List.mem_cons.mp among
    · exact List.suffix_rfl
    · exact ih among

theorem base_suffix : p.base cwd <:+ cwd := by
  unfold Standpoint.base
  split
  · exact List.drop_suffix _ _
  · exact List.nil_suffix

end Standpoint

/-- Where the directories down to the one at hand can be entered, it makes no difference for what is
reached whether it is spelled from there or from the root. -/
theorem Entered.reached_ofLoc_iff (entered : v.Entered cwd) :
    v.Reached cwd (.ofLoc (p.loc cwd)) ↔ v.Reached cwd p := by
  have above : ∀ d ∈ Standpoint.descent [] (p.base cwd), v.passable d = .ok () := fun d among => by
    have inside := Standpoint.suffix_of_mem_descent among
    rw [List.append_nil] at inside
    exact entered d (inside.trans Standpoint.base_suffix)
  have way : (Standpoint.ofLoc (p.loc cwd)).way cwd =
      Standpoint.descent (p.base cwd) p.below ++ Standpoint.descent [] (p.base cwd) := by
    have whole : Standpoint.descent [] (p.below ++ p.base cwd) = _ := Standpoint.descent_append
    rw [List.append_nil] at whole
    rw [← whole]
    exact List.append_nil _
  unfold Reached Standpoint.way at *
  rw [way]
  simp only [List.forall_mem_append, and_iff_left above]
  refine (and_iff_left fun d among => ?_).symm
  cases climbed : p.climbed with
  | none => rw [climbed] at among; cases among
  | some k =>
    rw [climbed] at among
    obtain ⟨j, -, rfl⟩ := List.mem_map.mp among
    exact entered _ (List.drop_suffix _ _)

theorem Entered.readLink_ofLoc (entered : v.Entered cwd) :
    v.readLink cwd (.ofLoc (p.loc cwd)) n = v.readLink cwd p n := by
  refine Option.ext fun target => ?_
  rw [readLink_eq_some_iff, readLink_eq_some_iff, entered.reached_ofLoc_iff, Standpoint.loc_ofLoc]

theorem fitLinks_of_entries
    (fit : ∀ loc target, (loc, .link target) ∈ v.entries → Text.isFit target.toList = true) :
    v.FitLinks := by
  intro loc target there
  cases loc with
  | nil => cases there
  | cons n loc =>
    obtain ⟨before, after, parts, -⟩ := List.lookup_eq_some_iff.mp there
    exact fit (n :: loc) target (by rw [parts]; simp)

theorem Settled.tail (settled : v.Settled loc) : v.Settled loc.tail := by
  cases loc with
  | nil => trivial
  | cons n loc => exact settled.2

theorem Settled.origin (settled : v.Settled loc) (r : Route) : v.Settled (r.origin loc) := by
  unfold Route.origin
  split
  · trivial
  · exact settled

theorem Named.tail {s : Step} (named : Named (s :: steps)) : Named steps :=
  fun n among => named n (.tail _ among)

theorem Named.append (named : Named steps) (later : Named more) : Named (steps ++ more) :=
  fun n among => (List.mem_append.mp among).elim (named n) (later n)

theorem named_steps (clean : isClean place = true) : Named place.steps := by
  intro n among
  obtain ⟨m, inside, same⟩ := List.mem_map.mp among
  unfold Step.ofName at same
  split at same
  · cases same
  · next other =>
    cases same
    exact ⟨other, isClean_iff_names.mp clean n inside⟩

theorem named_ofString (fit : Text.isFit target.toList = true) :
    Named (Route.ofString target).steps := by
  intro n among
  obtain ⟨piece, other⟩ := chars_of_mem_steps among
  exact ⟨other, Text.isFit_of_subset fit fun c => Text.mem_of_mem_piece piece⟩

/-- Whoever begins at a settled place arrives at one: each name that is gone down to is no link. -/
theorem Leads.settled (fit : v.FitLinks) (entered : v.Entered cwd) (named : Named steps)
    (settled : v.Settled (p.loc cwd)) (leads : v.Leads cwd k p steps q) : v.Settled (q.loc cwd) := by
  induction leads with
  | done => exact settled
  | stay _ ih => exact ih named.tail settled
  | up _ ih =>
    rw [Standpoint.loc_up] at ih
    exact ih named.tail settled.tail
  | down free _ ih =>
    obtain ⟨down, clean⟩ := named _ (.head _)
    rw [← entered.readLink_ofLoc] at free
    exact ih named.tail ⟨⟨down, clean, free⟩, settled⟩
  | beyond link _ ih =>
    have target := fit _ _ (readLink_eq_some_iff.mp link).2.2
    rw [Standpoint.loc_origin] at ih
    exact ih ((named_ofString target).append named.tail) (settled.origin _)

/-- Steps lead on from a place alike if it is spelled from the root. -/
theorem Leads.fromRoot (entered : v.Entered cwd) (leads : v.Leads cwd k p steps q) :
    v.Leads cwd k (.ofLoc (p.loc cwd)) steps (.ofLoc (q.loc cwd)) := by
  induction leads with
  | done => exact .done
  | stay _ ih => exact .stay ih
  | up _ ih =>
    rw [Standpoint.loc_up, ← Standpoint.ofLoc_up] at ih
    exact .up ih
  | down free _ ih => exact .down (entered.readLink_ofLoc.trans free) ih
  | beyond link _ ih =>
    rw [Standpoint.loc_origin, ← Standpoint.ofLoc_origin] at ih
    exact .beyond (entered.readLink_ofLoc.trans link) ih

/-- Steps come upon the same links from a place if it is spelled from the root. -/
theorem Meets.fromRoot (entered : v.Entered cwd) (meets : v.Meets cwd p steps l) :
    v.Meets cwd (.ofLoc (p.loc cwd)) steps l := by
  induction meets with
  | stay _ ih => exact .stay ih
  | up _ ih =>
    rw [Standpoint.loc_up, ← Standpoint.ofLoc_up] at ih
    exact .up ih
  | down free _ ih => exact .down (entered.readLink_ofLoc.trans free) ih
  | @link p n steps _ link =>
    have here : v.Meets cwd (.ofLoc (p.loc cwd)) (.down n :: steps) _ :=
      .link (entered.readLink_ofLoc.trans link)
    rwa [Standpoint.loc_ofLoc] at here
  | beyond link _ ih =>
    rw [Standpoint.loc_origin, ← Standpoint.ofLoc_origin] at ih
    exact .beyond (entered.readLink_ofLoc.trans link) ih

/-- The names of a settled place lead there from the root. -/
theorem Settled.leads (settled : v.Settled loc) (leads : v.Leads cwd k (.ofLoc loc) steps q) :
    v.Leads cwd k .root (loc.reverse.map .down ++ steps) q := by
  induction loc generalizing steps with
  | nil => exact leads
  | cons n loc ih =>
    rw [List.reverse_cons, List.map_append, List.append_assoc]
    exact ih settled.2 (.down settled.1.2.2 leads)

theorem Settled.steps_spell (settled : v.Settled loc) : (spell loc).steps = loc.reverse.map .down := by
  refine List.map_congr_left fun n among => Step.ofName_of_ne ?_
  have inside : n ∈ loc := List.mem_reverse.mp among
  induction loc with
  | nil => cases inside
  | cons d loc ih =>
    obtain rfl | later := List.mem_cons.mp inside
    · exact settled.1.1
    · exact ih settled.2 (List.mem_reverse.mpr later) later

theorem Settled.isClean_spell (settled : v.Settled loc) : isClean (spell loc) = true := by
  rw [isClean_iff_names]
  intro n among
  have inside : n ∈ loc := List.mem_reverse.mp among
  clear among
  induction loc with
  | nil => cases inside
  | cons d loc ih =>
    obtain rfl | later := List.mem_cons.mp inside
    · exact settled.1.2.1
    · exact ih settled.2 later

theorem leads_route_iff : v.Leads cwd k p place.route q ↔ v.Leads cwd k p place.steps q := by
  unfold Path.route
  by_cases none : place.names = []
  · have ends : place.steps = [] := by rw [Path.steps, none, List.map_nil]
    rw [if_pos none, ends]
    refine ⟨fun leads => ?_, .stay⟩
    cases leads with
    | stay onward => exact onward
  · rw [if_neg none]

theorem arrives_iff :
    v.Arrives cwd k place l ↔
      ∃ q, v.Leads cwd k (Standpoint.here.origin (Route.ofString place.text))
        (Route.ofString place.text).steps q ∧ q.loc cwd = l := by
  rw [Path.ofString_text]
  simp only [leads_route_iff, Standpoint.origin, decide_eq_true_eq]
  exact Iff.rfl

/-- A path that leads to something leads somewhere. -/
theorem arrives_of_find (found : v.find cwd place.text = .ok (l, e)) :
    ∃ k ≤ linkBudget, v.Arrives cwd k place l := by
  obtain ⟨k, q, less, leads, ends⟩ := exists_leads_of_find found
  exact ⟨k, less, arrives_iff.mpr ⟨q, leads, ends⟩⟩

/-- A path that leads somewhere is resolved only if the system takes all its names. -/
theorem Arrives.clean (arrives : v.Arrives cwd k place l)
    (resolved : v.target cwd room place = .ok place') : isClean place = true := by
  refine Decidable.byContradiction fun dirty => ?_
  obtain ⟨q, leads, -⟩ := arrives
  have whole := join_unfitPart place
  rw [← whole, (Path.steps_join rfl).1] at leads
  obtain ⟨a, b, m, rfl, first, -⟩ := leads.exists_of_append
  have before : v.Arrives cwd a (fitPart place) (m.loc cwd) := ⟨m, first, rfl⟩
  obtain ⟨m, first, -⟩ := arrives_iff.mp before
  obtain ⟨n, left, unfit⟩ := List.exists_cons_of_ne_nil (mt unfitPart_eq_nil_iff.mp dirty)
  unfold target at resolved
  rw [unfit] at resolved
  obtain done | ⟨-, deep⟩ := followPath_of_leads first room
  · rw [done] at resolved
    cases resolved
  · rw [deep] at resolved
    cases resolved

/-- A path that leads somewhere is resolved by following it to there. -/
theorem Arrives.followed (arrives : v.Arrives cwd k place l)
    (resolved : v.target cwd room place = .ok place') :
    place' = spell l ∧ ∃ q, v.Leads cwd k (Standpoint.here.origin (Route.ofString place.text))
      (Route.ofString place.text).steps q ∧ q.loc cwd = l ∧ v.followPath cwd room place = .ok q := by
  have clean := arrives.clean resolved
  obtain ⟨q, leads, rfl⟩ := arrives_iff.mp arrives
  obtain done | ⟨-, deep⟩ := followPath_of_leads leads room
  · rw [target_of_followPath clean done] at resolved
    cases resolved
    exact ⟨rfl, q, leads, rfl, done⟩
  · unfold target at resolved
    rw [fitPart_of_isClean clean, deep] at resolved
    cases resolved

theorem Arrives.settled (arrives : v.Arrives cwd k place l) (fit : v.FitLinks)
    (entered : v.Entered cwd) (clean : isClean place = true) (settled : v.Settled cwd) :
    v.Settled l := by
  obtain ⟨q, leads, rfl⟩ := arrives
  refine leads.settled fit entered (named_steps clean) ?_
  split
  · trivial
  · exact settled

/-- The spelling of a settled place leads there. -/
theorem Settled.arrives (settled : v.Settled l) (cwd : Loc) : v.Arrives cwd 0 (spell l) l := by
  have leads : v.Leads cwd 0 .root _ (.ofLoc l) := settled.leads .done
  rw [List.append_nil, ← settled.steps_spell] at leads
  exact ⟨.ofLoc l, by rwa [if_pos (isAbsolute_spell l)], Standpoint.loc_ofLoc⟩

/-- The spelling of a settled place is resolved to itself. -/
theorem Settled.target_spell (settled : v.Settled l) (cwd : Loc) (room : Nat) :
    v.target cwd room (spell l) = .ok (spell l) := by
  obtain ⟨q, leads, ends⟩ := arrives_iff.mp (settled.arrives cwd)
  obtain done | ⟨full, -⟩ := followPath_of_leads leads room
  · rw [target_of_followPath settled.isClean_spell done, ends]
  · exact absurd full (Nat.not_lt_zero _)

end TexBuild.Volume
