import TexBuild.Proofs.Volume.Copy
import TexBuild.Proofs.Volume.Way

namespace TexBuild.Volume

/-- Something stands at a place, and nothing can stand below it. -/
def IsLeaf (v : Volume) (loc : Loc) : Prop :=
  ∃ e, v.get? loc = some e ∧ ∀ mode, e ≠ .directory mode

/-- What becomes of the outcome of a walk when the entry at a place, no link on its way, is
gone: the outcome is the same, or it was the entry or a refusal to go on below it. -/
inductive Without (spare : Loc) : Except Errno Spot → Except Errno Spot → Prop
  | same {r} : (∀ e, r ≠ .ok (.there spare e)) → Without spare r r
  | blocked : Without spare (.error .notDirectory) (.error .noEntry)
  | gone {e} : Without spare (.ok (.there spare e)) (.error .noEntry)
  | vacated {e directory name} :
      Without spare (.ok (.there spare e)) (.ok (.vacant directory name))

variable {v : Volume} {follow : Bool} {cwd loc spare l : Loc} {n : Name} {e : Entry}
  {steps : List Step} {path target : String} {budget : Nat} {p : Standpoint}
  {expand expand' : Loc → String → List Step → Except Errno Spot}

theorem Without.error (x : Errno) : Without spare (.error x) (.error x) :=
  .same fun e same => by cases same

theorem Without.vacant (directory : Loc) (name : Name) :
    Without spare (.ok (.vacant directory name)) (.ok (.vacant directory name)) :=
  .same fun e same => by cases same

theorem erase_of_get?_eq_none (free : v.get? loc = none) : v.erase loc = v := by
  have kept : eraseKey loc v.entries = v.entries := by
    refine List.filter_eq_self.mpr fun e among => ?_
    cases loc with
    | nil => cases free
    | cons n rest =>
      have other := List.lookup_eq_none_iff.mp free e among
      simpa [bne_comm] using other
  unfold erase
  rw [kept]

theorem IsLeaf.ne_nil (leaf : v.IsLeaf spare) : spare ≠ [] := by
  rintro rfl
  obtain ⟨e, there, plain⟩ := leaf
  cases there
  exact plain _ rfl

theorem IsLeaf.get?_erase (leaf : v.IsLeaf spare) : (v.erase spare).get? spare = none :=
  get?_erase_self v leaf.ne_nil

/-- Nothing lies below a leaf. -/
theorem IsLeaf.passable (leaf : v.IsLeaf spare) : v.passable spare = .error .notDirectory := by
  obtain ⟨e, there, plain⟩ := leaf
  unfold Volume.passable
  rw [there]
  cases e with
  | directory mode => exact absurd rfl (plain mode)
  | _ => rfl

theorem IsLeaf.passable_erase (leaf : v.IsLeaf spare) :
    (v.erase spare).passable spare = .error .noEntry := by
  unfold Volume.passable
  rw [leaf.get?_erase]

theorem passable_erase_of_ne (apart : loc ≠ spare) :
    (v.erase spare).passable loc = v.passable loc := by
  unfold passable
  rw [get?_erase_of_ne v apart]

/-- What stands somewhere when a leaf is gone stood there before. -/
theorem get?_of_get?_erase (leaf : v.IsLeaf spare) (there : (v.erase spare).get? loc = some e) :
    loc ≠ spare ∧ v.get? loc = some e := by
  have apart : loc ≠ spare := by
    rintro rfl
    rw [leaf.get?_erase] at there
    cases there
  exact ⟨apart, by rwa [get?_erase_of_ne v apart] at there⟩

theorem IsLeaf.passable_erase_iff (leaf : v.IsLeaf spare) :
    (v.erase spare).passable loc = .ok () ↔ v.passable loc = .ok () := by
  by_cases here : loc = spare
  · rw [here, leaf.passable, leaf.passable_erase]
    exact iff_of_false nofun nofun
  · rw [passable_erase_of_ne here]

theorem IsLeaf.reached_erase_iff (leaf : v.IsLeaf spare) :
    (v.erase spare).Reached cwd p ↔ v.Reached cwd p :=
  forall₂_congr fun _ _ => leaf.passable_erase_iff

/-- The links are the same when an entry is gone that is none of them. -/
theorem readLink_erase (leaf : v.IsLeaf spare)
    (apart : n :: p.loc cwd = spare → v.readLink cwd p n = none) :
    (v.erase spare).readLink cwd p n = v.readLink cwd p n := by
  refine Option.ext fun target => ?_
  by_cases last : n :: p.loc cwd = spare
  · rw [apart last, readLink_eq_some_iff, last, leaf.get?_erase]
    simp
  · rw [readLink_eq_some_iff, readLink_eq_some_iff, get?_erase_of_ne v last,
      leaf.reached_erase_iff, leaf.passable_erase_iff]

theorem walkWith_leaf (leaf : v.IsLeaf spare) :
    Without spare (v.walkWith follow expand spare steps)
      (if steps = [] then .ok (.vacant loc n) else .error .noEntry) := by
  cases steps with
  | nil =>
    obtain ⟨e, there, -⟩ := leaf
    rw [walkWith, there, if_pos rfl]
    exact .vacated
  | cons step rest =>
    rw [walkWith_of_blocked leaf.passable, if_neg (List.cons_ne_nil _ _)]
    exact .blocked

/-- A step down misses the entry that is gone only where it ends there or would go on below it. -/
theorem walkWith_down_erase (leaf : v.IsLeaf spare) (reached : v.Reached cwd p)
    (pass : v.passable (p.loc cwd) = .ok ()) (pass' : (v.erase spare).passable (p.loc cwd) = .ok ())
    (expands : ∀ target, v.readLink cwd p n = some target →
      Without spare (expand (p.loc cwd) target steps) (expand' (p.loc cwd) target steps))
    (onward : v.readLink cwd p n = none →
      Without spare (v.walkWith follow expand (n :: p.loc cwd) steps)
        ((v.erase spare).walkWith follow expand' (n :: p.loc cwd) steps))
    (apart : ∀ target, v.readLink cwd p n = some target → n :: p.loc cwd ≠ spare) :
    Without spare (v.walkWith follow expand (p.loc cwd) (.down n :: steps))
      ((v.erase spare).walkWith follow expand' (p.loc cwd) (.down n :: steps)) := by
  rw [walkWith_down pass, walkWith_down pass']
  by_cases long : nameLimit < n.octets
  · rw [if_pos long, if_pos long]
    exact .error _
  rw [if_neg long, if_neg long]
  have linked {target : String} (below : v.get? (n :: p.loc cwd) = some (.link target)) :
      v.readLink cwd p n = some target :=
    readLink_of_link reached pass (Nat.le_of_not_lt long) below
  by_cases last : n :: p.loc cwd = spare
  · obtain ⟨e, there, plain⟩ := id leaf
    have taken : v.get? (n :: p.loc cwd) = some e := last ▸ there
    rw [taken, last, leaf.get?_erase]
    cases e with
    | link target => exact (apart target (linked taken) last).elim
    | _ => exact walkWith_leaf leaf
  rw [get?_erase_of_ne v last]
  cases below : v.get? (n :: p.loc cwd) with
  | none =>
    dsimp only
    by_cases ends : steps = []
    · rw [if_pos ends]
      exact .vacant _ n
    · rw [if_neg ends]
      exact .error _
  | some e =>
    cases e with
    | link target =>
      dsimp only
      by_cases ends : steps = [] ∧ follow = false
      · rw [if_pos ends, if_pos ends]
        exact .same fun e same => last (by cases same; rfl)
      · rw [if_neg ends, if_neg ends]
        exact expands target (linked below)
    | _ => exact onward (readLink_eq_none below nofun)

/-- A walk that comes upon no link at a place misses what stood there only at its end or on its way. -/
theorem walkWith_erase (leaf : v.IsLeaf spare)
    (expands : ∀ p target rest, v.Reached cwd p →
      ¬ v.Meets cwd (p.origin (Route.ofString target)) ((Route.ofString target).steps ++ rest) spare →
        Without spare (expand (p.loc cwd) target rest) (expand' (p.loc cwd) target rest))
    (reached : v.Reached cwd p) (apart : ¬ v.Meets cwd p steps spare) :
    Without spare (v.walkWith follow expand (p.loc cwd) steps)
      ((v.erase spare).walkWith follow expand' (p.loc cwd) steps) := by
  induction steps generalizing p with
  | nil =>
    rw [walkWith, walkWith]
    by_cases here : p.loc cwd = spare
    · obtain ⟨e, there, -⟩ := id leaf
      rw [here, there, leaf.get?_erase]
      exact .gone
    · rw [get?_erase_of_ne v here]
      cases v.get? (p.loc cwd) with
      | none => exact .error _
      | some e => exact .same fun e same => here (by cases same; rfl)
  | cons step rest ih =>
    by_cases here : p.loc cwd = spare
    · rw [here, walkWith_of_blocked leaf.passable, walkWith_of_blocked leaf.passable_erase]
      exact .blocked
    have same := passable_erase_of_ne (v := v) here
    cases pass : v.passable (p.loc cwd) with
    | error x =>
      rw [walkWith_of_blocked pass, walkWith_of_blocked (same.trans pass)]
      exact .error _
    | ok _ =>
    rw [pass] at same
    cases step with
    | down n =>
      exact walkWith_down_erase leaf reached pass same
        (fun target link => expands p target rest reached fun meets => apart (.beyond link meets))
        (fun free => ih (p := p.down n) (reached_down_iff.mpr ⟨pass, reached⟩)
          fun meets => apart (.down free meets))
        (fun target link last => apart (last ▸ .link link))
    | stay =>
      rw [walkWith_stay pass, walkWith_stay same]
      exact ih reached fun meets => apart (.stay meets)
    | up =>
      rw [walkWith_up pass, walkWith_up same, ← Standpoint.loc_up]
      exact ih (reached.up pass) fun meets => apart (.up meets)

theorem walk_erase (leaf : v.IsLeaf spare) (reached : v.Reached cwd p)
    (apart : ¬ v.Meets cwd p steps spare) :
    Without spare (v.walk follow budget (p.loc cwd) steps)
      ((v.erase spare).walk follow budget (p.loc cwd) steps) := by
  induction budget generalizing p steps with
  | zero =>
    rw [walk, walk]
    exact walkWith_erase leaf (fun _ _ _ _ _ => .error _) reached apart
  | succ budget ih =>
    rw [walk, walk]
    refine walkWith_erase leaf (fun p target rest reached further => ?_) reached apart
    have onward := ih (reached.origin _) further
    rwa [Standpoint.loc_origin] at onward

/-- An entry that no link leads over is missed only by those who look for it or below it. -/
theorem locate_erase (leaf : v.IsLeaf spare) (apart : ¬ v.Passes cwd path spare) :
    Without spare (v.locate cwd follow path) ((v.erase spare).locate cwd follow path) := by
  unfold locate
  by_cases empty : path = ""
  · rw [if_pos empty, if_pos empty]
    exact .error _
  rw [if_neg empty, if_neg empty]
  by_cases long : pathLimit < Text.octets path.toList
  · rw [if_pos long, if_pos long]
    exact .error _
  rw [if_neg long, if_neg long]
  have walked : Without spare (v.walk follow linkBudget _ _) _ :=
    walk_erase leaf (reached_here.origin _) apart
  rwa [Standpoint.loc_origin] at walked

theorem find_erase (leaf : v.IsLeaf spare) (apart : ¬ v.Passes cwd path spare) :
    (v.erase spare).find cwd path = v.find cwd path ∧ (∀ e, v.find cwd path ≠ .ok (spare, e)) ∨
      (v.erase spare).find cwd path = .error .noEntry ∧
        (v.find cwd path = .error .notDirectory ∨ ∃ e, v.find cwd path = .ok (spare, e)) := by
  have lost : Without spare (v.locate cwd true path) ((v.erase spare).locate cwd true path) :=
    locate_erase leaf apart
  unfold find
  generalize v.locate cwd true path = r, (v.erase spare).locate cwd true path = r' at lost
  cases lost with
  | same other =>
    refine .inl ⟨rfl, fun e found => ?_⟩
    obtain x | ⟨l, e'⟩ | ⟨directory, name⟩ := r
    · cases found
    · cases found
      exact other e rfl
    · cases found
  | blocked => exact .inr ⟨rfl, .inl rfl⟩
  | gone => exact .inr ⟨rfl, .inr ⟨_, rfl⟩⟩
  | vacated => exact .inr ⟨rfl, .inr ⟨_, rfl⟩⟩

theorem find_erase_of_ne (leaf : v.IsLeaf spare) (apart : ¬ v.Passes cwd path spare)
    (found : v.find cwd path = .ok (l, e)) (other : l ≠ spare) :
    (v.erase spare).find cwd path = .ok (l, e) := by
  obtain ⟨same, -⟩ | ⟨-, blocked | ⟨e', gone⟩⟩ := find_erase leaf apart
  · rw [same, found]
  · rw [found] at blocked
    cases blocked
  · rw [found] at gone
    cases gone
    exact absurd rfl other

/-- A walk that ends well without an entry ends alike with it, elsewhere, and comes upon no link
there. -/
theorem walkWith_of_erase (leaf : v.IsLeaf spare)
    (expands : ∀ p target rest, v.Reached cwd p →
      expand' (p.loc cwd) target rest = .ok (.there l e) →
        expand (p.loc cwd) target rest = .ok (.there l e) ∧ l ≠ spare ∧
          ¬ v.Meets cwd (p.origin (Route.ofString target)) ((Route.ofString target).steps ++ rest) spare)
    (reached : v.Reached cwd p)
    (walked : (v.erase spare).walkWith true expand' (p.loc cwd) steps = .ok (.there l e)) :
    v.walkWith true expand (p.loc cwd) steps = .ok (.there l e) ∧ l ≠ spare ∧
      ¬ v.Meets cwd p steps spare := by
  induction steps generalizing p with
  | nil =>
    rw [walkWith] at walked ⊢
    cases here' : (v.erase spare).get? (p.loc cwd) with
    | none => rw [here'] at walked; cases walked
    | some e' =>
      obtain ⟨other, here⟩ := get?_of_get?_erase leaf here'
      rw [here'] at walked
      rw [here]
      cases walked
      exact ⟨rfl, other, fun meets => by cases meets⟩
  | cons step rest ih =>
    have pass' := passable_of_walkWith walked
    have pass : v.passable (p.loc cwd) = .ok () := leaf.passable_erase_iff.mp pass'
    cases step with
    | stay =>
      rw [walkWith_stay pass'] at walked
      obtain ⟨walked, other, apart⟩ := ih reached walked
      rw [walkWith_stay pass]
      exact ⟨walked, other, fun meets => by cases meets; exact apart ‹_›⟩
    | up =>
      rw [walkWith_up pass', ← Standpoint.loc_up] at walked
      obtain ⟨walked, other, apart⟩ := ih (reached.up pass) walked
      rw [walkWith_up pass, ← Standpoint.loc_up]
      exact ⟨walked, other, fun meets => by cases meets; exact apart ‹_›⟩
    | down n =>
      obtain ⟨-, short, ⟨-, -, free⟩ | ⟨_, -, ⟨-, off⟩, -⟩ | ⟨target, below', more, walked⟩ |
        ⟨e', below', plain, walked⟩⟩ := walkWith_down_eq_ok_iff.mp walked
      · cases free
      · cases off
      · obtain ⟨last, below⟩ := get?_of_get?_erase leaf below'
        have link := readLink_of_link reached pass short below
        obtain ⟨walked, other, apart⟩ := expands p target rest reached walked
        refine ⟨walkWith_down_eq_ok_iff.mpr
          ⟨pass, short, .inr (.inr (.inl ⟨target, below, more, walked⟩))⟩, other, fun meets => ?_⟩
        cases meets with
        | down none => rw [link] at none; cases none
        | link => exact last rfl
        | beyond link' meets =>
          rw [link] at link'
          cases link'
          exact apart meets
      · obtain ⟨last, below⟩ := get?_of_get?_erase leaf below'
        obtain ⟨walked, other, apart⟩ :=
          ih (p := p.down n) (reached_down_iff.mpr ⟨pass, reached⟩) walked
        refine ⟨walkWith_down_eq_ok_iff.mpr
          ⟨pass, short, .inr (.inr (.inr ⟨e', below, plain, walked⟩))⟩, other, fun meets => ?_⟩
        cases meets with
        | down _ meets => exact apart meets
        | link => exact last rfl
        | beyond link => rw [readLink_eq_none below plain] at link; cases link

theorem walk_of_erase (leaf : v.IsLeaf spare) (reached : v.Reached cwd p)
    (walked : (v.erase spare).walk true budget (p.loc cwd) steps = .ok (.there l e)) :
    v.walk true budget (p.loc cwd) steps = .ok (.there l e) ∧ l ≠ spare ∧
      ¬ v.Meets cwd p steps spare := by
  induction budget generalizing p steps with
  | zero =>
    rw [walk] at walked ⊢
    exact walkWith_of_erase leaf (fun _ _ _ _ none => by cases none) reached walked
  | succ budget ih =>
    rw [walk] at walked ⊢
    refine walkWith_of_erase leaf (fun p target rest reached further => ?_) reached walked
    dsimp only at further ⊢
    rw [← Standpoint.loc_origin] at further ⊢
    exact ih (reached.origin _) further

/-- With one entry less a spelling leads to something exactly if it led there before, that is
another entry, and no link on the way was the one. -/
theorem find_erase_eq_ok_iff (leaf : v.IsLeaf spare) :
    (v.erase spare).find cwd path = .ok (l, e) ↔
      v.find cwd path = .ok (l, e) ∧ l ≠ spare ∧ ¬ v.Passes cwd path spare := by
  refine ⟨fun found => ?_, fun ⟨found, other, apart⟩ => find_erase_of_ne leaf apart found other⟩
  rw [find_eq_ok_iff, locate_eq_ok_iff] at found ⊢
  obtain ⟨named, short, walked⟩ := found
  have start : (Standpoint.here.origin (Route.ofString path)).loc cwd =
      (Route.ofString path).origin cwd := Standpoint.loc_origin _
  rw [← start] at walked
  obtain ⟨walked, other, apart⟩ := walk_of_erase leaf (reached_here.origin _) walked
  rw [start] at walked
  exact ⟨⟨named, short, walked⟩, other, apart⟩

/-- The octets to which a spelling leads are still there when an entry is gone to which it does
not lead, and over which it does not lead as a link. -/
theorem bytesAt?_erase (leaf : v.IsLeaf spare) (apart : ¬ v.Passes cwd path spare)
    (other : ∀ e, v.find cwd path ≠ .ok (spare, e)) :
    (v.erase spare).bytesAt? cwd path = v.bytesAt? cwd path := by
  unfold bytesAt?
  obtain ⟨same, -⟩ | ⟨gone, blocked | ⟨e, found⟩⟩ := find_erase leaf apart
  · rw [same]
    rfl
  · rw [gone, blocked]
  · exact absurd found (other e)

theorem isRegular_erase (leaf : v.IsLeaf spare) (apart : ¬ v.Passes cwd path spare)
    (other : ∀ e, v.find cwd path ≠ .ok (spare, e)) :
    (v.erase spare).isRegular cwd path = v.isRegular cwd path := by
  unfold isRegular
  obtain ⟨same, -⟩ | ⟨gone, blocked | ⟨e, found⟩⟩ := find_erase leaf apart
  · rw [same]
  · rw [gone, blocked]
    rfl
  · exact absurd found (other e)

end TexBuild.Volume
