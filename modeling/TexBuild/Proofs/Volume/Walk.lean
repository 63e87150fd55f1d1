import TexBuild.Proofs.Except
import TexBuild.Volume.Walk

namespace TexBuild

/-- What a spot on one volume is on another one, where the free name may be taken. -/
def Spot.on (w : Volume) : Spot → Spot
  | .there loc e => .there loc e
  | .vacant directory name =>
    match w.get? (name :: directory) with
    | some e => .there (name :: directory) e
    | none => .vacant directory name

namespace Volume

variable {v w : Volume} {follow : Bool} {cwd loc directory : Loc} {name : Name} {e : Entry}
  {path : String} {spot : Spot}

theorem passable_eq_ok_iff :
    v.passable loc = .ok () ↔ ∃ mode, v.get? loc = some (.directory mode) ∧ mayEnter mode := by
  unfold passable
  rcases v.get? loc with _ | e
  · simp
  · cases e with
    | directory mode => cases enter : mayEnter mode <;> simp [enter]
    | _ => simp

/-- Each step needs a directory that can be entered. -/
theorem passable_of_walkWith {expand : Loc → String → List Step → Except Errno Spot}
    {step : Step} {rest : List Step}
    (walked : v.walkWith follow expand loc (step :: rest) = .ok spot) :
    v.passable loc = .ok () := by
  cases pass : v.passable loc with
  | ok _ => rfl
  | error e => cases step <;> rw [walkWith, pass] at walked <;> cases walked

theorem walkWith_stay {expand : Loc → String → List Step → Except Errno Spot} {rest : List Step}
    (pass : v.passable loc = .ok ()) :
    v.walkWith follow expand loc (.stay :: rest) = v.walkWith follow expand loc rest := by
  rw [walkWith, pass]
  rfl

theorem walkWith_up {expand : Loc → String → List Step → Except Errno Spot} {rest : List Step}
    (pass : v.passable loc = .ok ()) :
    v.walkWith follow expand loc (.up :: rest) = v.walkWith follow expand loc.tail rest := by
  rw [walkWith, pass]
  rfl

/-- A step down from a directory goes on at what is there: on through a link, or below anything else. -/
theorem walkWith_down {expand : Loc → String → List Step → Except Errno Spot} {n : Name}
    {rest : List Step} (pass : v.passable loc = .ok ()) :
    v.walkWith follow expand loc (.down n :: rest) =
      if nameLimit < n.octets then .error .nameTooLong
      else
        match v.get? (n :: loc) with
        | none => if rest = [] then .ok (.vacant loc n) else .error .noEntry
        | some (.link target) =>
          if rest = [] ∧ follow = false then .ok (.there (n :: loc) (.link target))
          else expand loc target rest
        | some _ => v.walkWith follow expand (n :: loc) rest := by
  rw [walkWith, pass]
  by_cases long : nameLimit < n.octets
  · rw [if_pos long, if_pos long]
    rfl
  · rw [if_neg long, if_neg long]
    rcases v.get? (n :: loc) with _ | ⟨_ | _ | target | _ | _⟩
    · by_cases last : rest = [] <;>
        simp [last, bind, Except.bind, pure, Except.pure, throw, throwThe, MonadExceptOf.throw]
    · rfl
    · rfl
    · by_cases last : rest = [] ∧ follow = false <;>
        simp [last, bind, Except.bind, pure, Except.pure]
    · rfl
    · rfl

/-- All entries of a volume stand on another one, and no other links. -/
structure Extends (v w : Volume) : Prop where
  kept : ∀ {loc e}, v.get? loc = some e → w.get? loc = some e
  links : ∀ {loc target}, w.get? loc = some (.link target) → v.get? loc = some (.link target)

theorem Extends.of_get?_eq (same : ∀ loc, w.get? loc = v.get? loc) : Extends v w where
  kept h := (same _).trans h
  links h := (same _).symm.trans h

theorem Extends.trans {u : Volume} (first : Extends v w) (second : Extends w u) : Extends v u where
  kept h := second.kept (first.kept h)
  links h := first.links (second.links h)

/-- A new entry at a free place, if it is no link, extends a volume. -/
theorem Extends.put (free : v.get? loc = none) (plain : ∀ target, e ≠ .link target)
    (placed : ∀ other, w.get? other = (v.put loc e).get? other) : Extends v w where
  kept {other _} h := by
    have apart : other ≠ loc := fun same => by rw [same, free] at h; cases h
    rw [placed, get?_put_of_ne v e apart, h]
  links {other target} h := by
    have inside : loc ≠ [] := fun root => by rw [root] at free; cases free
    rw [placed] at h
    by_cases same : other = loc
    · rw [same, get?_put_self v e inside] at h
      exact absurd (Option.some.inj h) (plain target)
    · rwa [get?_put_of_ne v e same] at h

theorem Extends.passable (ext : Extends v w) (h : v.passable loc = .ok ()) :
    w.passable loc = .ok () := by
  obtain ⟨mode, directory, enter⟩ := passable_eq_ok_iff.mp h
  exact passable_eq_ok_iff.mpr ⟨mode, ext.kept directory, enter⟩

/-- A walk that ends well ends alike on a volume with more entries. -/
theorem Extends.walkWith (ext : Extends v w)
    {expand expand' : Loc → String → List Step → Except Errno Spot}
    (expands : ∀ loc target rest spot, expand loc target rest = .ok spot →
      expand' loc target rest = .ok (spot.on w))
    {steps : List Step} (walked : v.walkWith follow expand loc steps = .ok spot) :
    w.walkWith follow expand' loc steps = .ok (spot.on w) := by
  induction steps generalizing loc with
  | nil =>
    rw [Volume.walkWith] at walked ⊢
    cases here : v.get? loc with
    | none => rw [here] at walked; cases walked
    | some e =>
      rw [here] at walked
      cases walked
      rw [ext.kept here]
      rfl
  | cons step rest ih =>
    have pass := passable_of_walkWith walked
    have pass' := ext.passable pass
    cases step with
    | stay =>
      rw [walkWith_stay pass] at walked
      rw [walkWith_stay pass']
      exact ih walked
    | up =>
      rw [walkWith_up pass] at walked
      rw [walkWith_up pass']
      exact ih walked
    | down n =>
      rw [walkWith_down pass] at walked
      rw [walkWith_down pass']
      by_cases long : nameLimit < n.octets
      · rw [if_pos long] at walked
        cases walked
      rw [if_neg long] at walked ⊢
      cases below : v.get? (n :: loc) with
      | none =>
        rw [below] at walked
        dsimp only at walked
        by_cases last : rest = []
        · rw [if_pos last] at walked
          cases walked
          cases here : w.get? (n :: loc) with
          | none => simp [Spot.on, last, here]
          | some e =>
            -- the name is taken by now, and by no link, so that the walk ends one step further
            cases e with
            | link target => rw [ext.links here] at below; cases below
            | _ => simp [Spot.on, last, here, Volume.walkWith]
        · rw [if_neg last] at walked
          cases walked
      | some e =>
        rw [below] at walked
        rw [ext.kept below]
        cases e with
        | link target =>
          dsimp only at walked ⊢
          by_cases last : rest = [] ∧ follow = false
          · rw [if_pos last] at walked ⊢
            cases walked
            rfl
          · rw [if_neg last] at walked ⊢
            exact expands loc target rest spot walked
        | _ => exact ih walked

theorem Extends.walk (ext : Extends v w) {budget : Nat} {steps : List Step}
    (walked : v.walk follow budget loc steps = .ok spot) :
    w.walk follow budget loc steps = .ok (spot.on w) := by
  induction budget generalizing loc steps spot with
  | zero =>
    rw [Volume.walk] at walked ⊢
    exact ext.walkWith (fun _ _ _ _ none => by cases none) walked
  | succ budget ih =>
    rw [Volume.walk] at walked ⊢
    exact ext.walkWith (fun _ _ _ _ further => ih further) walked

/-- Whatever a spelling leads to is still there when a volume is extended. -/
theorem Extends.locate (ext : Extends v w) (located : v.locate cwd follow path = .ok spot) :
    w.locate cwd follow path = .ok (spot.on w) := by
  unfold Volume.locate at located ⊢
  by_cases empty : path = ""
  · rw [if_pos empty] at located
    cases located
  rw [if_neg empty] at located ⊢
  by_cases long : pathLimit < Text.octets path.toList
  · rw [if_pos long] at located
    cases located
  rw [if_neg long] at located ⊢
  exact ext.walk located

/-- Where a spelling ends at a free name, nothing stands under it. -/
theorem get?_of_vacant (vacant : v.locate cwd follow path = .ok (.vacant directory name)) :
    v.get? (name :: directory) = none := by
  have same := (Extends.of_get?_eq fun _ => rfl : Extends v v).locate vacant
  rw [vacant, Spot.on] at same
  cases taken : v.get? (name :: directory) with
  | none => rfl
  | some e => rw [taken] at same; cases same

theorem find_eq_ok_iff :
    v.find cwd path = .ok (loc, e) ↔ v.locate cwd true path = .ok (.there loc e) := by
  unfold find
  rcases v.locate cwd true path with e' | ⟨loc', e'⟩ | ⟨directory, name⟩
  · simp [bind, Except.bind]
  · simp [bind, Except.bind, pure, Except.pure]
  · simp [bind, Except.bind, throw, throwThe, MonadExceptOf.throw]

theorem Extends.find (ext : Extends v w) (found : v.find cwd path = .ok (loc, e)) :
    w.find cwd path = .ok (loc, e) := by
  rw [find_eq_ok_iff] at found ⊢
  exact ext.locate found

/-- A free name that is taken leads to what took it. -/
theorem Extends.find_of_vacant (ext : Extends v w)
    (vacant : v.locate cwd true path = .ok (.vacant directory name))
    (taken : w.get? (name :: directory) = some e) :
    w.find cwd path = .ok (name :: directory, e) := by
  rw [find_eq_ok_iff, ext.locate vacant, Spot.on, taken]

end Volume

end TexBuild
