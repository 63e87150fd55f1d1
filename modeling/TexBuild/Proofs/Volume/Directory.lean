import TexBuild.Proofs.Path.Spelling
import TexBuild.Proofs.Volume.Way

namespace TexBuild.Volume

/-- What a name is below a spot. -/
def spotBelow (v : Volume) (n : Name) : Except Errno Spot → Except Errno Spot
  | .ok (.there loc _) => v.spotIn loc n
  | .ok (.vacant _ _) => .error .noEntry
  | .error x => .error x

variable {v v' : Volume} {cwd loc l : Loc} {n : Name} {e : Entry} {p q : Path} {path : String}
  {room : Nat}
  {steps : List Step} {budget mode : Nat}
  {expand expand' : Loc → String → List Step → Except Errno Spot}

theorem walkWith_append_down
    (expands : ∀ loc target rest,
      expand loc target (rest ++ [.down n]) = v.spotBelow n (expand' loc target rest)) :
    v.walkWith false expand loc (steps ++ [.down n]) =
      v.spotBelow n (v.walkWith true expand' loc steps) := by
  induction steps generalizing loc with
  | nil =>
    rw [List.nil_append, walkWith.eq_def v true]
    cases pass : v.passable loc with
    | error x =>
      rw [walkWith_of_blocked pass]
      dsimp only
      cases here : v.get? loc with
      | none =>
        rw [passable, here] at pass
        cases pass
        rfl
      | some e => exact (spotIn_of_blocked pass).symm
    | ok _ =>
      obtain ⟨mode, here, -⟩ := passable_eq_ok_iff.mp pass
      dsimp only
      rw [here]
      dsimp only [spotBelow]
      rw [spotIn, walkWith_down pass, walkWith_down pass]
      rcases v.get? (n :: loc) with _ | ⟨_ | _ | target | _ | _⟩ <;> simp [walkWith]
  | cons step rest ih =>
    rw [List.cons_append]
    cases pass : v.passable loc with
    | error x => rw [walkWith_of_blocked pass, walkWith_of_blocked pass, spotBelow]
    | ok _ =>
    cases step with
    | stay =>
      rw [walkWith_stay pass, walkWith_stay pass]
      exact ih
    | up =>
      rw [walkWith_up pass, walkWith_up pass]
      exact ih
    | down m =>
      have more : rest ++ [.down n] ≠ [] := by simp
      rw [walkWith_down pass, walkWith_down pass]
      by_cases long : nameLimit < m.octets
      · rw [if_pos long, if_pos long, spotBelow]
      rw [if_neg long, if_neg long]
      cases v.get? (m :: loc) with
      | none =>
        dsimp only
        rw [if_neg more]
        by_cases last : rest = []
        · rw [if_pos last, spotBelow]
        · rw [if_neg last, spotBelow]
      | some e =>
        cases e with
        | link target =>
          dsimp only
          rw [if_neg fun ends => more ends.1, if_neg fun ends => Bool.noConfusion ends.2]
          exact expands loc target rest
        | _ => exact ih

theorem walk_append_down :
    v.walk false budget loc (steps ++ [.down n]) =
      v.spotBelow n (v.walk true budget loc steps) := by
  induction budget generalizing loc steps with
  | zero =>
    rw [walk, walk]
    exact walkWith_append_down fun _ _ _ => rfl
  | succ budget ih =>
    rw [walk, walk]
    refine walkWith_append_down fun loc target rest => ?_
    dsimp only
    rw [← List.append_assoc]
    exact ih

theorem walk_stay_down :
    v.walk false budget loc [.stay, .down n] = v.walk false budget loc [.down n] := by
  cases budget <;> rw [walk] <;> cases pass : v.passable loc <;>
    first
    | rw [walkWith_stay pass]
    | rw [walkWith_of_blocked pass, walkWith_of_blocked pass]

theorem walk_route_child (down : n ≠ Name.up) :
    v.walk false budget loc (p.child n).route = v.spotBelow n (v.walk true budget loc p.route) := by
  have child : (p.child n).route = p.steps ++ [.down n] := by
    rw [Path.route, if_neg (by simp [Path.child]), Path.steps_child, Step.ofName_of_ne down]
  rw [child, Path.route]
  by_cases none : p.names = []
  · rw [if_pos none, ← walk_append_down, List.singleton_append, walk_stay_down, Path.steps, none]
    rfl
  · rw [if_neg none]
    exact walk_append_down

/-- A path one name further down leads to that name in the directory to which the path leads. -/
theorem locate_child (down : n ≠ Name.up) (short : Text.octets (p.child n).text.toList ≤ pathLimit) :
    v.locate cwd false (p.child n).text = v.spotBelow n (v.locate cwd true p.text) := by
  have short' := Nat.le_trans (Path.octets_text_le_child p n) short
  unfold locate
  rw [if_neg (Path.text_ne_empty _), if_neg (Path.text_ne_empty _),
    if_neg (Nat.not_lt_of_le short), if_neg (Nat.not_lt_of_le short'),
    Path.ofString_text, Path.ofString_text]
  exact walk_route_child down

theorem walkWith_unfollowed {spot : Spot}
    (expands : ∀ loc target rest, expand loc target rest = .ok spot →
      expand' loc target rest = .ok spot ∨
        ∃ l aim, expand' loc target rest = .ok (.there l (.link aim)))
    (walked : v.walkWith true expand loc steps = .ok spot) :
    v.walkWith false expand' loc steps = .ok spot ∨
      ∃ l aim, v.walkWith false expand' loc steps = .ok (.there l (.link aim)) := by
  induction steps generalizing loc with
  | nil => exact .inl (by rwa [walkWith] at walked ⊢)
  | cons step rest ih =>
    have pass := passable_of_walkWith walked
    cases step with
    | stay =>
      rw [walkWith_stay pass] at walked ⊢
      exact ih walked
    | up =>
      rw [walkWith_up pass] at walked ⊢
      exact ih walked
    | down n =>
      obtain ⟨-, short, ⟨free, last, vacant⟩ | ⟨_, -, ⟨-, off⟩, -⟩ | ⟨target, below, -, walked⟩ |
        ⟨e', below, plain, walked⟩⟩ := walkWith_down_eq_ok_iff.mp walked
      · exact .inl (walkWith_down_eq_ok_iff.mpr ⟨pass, short, .inl ⟨free, last, vacant⟩⟩)
      · cases off
      · by_cases last : rest = []
        · exact .inr ⟨_, target, walkWith_down_eq_ok_iff.mpr
            ⟨pass, short, .inr (.inl ⟨target, below, ⟨last, rfl⟩, rfl⟩)⟩⟩
        · have onward {r} (further : expand' loc target rest = .ok r) :
              v.walkWith false expand' loc (.down n :: rest) = .ok r :=
            walkWith_down_eq_ok_iff.mpr ⟨pass, short,
              .inr (.inr (.inl ⟨target, below, fun ends => last ends.1, further⟩))⟩
          obtain same | ⟨l, aim, link⟩ := expands loc target rest walked
          · exact .inl (onward same)
          · exact .inr ⟨l, aim, onward link⟩
      · have onward {r} (further : v.walkWith false expand' (n :: loc) rest = .ok r) :
            v.walkWith false expand' loc (.down n :: rest) = .ok r :=
          walkWith_down_eq_ok_iff.mpr
            ⟨pass, short, .inr (.inr (.inr ⟨e', below, plain, further⟩))⟩
        obtain same | ⟨l, aim, link⟩ := ih walked
        · exact .inl (onward same)
        · exact .inr ⟨l, aim, onward link⟩

theorem walk_unfollowed {spot : Spot} (walked : v.walk true budget loc steps = .ok spot) :
    v.walk false budget loc steps = .ok spot ∨
      ∃ l aim, v.walk false budget loc steps = .ok (.there l (.link aim)) := by
  induction budget generalizing loc steps with
  | zero =>
    rw [walk] at walked ⊢
    exact walkWith_unfollowed (fun _ _ _ none => by cases none) walked
  | succ budget ih =>
    rw [walk] at walked ⊢
    exact walkWith_unfollowed (fun _ _ _ further => ih further) walked

/-- Where a spelling leads through links it leads without following the last one, unless that is a
link. -/
theorem locate_unfollowed {spot : Spot} (located : v.locate cwd true path = .ok spot) :
    v.locate cwd false path = .ok spot ∨
      ∃ l aim, v.locate cwd false path = .ok (.there l (.link aim)) := by
  simp only [locate_eq_ok_iff] at located ⊢
  obtain ⟨named, short, walked⟩ := located
  obtain same | ⟨l, aim, link⟩ := walk_unfollowed walked
  · exact .inl ⟨named, short, same⟩
  · exact .inr ⟨l, aim, named, short, link⟩

theorem walkWith_followed {spot : Spot} (plain : ∀ l aim, spot ≠ .there l (.link aim))
    (expands : ∀ loc target rest, expand loc target rest = .ok spot →
      expand' loc target rest = .ok spot)
    (walked : v.walkWith false expand loc steps = .ok spot) :
    v.walkWith true expand' loc steps = .ok spot := by
  induction steps generalizing loc with
  | nil => rwa [walkWith] at walked ⊢
  | cons step rest ih =>
    have pass := passable_of_walkWith walked
    cases step with
    | stay =>
      rw [walkWith_stay pass] at walked ⊢
      exact ih walked
    | up =>
      rw [walkWith_up pass] at walked ⊢
      exact ih walked
    | down n =>
      rw [walkWith_down_eq_ok_iff]
      obtain ⟨-, short, vacant | ⟨aim, -, -, link⟩ | ⟨target, below, -, walked⟩ |
        ⟨e', below, other, walked⟩⟩ := walkWith_down_eq_ok_iff.mp walked
      · exact ⟨pass, short, .inl vacant⟩
      · exact absurd link (plain _ aim)
      · exact ⟨pass, short, .inr (.inr (.inl
          ⟨target, below, fun ends => Bool.noConfusion ends.2, expands loc target rest walked⟩))⟩
      · exact ⟨pass, short, .inr (.inr (.inr ⟨e', below, other, ih walked⟩))⟩

theorem walk_followed {spot : Spot} (plain : ∀ l aim, spot ≠ .there l (.link aim))
    (walked : v.walk false budget loc steps = .ok spot) :
    v.walk true budget loc steps = .ok spot := by
  induction budget generalizing loc steps with
  | zero =>
    rw [walk] at walked ⊢
    exact walkWith_followed plain (fun _ _ _ none => by cases none) walked
  | succ budget ih =>
    rw [walk] at walked ⊢
    exact walkWith_followed plain (fun _ _ _ further => ih further) walked

/-- Where a spelling leads without following a link at its end it leads in any case, unless that
is a link. -/
theorem locate_followed {spot : Spot} (plain : ∀ l aim, spot ≠ .there l (.link aim))
    (located : v.locate cwd false path = .ok spot) : v.locate cwd true path = .ok spot := by
  obtain ⟨named, short, walked⟩ := locate_eq_ok_iff.mp located
  exact locate_eq_ok_iff.mpr ⟨named, short, walk_followed plain walked⟩

theorem dropSlashes_of_names (some : p.names ≠ []) : dropSlashes p.text = p.text := by
  obtain empty | ⟨front, c, spelled⟩ := List.eq_nil_or_concat p.chars
  · exact absurd (congrArg String.ofList empty) (Path.text_ne_empty p)
  · rw [List.concat_eq_append] at spelled
    have plain : c ≠ '/' := by
      have last := Path.getLast?_chars_ne_slash some
      rw [spelled, List.getLast?_append, List.getLast?_singleton, Option.some_or] at last
      simpa using last
    have whole : (front ++ [c]).reverse.dropWhile (· == '/') = c :: front.reverse := by
      simp [plain]
    unfold dropSlashes
    rw [Path.text, String.toList_ofList, spelled, whole]
    simp

/-- Without slashes at its end a spelling leads to the same. -/
theorem locate_dropSlashes {follow : Bool} :
    v.locate cwd follow (dropSlashes p.text) = v.locate cwd follow p.text := by
  by_cases none : p.names = []
  · obtain ⟨anchor, names⟩ := p
    cases none
    cases anchor with
    | doubleRoot =>
      have single : Route.ofString "/" = Route.ofString "//" := rfl
      have short : ¬ pathLimit < Text.octets "/".toList ∧ ¬ pathLimit < Text.octets "//".toList := by
        decide
      change v.locate cwd follow "/" = v.locate cwd follow "//"
      unfold locate
      rw [if_neg (by decide), if_neg short.1, if_neg (by decide), if_neg short.2, single]
    | _ => rfl
  · rw [dropSlashes_of_names none]

theorem isDirectory_iff :
    v.isDirectory cwd path = true ↔ ∃ loc mode, v.find cwd path = .ok (loc, .directory mode) := by
  unfold isDirectory
  rcases v.find cwd path with x | ⟨loc, e⟩
  · simp
  · cases e <;> simp

theorem makeDirectory_of_isDirectory (there : v.isDirectory cwd p.text = true) :
    v.makeDirectory cwd p.text = .error .exists := by
  obtain ⟨loc, mode, found⟩ := isDirectory_iff.mp there
  have taken : ∃ l e, v.locate cwd false p.text = .ok (.there l e) := by
    obtain same | ⟨l, aim, link⟩ := locate_unfollowed (find_eq_ok_iff.mp found)
    · exact ⟨loc, .directory mode, same⟩
    · exact ⟨l, .link aim, link⟩
  obtain ⟨l, e, taken⟩ := taken
  unfold makeDirectory freeName
  rw [locate_dropSlashes, taken]
  rfl

/-- A directory that is there is not made. -/
theorem makeDirectories_of_isDirectory (there : v.isDirectory cwd p.text = true) :
    v.makeDirectories cwd room p = (v, .ok ()) := by
  unfold makeDirectories
  rw [makeDirectory_of_isDirectory there]
  dsimp only
  rw [if_pos there]

theorem makeDirectory_eq_ok (made : v.makeDirectory cwd path = .ok v') :
    ∃ loc mode, v.get? loc = none ∧ v' = v.put loc (.directory mode) := by
  obtain ⟨loc, free, made⟩ := bind_eq_ok_iff.mp made
  cases made
  refine ⟨loc, _, ?_, rfl⟩
  obtain ⟨spot, located, free⟩ := bind_eq_ok_iff.mp free
  cases spot with
  | there => cases free
  | vacant directory name =>
    obtain ⟨_, -, free⟩ := bind_eq_ok_iff.mp free
    cases free
    exact get?_of_vacant located

/-- A volume has become another one by new entries that are neither files nor links. -/
structure Grown (v v' : Volume) : Prop where
  entries : Extends v v'
  files : v'.files = v.files
  next : v'.next = v.next

theorem Grown.refl (v : Volume) : Grown v v :=
  ⟨.of_get?_eq fun _ => rfl, rfl, rfl⟩

theorem Grown.trans {u : Volume} (first : Grown v v') (second : Grown v' u) : Grown v u :=
  ⟨first.entries.trans second.entries, second.files.trans first.files,
    second.next.trans first.next⟩

theorem grown_makeDirectory (made : v.makeDirectory cwd path = .ok v') : Grown v v' := by
  obtain ⟨loc, mode, free, rfl⟩ := makeDirectory_eq_ok made
  exact ⟨.put (e := .directory mode) free nofun fun _ => rfl, rfl, rfl⟩

/-- Directories are made without harm to what is there, also when not all of them can be. -/
theorem grown_makeDirectories (v : Volume) (cwd : Loc) (room : Nat) (p : Path) :
    Grown v (v.makeDirectories cwd room p).1 := by
  fun_induction makeDirectories v cwd room p with
  | case1 _ _ _ made => exact grown_makeDirectory made
  | case4 _ _ _ _ _ _ above ih => rwa [above] at ih
  | case5 _ _ _ _ _ _ above _ made ih =>
    rw [above] at ih
    exact ih.trans (grown_makeDirectory made)
  | case6 _ _ _ _ _ _ above _ _ _ ih => rwa [above] at ih
  | case7 _ _ _ _ _ _ above _ _ _ ih => rwa [above] at ih
  | _ => exact .refl v

/-- A directory that is made stands where its path then leads. -/
theorem find_makeDirectory (made : v.makeDirectory cwd p.text = .ok v') :
    ∃ loc mode, v.get? loc = none ∧ v' = v.put loc (.directory mode) ∧
      v'.find cwd p.text = .ok (loc, .directory mode) := by
  obtain ⟨loc, free, made⟩ := bind_eq_ok_iff.mp made
  cases made
  obtain ⟨spot, located, free⟩ := bind_eq_ok_iff.mp free
  rw [locate_dropSlashes] at located
  cases spot with
  | there => cases free
  | vacant directory name =>
    obtain ⟨_, -, free⟩ := bind_eq_ok_iff.mp free
    cases free
    have open' := get?_of_vacant located
    have grown : Extends v (v.put (name :: directory) (.directory (maskedMode 0o777))) :=
      .put (e := .directory (maskedMode 0o777)) open' nofun fun _ => rfl
    exact ⟨_, _, open', rfl, grown.find_of_vacant (locate_followed nofun located)
      (get?_put_self v _ (List.cons_ne_nil _ _))⟩

/-- When directories are made without a refusal, the path leads to one. -/
theorem isDirectory_of_makeDirectories (made : v.makeDirectories cwd room p = (v', .ok ())) :
    v'.isDirectory cwd p.text = true := by
  have of_made {w w' : Volume} (made : w.makeDirectory cwd p.text = .ok w') :
      w'.isDirectory cwd p.text = true := by
    obtain ⟨loc, mode, -, -, found⟩ := find_makeDirectory made
    exact isDirectory_iff.mpr ⟨loc, mode, found⟩
  unfold makeDirectories at made
  split at made
  · next first =>
    cases made
    exact of_made first
  · split at made
    · cases made
    · split at made
      · cases made
      · split at made
        · cases made
        · split at made
          · next second =>
            cases made
            exact of_made second
          · split at made
            · next there =>
              cases made
              exact (Bool.and_eq_true_iff.mp there).1
            · cases made
  · split at made
    · next there =>
      cases made
      exact there
    · cases made

end TexBuild.Volume
