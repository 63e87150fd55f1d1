import TexBuild.Proofs.Build.Frame
import TexBuild.Proofs.Build.Launch
import TexBuild.Proofs.Build.Return
import TexBuild.Proofs.Text.Pieces
import TexBuild.Proofs.Tool.Command
import TexBuild.Tool.Requirements

namespace TexBuild

namespace Environment

/-- The directories that the variables give to be searched. A search path that is missing or empty
gives none, not even an empty entry. -/
def pathEntries (env : Environment) : List String :=
  match env.get? "PATH" with
  | none => []
  | some path => if path = "" then [] else searchEntries path

theorem pathEntries_of_get? {env : Environment} {path : String} (set : env.get? "PATH" = some path)
    (some : path ≠ "") : env.pathEntries = searchEntries path := by
  unfold pathEntries
  rw [set]
  exact if_neg some

theorem searchEntries_of_free {entry : String} (free : ':' ∉ entry.toList) :
    searchEntries entry = [entry] := by
  rw [searchEntries, Text.pieces_of_not_mem free, List.map_singleton, String.ofList_toList]

theorem searchEntries_append {entry : String} (free : ':' ∉ entry.toList) (rest : String) :
    searchEntries (entry ++ ":" ++ rest) = entry :: searchEntries rest := by
  have spelled : (entry ++ ":" ++ rest).toList = entry.toList ++ ':' :: rest.toList := by simp
  rw [searchEntries, spelled, Text.pieces_append_mark, List.map_append]
  exact congrArg (· ++ searchEntries rest) (searchEntries_of_free free)

end Environment

namespace Launch

variable {l : Launch} {v : Volume}

theorem places_of_bare (bare : '/' ∉ l.command.toList) :
    l.places =
      (Environment.searchEntries ((l.environment.get? "PATH").getD defaultSearch)).map fun entry =>
        Volume.within entry l.command.toList :=
  if_neg fun slash => bare (List.contains_iff_mem.mp slash)

/-- What runs is what the first place has that has anything. -/
theorem toOption_image (l : Launch) (v : Volume) :
    (l.image v).toOption = l.places.findSome? fun place => (v.load l.directory place).toOption := by
  ext image
  simp only [toOption_eq_some_iff, image_eq_ok_iff, List.findSome?_eq_some_iff]
  constructor
  · rintro ⟨before, place, after, split, stops⟩
    exact ⟨before, place, after, split, stops.loaded, stops.passed⟩
  · rintro ⟨before, place, after, split, loaded, passed⟩
    exact ⟨before, place, after, split, passed, loaded⟩

end Launch

namespace Tool

variable {t : Tool} {env : Environment} {directory : Path}

theorem childEnv_of_bare (bare : t.isBare = true) : t.childEnv env = env := by
  unfold childEnv directory?
  rw [if_pos bare]

theorem get?_childEnv_of_ne {name : String} (other : name ≠ "PATH") :
    (t.childEnv env).get? name = env.get? name := by
  unfold childEnv
  cases t.directory? with
  | none => rfl
  | some directory => exact Environment.get?_set_of_ne env _ other

/-- The directory of the engine is one entry more than there were. -/
theorem exists_path_childEnv (env : Environment) (beside : t.directory? = some directory)
    (free : ':' ∉ directory.text.toList) :
    ∃ path, (t.childEnv env).get? "PATH" = some path ∧
      Environment.searchEntries path = directory.text :: env.pathEntries := by
  unfold childEnv
  rw [beside]
  refine ⟨_, Environment.get?_set_self .., ?_⟩
  unfold Environment.pathEntries
  rcases env.get? "PATH" with _ | path
  · exact Environment.searchEntries_of_free free
  · dsimp only [Option.getD_some]
    by_cases empty : path = ""
    · rw [if_pos empty, if_pos empty]
      exact Environment.searchEntries_of_free free
    · rw [if_neg empty, if_neg empty]
      exact Environment.searchEntries_append free path

theorem places_childEnv {l : Launch} (beside : t.directory? = some directory)
    (free : ':' ∉ directory.text.toList) (bare : '/' ∉ l.command.toList) :
    ({ l with environment := t.childEnv env } : Launch).places =
      Volume.within directory.text l.command.toList ::
        env.pathEntries.map fun entry => Volume.within entry l.command.toList := by
  obtain ⟨path, set, entries⟩ := exists_path_childEnv env beside free
  refine (Launch.places_of_bare (l := { l with environment := t.childEnv env }) bare).trans ?_
  dsimp only
  rw [set, Option.getD_some, entries, List.map_cons]

/-- What is started by its bare name from the engine is what stands beside the engine, if that
runs, and else what the search path of the caller leads to. -/
theorem toOption_image_childEnv {l : Launch} {base : String} (v : Volume)
    (beside : t.directory? = some directory) (free : ':' ∉ directory.text.toList)
    (bare : '/' ∉ l.command.toList) (caller : l.environment = env)
    (set : env.get? "PATH" = some base) (some : base ≠ "") :
    (({ l with environment := t.childEnv env } : Launch).image v).toOption =
      (v.load l.directory (Volume.within directory.text l.command.toList)).toOption.or
        (l.image v).toOption := by
  have own : l.places = env.pathEntries.map fun entry => Volume.within entry l.command.toList := by
    rw [Launch.places_of_bare bare, caller, set, Environment.pathEntries_of_get? set some,
      Option.getD_some]
  rw [Launch.toOption_image, Launch.toOption_image, places_childEnv beside free bare, own,
    List.findSome?_cons]
  cases (v.load l.directory (Volume.within directory.text l.command.toList)).toOption <;> rfl

/-- The same for a program of the engine that asks where a bare name can be run. -/
theorem which_childEnv {h : Host} {command base : String} (beside : t.directory? = some directory)
    (free : ':' ∉ directory.text.toList) (bare : '/' ∉ command.toList)
    (set : h.environment.get? "PATH" = some base) (some : base ≠ "") :
    let place := Volume.within directory.text command.toList
    Search.which { h with environment := t.childEnv h.environment } command =
      if Search.isRunnable h place then Option.some place else Search.which h command := by
  intro place
  obtain ⟨path, child, entries⟩ := exists_path_childEnv h.environment beside free
  have named : path ≠ "" := by
    rintro rfl
    have alone : [""] = directory.text :: h.environment.pathEntries := entries
    exact Path.text_ne_empty directory (List.cons.inj alone).1.symm
  have bare' : ¬ command.toList.contains '/' = true := fun slash =>
    bare (List.contains_iff_mem.mp slash)
  -- whether a file can be run does not hang on the variables
  have alike : Search.isRunnable { h with environment := t.childEnv h.environment } =
      Search.isRunnable h := rfl
  unfold Search.which
  rw [if_neg bare', if_neg bare', child, set, alike]
  dsimp only [Option.getD_some]
  rw [if_neg named, if_neg some, entries, Environment.pathEntries_of_get? set some, List.map_cons]
  by_cases runnable : Search.isRunnable h place = true
  · rw [List.find?_cons_of_pos runnable, if_pos runnable]
  · rw [List.find?_cons_of_neg runnable, if_neg runnable]

/-- An engine by a bare name gets the variables of its caller. One that is named by its path gets
them with its directory as one entry more in front of those of the search path; what it starts by a
bare name, or asks the place of, is then looked for beside it first. Whatever engine a build
starts, its own variables stay as they were. -/
theorem childEnv_searches_beside_first (t : Tool) (env : Environment) :
    (t.isBare = true → t.childEnv env = env) ∧
    (t.isBare = false → ∃ directory, t.directory? = some directory ∧
      (':' ∉ directory.text.toList →
        (∀ name, name ≠ "PATH" → (t.childEnv env).get? name = env.get? name) ∧
        (∃ path, (t.childEnv env).get? "PATH" = some path ∧
          Environment.searchEntries path = directory.text :: env.pathEntries) ∧
        ∀ base, env.get? "PATH" = some base → base ≠ "" →
          (∀ (l : Launch) (v : Volume), l.environment = env → '/' ∉ l.command.toList →
            (({ l with environment := t.childEnv env } : Launch).image v).toOption =
              (v.load l.directory (Volume.within directory.text l.command.toList)).toOption.or
                (l.image v).toOption) ∧
          ∀ (h : Host) (command : String), h.environment = env → '/' ∉ command.toList →
            let place := Volume.within directory.text command.toList
            Search.which { h with environment := t.childEnv env } command =
              if Search.isRunnable h place then some place else Search.which h command)) ∧
    ∀ (b : Builder) (x : Programs) (limit : Seconds) (source : Path) (s s' : Session) (p : Plan)
      (launch : Launch) (image : Image),
      b.Reaches x (x.probe limit) place source s (.started p launch image) s' →
        (∃ tool : Tool, launch.environment = tool.childEnv s.host.environment) ∧
          s'.host.environment = s.host.environment := by
  refine ⟨childEnv_of_bare, fun named => ?_, fun b x limit source s s' p launch image reach => ?_⟩
  · have beside : t.directory? = some (Path.ofString t.command).parent := by
      rw [directory?, named]
      rfl
    refine ⟨_, beside, fun free => ⟨fun name => get?_childEnv_of_ne, exists_path_childEnv env beside free,
      fun base set some => ⟨fun l v caller bare =>
        toOption_image_childEnv v beside free bare caller set some, fun h command caller bare => ?_⟩⟩⟩
    subst caller
    exact which_childEnv beside free bare set some
  · have kept := reach.surroundings.2
    cases reach with
    | next before onward =>
      cases onward with
      | @start _ _ _ tool _ search start => exact ⟨⟨tool, congrArg tool.childEnv kept⟩, kept⟩

/-- An engine in `/alt`, on a search path with an empty entry and one in which there is an engine
of the same name too. It finds its own file again, and a program beside the other one there. -/
theorem childEnv_searches_beside_first_desk :
    let t : Tool := ⟨"/alt/tex", false, true⟩
    let env : Environment := [("LANG", "C"), ("PATH", ":/s/alt")]
    let bib : Loc := (Path.ofString "/s/alt/bib").names.reverse
    let v := (Search.twinDesk env).host.volume.putFile bib ⟨Volume.utilityBytes "true", 0o755⟩
    let started (command : String) : Launch := ⟨command, [], [], t.childEnv env, false⟩
    (∃ path, (t.childEnv env).get? "PATH" = some path ∧
      Environment.searchEntries path = ["/alt", "", "/s/alt"]) ∧
    ((started "tex").image v).toOption.map Image.file =
      some (Path.ofString "/alt/tex").names.reverse ∧
    ((started "bib").image v).toOption.map Image.file = some bib ∧
    ∃ p launch image s', Builder.deskBuilder.Reaches Builder.greeting
        (Builder.greeting.probe (.whole 5)) place (Path.ofString "/s/cv.tex") Builder.desk
        (.started p launch image) s' ∧
      s'.host.environment = Builder.desk.host.environment := by
  intro t env bib v started
  obtain ⟨-, named, built⟩ := childEnv_searches_beside_first t env
  obtain ⟨directory, beside, searches⟩ := named rfl
  have own : t.directory? = some (Path.ofString "/alt") := by decide +kernel
  obtain rfl := Option.some.inj (own.symm.trans beside)
  obtain ⟨-, ⟨path, child, entries⟩, looks⟩ := searches (by decide +kernel)
  have finds (command : String) := (looks ":/s/alt" rfl (by decide)).1 ⟨command, [], [], env, false⟩ v rfl
  have base : env.pathEntries = ["", "/s/alt"] := by decide +kernel
  obtain ⟨w, s₁, produced, -⟩ := Builder.reaches_produced_desk
  obtain ⟨p, launch, image, s', starts⟩ := produced.exists_started (Nat.le_add_right 5 2)
  refine ⟨⟨path, child, base ▸ entries⟩, ?_, ?_, p, launch, image, s', starts,
    (built _ _ _ _ _ _ _ _ _ starts).2⟩
  · rw [finds "tex" (by decide)]
    decide +kernel
  · rw [finds "bib" (by decide)]
    decide +kernel

end Tool

end TexBuild
