import TexBuild.Proofs.Build.Delivery
import TexBuild.Proofs.Volume.Transfer

namespace TexBuild

namespace Volume

variable {v : Volume} {cwd loc : Loc} {e : Entry} {p q : Path} {n : Name} {a b : String}
  {spot : Spot} {follow : Bool} {budget : Nat} {step : Step} {steps : List Step}

theorem lastPiece_text (some : p.names ≠ []) : lastPiece p.text = (p.names.getLast some).chars := by
  have last (cs : List Char) (n : Name) :
      (Text.pieces '/' (cs ++ '/' :: n.chars)).getLast? = Option.some n.chars := by
    rw [Text.pieces_append_mark, Text.pieces_of_not_mem n.slash_not_mem, List.getLast?_append]
    rfl
  have alone (n : Name) : (Text.pieces '/' n.chars).getLast? = Option.some n.chars := by
    rw [Text.pieces_of_not_mem n.slash_not_mem]
    rfl
  have whole : (Text.pieces '/' p.chars).getLast? = Option.some (p.names.getLast some).chars := by
    conv => lhs; rw [← Path.child_parent some, Path.chars_child]
    by_cases none : p.parent.names = []
    · rw [if_pos none]
      cases p.parent.anchor with
      | here => exact alone _
      | root => exact last [] _
      | doubleRoot => exact last ['/'] _
    · rw [if_neg none, List.append_assoc]
      exact last _ _
  unfold lastPiece
  rw [Path.text, String.toList_ofList, whole]
  rfl

theorem walk_stay_cons :
    v.walk follow budget loc (.stay :: step :: steps) = v.walk follow budget loc (step :: steps) := by
  cases budget <;> rw [walk] <;> cases pass : v.passable loc <;>
    first
    | rw [walkWith_stay pass]
    | rw [walkWith_of_blocked pass, walkWith_of_blocked pass]

theorem within_of_slash {directory : String} (slash : directory.toList.getLast? = some '/')
    (name : List Char) : within directory name = directory ++ String.ofList name := by
  unfold within
  rw [slash]
  rfl

theorem within_of_ne {directory : String} {c : Char} (last : directory.toList.getLast? = some c)
    (plain : c ≠ '/') (name : List Char) :
    within directory name = directory ++ "/" ++ String.ofList name := by
  unfold within
  rw [last]
  split
  · next none => cases none
  · next slash => exact absurd (Option.some.inj slash) plain
  · rfl

/-- The spelling of a name in a directory is that of the path below it, but for the directory at
hand, whose dot is spelled out. -/
theorem within_text (q : Path) (n : Name) :
    within q.text n.chars = (q.child n).text ∨
      (q.child n).text = n.text ∧ within q.text n.chars = String.ofList ('.' :: '/' :: n.chars) := by
  by_cases none : q.names = []
  · cases anchor : q.anchor with
    | here =>
      have spelled : q.text = "." := by simp [Path.text, Path.chars, anchor, none]
      refine .inr ⟨?_, ?_⟩
      · rw [Path.text, Path.chars_child, if_pos none, anchor]
        simp [Anchor.text, Name.chars]
      · rw [spelled, within_of_ne (c := '.') (by decide) (by decide)]
        exact String.toList_injective (by simp)
    | root =>
      have spelled : q.text = "/" := by simp [Path.text, Path.chars, anchor, none, Anchor.text]
      refine .inl ?_
      rw [spelled, within_of_slash (by decide), Path.text, Path.chars_child, if_pos none, anchor]
      exact String.toList_injective (by simp [Anchor.text])
    | doubleRoot =>
      have spelled : q.text = "//" := by simp [Path.text, Path.chars, anchor, none, Anchor.text]
      refine .inl ?_
      rw [spelled, within_of_slash (by decide), Path.text, Path.chars_child, if_pos none, anchor]
      exact String.toList_injective (by simp [Anchor.text])
  · have spelled : q.text.toList = q.chars := String.toList_ofList
    have plain := Path.getLast?_chars_ne_slash none
    cases last : q.chars.getLast? with
    | none =>
      rw [List.getLast?_eq_none_iff] at last
      exact absurd (congrArg String.ofList last) (Path.text_ne_empty q)
    | some c =>
      rw [last] at plain
      refine .inl ?_
      rw [within_of_ne (spelled ▸ last) (fun slash => plain (congrArg some slash)), Path.text,
        Path.text, Path.chars_child, if_neg none]
      exact String.toList_injective (by simp)

/-- A dot before a name changes nothing about where it leads. -/
theorem find_of_dot (found : v.find cwd (String.ofList ('.' :: '/' :: n.chars)) = .ok (loc, e)) :
    v.find cwd n.text = .ok (loc, e) := by
  have dotted : Route.ofString (String.ofList ('.' :: '/' :: n.chars)) =
      ⟨false, [.stay, Step.ofName n]⟩ := by
    have parts : Text.pieces '/' ('.' :: '/' :: n.chars) = [['.'], n.chars] := by
      have cut := Text.pieces_append_mark '/' ['.'] n.chars
      rwa [Text.pieces_of_not_mem n.slash_not_mem] at cut
    have last : ('.' :: '/' :: n.chars).getLast? ≠ some '/' := by
      have named : n.chars ≠ [] := n.valid.1
      rw [List.getLast?_cons_cons, List.getLast?_cons_of_ne_nil named,
        List.getLast?_eq_some_getLast named]
      exact fun slash => n.slash_not_mem (Option.some.inj slash ▸ List.getLast_mem named)
    unfold Route.ofString
    rw [String.toList_ofList]
    dsimp only
    rw [if_neg last, parts, List.filterMap_cons_some (by rfl : Route.step? ['.'] = some .stay),
      List.filterMap_cons_some (Route.step?_chars n)]
    rfl
  have plain : Route.ofString n.text = ⟨false, [Step.ofName n]⟩ := by
    rw [← Path.text_of_name, Path.ofString_text]
    rfl
  rw [find_eq_ok_iff, locate_eq_ok_iff] at found ⊢
  obtain ⟨-, short, walked⟩ := found
  rw [dotted, walk_stay_cons] at walked
  rw [plain]
  refine ⟨Path.text_of_name n ▸ Path.text_ne_empty _, Nat.le_trans ?_ short, walked⟩
  have whole : String.ofList ('.' :: '/' :: n.chars) = "./" ++ n.text :=
    String.toList_injective (by simp [Name.chars])
  rw [whole, String.toList_append, Text.octets_append]
  exact Nat.le_add_left _ _

/-- The path below a directory under the name of another path. -/
theorem join_nameText (some : p.names ≠ []) (q : Path) :
    q.join (Path.ofString p.nameText) = q.child (p.names.getLast some) := by
  have named : p.nameText = (p.names.getLast some).text := by
    unfold Path.nameText Path.name?
    rw [List.getLast?_eq_some_getLast some]
  rw [named, Path.ofString_text_name]
  rfl

/-- What a copy into a directory is about is found below that directory. -/
theorem find_join_nameText (some : p.names ≠ [])
    (found : v.find cwd (within q.text (lastPiece p.text)) = .ok (loc, e)) :
    v.find cwd (q.join (Path.ofString p.nameText)).text = .ok (loc, e) := by
  rw [lastPiece_text some] at found
  rw [join_nameText some]
  obtain same | ⟨alone, dotted⟩ := within_text q (p.names.getLast some)
  · rwa [same] at found
  · rw [dotted] at found
    rw [alone]
    exact find_of_dot found

/-- Two spellings that lead to one file lead to the same entry. -/
theorem entry_of_isSameFile (same : v.isSameFile cwd a b = true) :
    ∃ x y e, v.find cwd a = .ok (x, e) ∧ v.find cwd b = .ok (y, e) := by
  unfold isSameFile at same
  split at same
  · next x i y j first second =>
    obtain rfl := beq_iff_eq.mp same
    exact ⟨x, y, _, first, second⟩
  · next x e y e' _ first second =>
    obtain rfl := beq_iff_eq.mp same
    have here := get?_of_locate (find_eq_ok_iff.mp first)
    have there := get?_of_locate (find_eq_ok_iff.mp second)
    cases here.symm.trans there
    exact ⟨x, x, e, first, second⟩
  · cases same

/-- The path under which a document is looked for when it has been brought to a destination: below
it, under the name that it had, if that is a directory. -/
def landing (v : Volume) (cwd : Loc) (built destination : Path) : Path :=
  if v.isDirectory cwd destination.text then destination.join (Path.ofString built.nameText)
  else destination

theorem isDirectory_of_names (none : p.names = []) (found : v.find cwd p.text = .ok (loc, e)) :
    ∃ mode, e = .directory mode := by
  obtain ⟨-, -, walked⟩ := locate_eq_ok_iff.mp (find_eq_ok_iff.mp found)
  rw [Path.ofString_text, Path.route, if_pos none] at walked
  have ends {expand place} (walked : v.walkWith true expand place [.stay] = .ok (.there loc e)) :
      ∃ mode, e = .directory mode := by
    have pass := passable_of_walkWith walked
    obtain ⟨mode, here, -⟩ := passable_eq_ok_iff.mp pass
    rw [walkWith_stay pass, walkWith, here] at walked
    cases walked
    exact ⟨mode, rfl⟩
  exact ends walked

theorem reading?_of_directory {path : String} {mode : Nat}
    (found : v.find cwd path = .ok (loc, .directory mode)) : v.reading? cwd path = none := by
  rw [Option.eq_none_iff_forall_ne_some]
  intro d held
  obtain ⟨loc', e, found', plain, -⟩ := find_of_read (reading?_eq_some_iff.mp held).1
  cases found.symm.trans found'
  exact plain mode rfl

variable {w : Volume} {built destination : Path}

theorem find_landing (some : built.names ≠ [])
    (found : w.find cwd (v.copyTarget cwd built.text destination.text) = .ok (loc, e)) :
    w.find cwd (v.landing cwd built destination).text = .ok (loc, e) := by
  unfold copyTarget at found
  unfold landing
  split
  · next directory =>
    rw [if_pos directory] at found
    exact find_join_nameText some found
  · next plain => rwa [if_neg plain] at found

theorem names_of_read (read : v.read cwd built.text = .ok bytes) : built.names ≠ [] := by
  intro none
  obtain ⟨loc, e, found, plain, -⟩ := find_of_read read
  obtain ⟨mode, rfl⟩ := isDirectory_of_names none found
  exact plain mode rfl

/-- Some data have come to a path, unless a device stands there, and nothing else has changed. -/
structure Lands (v w : Volume) (cwd : Loc) (p : Path) (d : FileData) : Prop where
  only : v.DiffersOnlyAt w cwd p.text
  there : (∃ loc e, v.find cwd p.text = .ok (loc, e) ∧ e.IsDevice) ∨
    ∃ loc id, w.find cwd p.text = .ok (loc, .file id) ∧ w.data? id = .some d

theorem Transfer.lands (some : built.names ≠ []) (numbered : v.Numbered)
    (transfer : Transfer v cwd (v.copyTarget cwd built.text destination.text) d w) :
    Lands v w cwd (v.landing cwd built destination) d := by
  constructor
  · intro l changed
    obtain ⟨place, e, found, there, file⟩ := transfer.differsOnlyAt numbered l changed
    exact ⟨place, e, find_landing some found, there, file⟩
  · obtain ⟨loc, e, found, device⟩ | ⟨loc, id, found, data⟩ := transfer.find_target
    · exact .inl ⟨loc, e, find_landing some found, device⟩
    · exact .inr ⟨loc, id, find_landing some found, data⟩

/-- A document that is at its destination already is read there. -/
theorem reading?_landing_of_isSameFile
    (same : v.isSameFile cwd built.text (v.copyTarget cwd built.text destination.text) = true) :
    v.reading? cwd (v.landing cwd built destination).text = v.reading? cwd built.text := by
  obtain ⟨x, y, e, source, target⟩ := entry_of_isSameFile same
  by_cases none : built.names = []
  · -- what is then built is a directory, and what it is one with is the destination
    obtain ⟨mode, rfl⟩ := isDirectory_of_names none source
    have directory : v.isDirectory cwd destination.text = true := by
      refine Classical.byContradiction fun plain => ?_
      unfold copyTarget at target
      rw [if_neg plain] at target
      exact plain (isDirectory_iff.mpr ⟨y, mode, target⟩)
    have nameless : Path.ofString built.nameText = ⟨.here, []⟩ := by
      unfold Path.nameText Path.name?
      rw [none]
      decide
    have here : v.landing cwd built destination = destination := by
      unfold landing
      rw [if_pos directory, nameless, Path.join]
      simp
    obtain ⟨loc, mode', found⟩ := isDirectory_iff.mp directory
    rw [here, reading?_of_directory source, reading?_of_directory found]
  · exact reading?_congr source (find_landing none target)

end Volume

variable {built destination : Path} {s s' : Session} {r : Except Fault Unit}

/-- A path that is not fit for the system, though no character ends it, is not looked at. -/
theorem place_of_unfit
    (unfit : ¬ (Volume.isClean built = true ∧ Volume.isClean destination = true))
    (noNul : Char.ofNat 0 ∉ built.text.toList) (noNul' : Char.ofNat 0 ∉ destination.text.toList)
    (placed : (place built destination).runOn s = (r, s')) :
    r = .error .loneSurrogate ∧ s' = s := by
  rw [runOn_place, if_neg fun clean => unfit (Bool.and_eq_true_iff.mp clean)] at placed
  cases placed
  refine ⟨congrArg Except.error ?_, rfl⟩
  by_cases clean : Volume.isClean built = true
  · rw [if_pos clean]
    exact Fault.unfit_of_noNul noNul' fun fit => unfit ⟨clean, Volume.isClean_iff.mpr fit⟩
  · rw [if_neg clean]
    exact Fault.unfit_of_noNul noNul fun fit => clean (Volume.isClean_iff.mpr fit)

/-- The desk with a device that keeps nothing. -/
def deviceDesk : Session :=
  Builder.desk.withVolume ((Builder.desk.host.volume.put [⟨"dev", by decide⟩] (.directory 0o755)).put
    [⟨"null", by decide⟩, ⟨"dev", by decide⟩] (.sink 0))

end TexBuild
