import TexBuild.Proofs.Path.Clean
import TexBuild.Volume.Change

namespace TexBuild

/-- The step that a name of a path stands for. -/
def Step.ofName (n : Name) : Step :=
  if n = Name.up then .up else .down n

theorem Step.ofName_of_ne {n : Name} (h : n ≠ Name.up) : Step.ofName n = .down n :=
  if_neg h

theorem Name.slash_not_mem (n : Name) : '/' ∉ n.chars :=
  n.valid.2.2

theorem Route.step?_chars (n : Name) : Route.step? n.chars = some (Step.ofName n) := by
  have dot : n.chars ≠ ['.'] := n.valid.2.1
  unfold Route.step? Step.ofName
  rw [if_neg dot, Name.ofChars?_chars]
  by_cases up : n = Name.up
  · rw [if_pos up, if_pos (by rw [up]; decide)]
  · rw [if_neg up, if_neg fun same => up (Name.ext_chars (b := Name.up) (same.trans (by decide)))]
    rfl

namespace Path

/-- The steps of a path. -/
def steps (p : Path) : List Step :=
  p.names.map Step.ofName

@[simp] theorem steps_child (p : Path) (n : Name) : (p.child n).steps = p.steps ++ [Step.ofName n] := by
  simp [steps, child]

theorem steps_join {p q : Path} (relative : q.anchor = .here) :
    (p.join q).steps = p.steps ++ q.steps ∧ (p.join q).anchor = p.anchor := by
  unfold join
  rw [relative]
  exact ⟨List.map_append, rfl⟩

theorem join_of_isAbsolute {p q : Path} (absolute : q.IsAbsolute) : p.join q = q := by
  unfold join
  split
  · next here => exact absurd here absolute
  · rfl

/-- The steps of a path as the system takes them: one without names asks for a directory. -/
def route (p : Path) : List Step :=
  if p.names = [] then [.stay] else p.steps

theorem chars_of_names {p : Path} (some : p.names ≠ []) :
    p.chars = p.anchor.text ++ List.intercalate ['/'] (p.names.map Name.chars) := by
  unfold chars
  split
  · next none => exact absurd none some
  · rfl

/-- A name is spelled after a slash, unless it is the first. -/
theorem chars_child (p : Path) (n : Name) :
    (p.child n).chars =
      (if p.names = [] then p.anchor.text else p.chars ++ ['/']) ++ n.chars := by
  have more : (p.child n).names ≠ [] := by simp [child]
  rw [chars_of_names more]
  by_cases none : p.names = []
  · simp [child, none, List.intercalate_singleton]
  · rw [if_neg none, chars_of_names none]
    have several : p.names.map Name.chars ≠ [] := by simpa using none
    simp only [child, List.map_append, List.map_cons, List.map_nil,
      Text.intercalate_append_singleton several, List.append_assoc]

theorem child_parent {p : Path} (some : p.names ≠ []) :
    p.parent.child (p.names.getLast some) = p := by
  rw [child, parent, List.dropLast_concat_getLast]

theorem text_ne_empty (p : Path) : p.text ≠ "" := by
  have spelled : p.chars ≠ [] := by
    by_cases none : p.names = []
    · cases anchor : p.anchor <;> simp [chars, anchor, none, Anchor.text]
    · rw [← child_parent none, chars_child]
      exact List.append_ne_nil_of_right_ne_nil _ (p.names.getLast none).valid.1
  intro empty
  exact spelled (by simpa [text] using empty)

theorem getLast?_chars_ne_slash {p : Path} (some : p.names ≠ []) :
    p.chars.getLast? ≠ Option.some '/' := by
  rw [← child_parent some, chars_child]
  generalize p.names.getLast some = n
  have named : n.chars ≠ [] := n.valid.1
  rw [List.getLast?_append, List.getLast?_eq_some_getLast named, Option.some_or]
  intro slash
  exact n.slash_not_mem (Option.some.inj slash ▸ List.getLast_mem named)

theorem head?_intercalate_ne_slash {names : List Name} (some : names ≠ []) :
    (List.intercalate ['/'] (names.map Name.chars)).head? ≠ Option.some '/' := by
  obtain ⟨n, rest, rfl⟩ := List.exists_cons_of_ne_nil some
  have begins : ∃ more, List.intercalate ['/'] ((n :: rest).map Name.chars) = n.chars ++ more := by
    cases rest with
    | nil => exact ⟨[], by simp [List.intercalate_singleton]⟩
    | cons next rest =>
      exact ⟨_, List.intercalate_cons_cons.trans (List.append_assoc _ _ _)⟩
  obtain ⟨more, begins⟩ := begins
  have named : n.chars ≠ [] := n.valid.1
  rw [begins, List.head?_append, List.head?_eq_some_head named, Option.some_or]
  intro slash
  exact n.slash_not_mem (Option.some.inj slash ▸ List.head_mem named)

/-- A path is not longer than one that goes on from it. -/
theorem octets_text_le_child (p : Path) (n : Name) :
    Text.octets p.text.toList ≤ Text.octets (p.child n).text.toList := by
  unfold text
  rw [String.toList_ofList, String.toList_ofList, chars_child, Text.octets_append]
  by_cases none : p.names = []
  · rw [if_pos none]
    cases anchor : p.anchor with
    | here =>
      have dot : p.chars = ['.'] := by simp [chars, anchor, none]
      have one : Text.octets ['.'] = 1 := by decide
      rw [dot, one]
      exact Nat.le_add_left_of_le (Text.octets_pos n.valid.1)
    | _ =>
      have slashes : p.chars = p.anchor.text := by simp [chars, anchor, none]
      rw [slashes, anchor]
      exact Nat.le_add_right _ _
  · rw [if_neg none, Text.octets_append]
    omega

/-- The pieces of a spelling are the names of the path, behind an empty one for each slash before
them. -/
theorem pieces_chars_eq {p : Path} (some : p.names ≠ []) :
    Text.pieces '/' p.chars =
      List.replicate p.anchor.text.length [] ++ p.names.map Name.chars := by
  have parts : p.names.map Name.chars ≠ [] := by simpa using some
  have free : ∀ part ∈ p.names.map Name.chars, '/' ∉ part := by
    intro part member
    obtain ⟨n, -, rfl⟩ := List.mem_map.mp member
    exact n.slash_not_mem
  have body := Text.pieces_intercalate parts free
  have slash (cs : List Char) : Text.pieces '/' ('/' :: cs) = [] :: Text.pieces '/' cs := by
    rw [← List.nil_append ('/' :: cs), Text.pieces_append_mark, Text.pieces_nil,
      List.singleton_append]
  rw [chars_of_names some]
  cases p.anchor with
  | here => exact body
  | root => exact (slash _).trans (congrArg _ body)
  | doubleRoot => exact (slash _).trans (congrArg _ ((slash _).trans (congrArg _ body)))

theorem filterMap_pieces_chars {α : Type} {f : List Char → Option α} {g : Name → α} {p : Path}
    (some : p.names ≠ []) (blank : f [] = none) (named : ∀ n : Name, f n.chars = Option.some (g n)) :
    (Text.pieces '/' p.chars).filterMap f = p.names.map g := by
  have each : f ∘ Name.chars = Option.some ∘ g := funext named
  rw [pieces_chars_eq some, List.filterMap_append, List.filterMap_replicate_of_none blank,
    List.nil_append, List.filterMap_map, each, List.filterMap_eq_map]

theorem pieces_chars {p : Path} (some : p.names ≠ []) :
    (Text.pieces '/' p.chars).filterMap Route.step? = p.steps :=
  filterMap_pieces_chars some rfl Route.step?_chars

theorem head?_chars {p : Path} (some : p.names ≠ []) :
    p.chars.head? = Option.some '/' ↔ p.anchor ≠ .here := by
  rw [chars_of_names some]
  cases p.anchor with
  | here => exact iff_of_false (head?_intercalate_ne_slash some) fun other => other rfl
  | _ => exact iff_of_true rfl nofun

/-- The spelling of a path is followed by its steps. -/
theorem ofString_text (p : Path) : Route.ofString p.text = ⟨p.anchor ≠ .here, p.route⟩ := by
  unfold Route.ofString route
  rw [text, String.toList_ofList]
  dsimp only
  by_cases none : p.names = []
  · rw [if_pos none]
    cases anchor : p.anchor <;> simp [chars, anchor, none, Anchor.text] <;> decide
  · rw [if_neg none, if_neg (getLast?_chars_ne_slash none), pieces_chars none]
    simp only [head?_chars none]

theorem isAbsolute_ofString_iff {text : String} :
    (ofString text).IsAbsolute ↔ text.toList.head? = some '/' := by
  unfold ofString ofChars IsAbsolute
  generalize text.toList = cs
  unfold anchorOf
  split
  case h_4 other =>
    refine iff_of_false (fun here => here rfl) fun slash => ?_
    obtain ⟨rest, same⟩ := List.head?_eq_some_iff.mp slash
    exact other rest same
  all_goals exact iff_of_true nofun rfl

/-- An absolute path is followed from the root, from whatever directory. -/
theorem origin_of_isAbsolute {text : String} (absolute : (ofString text).IsAbsolute) (cwd : Loc) :
    (Route.ofString text).origin cwd = [] :=
  if_pos (decide_eq_true (isAbsolute_ofString_iff.mp absolute))

theorem isAbsolute_ofString_text (p : Path) : (ofString p.text).IsAbsolute ↔ p.IsAbsolute := by
  have same : decide (p.text.toList.head? = some '/') = decide (p.anchor ≠ .here) :=
    congrArg Route.fromRoot (ofString_text p)
  rw [isAbsolute_ofString_iff]
  exact decide_eq_decide.mp same

/-- An anchor is read back from its slashes. -/
theorem anchorOf_append (a : Anchor) {cs : List Char} (other : cs.head? ≠ some '/') :
    anchorOf (a.text ++ cs) = a := by
  cases cs with
  | nil => cases a <;> rfl
  | cons c cs =>
    have ne : c ≠ '/' := fun same => other (congrArg some same)
    cases a <;> simp [Anchor.text, anchorOf, ne]

/-- A path is read back from its spelling. -/
theorem ofString_text_self (p : Path) : ofString p.text = p := by
  rw [ofString, text, String.toList_ofList, ofChars]
  by_cases none : p.names = []
  · obtain ⟨anchor, names⟩ := p
    obtain rfl : names = [] := none
    cases anchor <;> decide
  · rw [filterMap_pieces_chars (g := id) none rfl Name.ofChars?_chars, List.map_id,
      chars_of_names none, anchorOf_append _ (head?_intercalate_ne_slash none)]

theorem text_of_name (n : Name) : (⟨.here, [n]⟩ : Path).text = n.text :=
  String.toList_injective (by simp [text, chars, Name.chars, Anchor.text])

/-- What a name spells is the path that has this name alone. -/
theorem ofString_text_name (n : Name) : ofString n.text = ⟨.here, [n]⟩ := by
  rw [← text_of_name, ofString_text_self]

theorem text_inj {p q : Path} : p.text = q.text ↔ p = q := by
  refine ⟨fun same => ?_, congrArg text⟩
  rw [← ofString_text_self p, same, ofString_text_self]

end Path

theorem Volume.isAbsolute_spell (loc : Loc) : (Volume.spell loc).IsAbsolute :=
  nofun

end TexBuild
