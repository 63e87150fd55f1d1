import TexBuild.Build.Compile
import TexBuild.Proofs.Path.Spelling

namespace TexBuild

/-- What is left of a name without its last suffix. A dot opens a suffix if something stands on either
side of it. Where there is no name, there is a stem all the same. -/
inductive IsStem : List Char → List Char → Prop
  | nameless : IsStem fallbackStem []
  | suffixed {stem ext : List Char} (before : stem ≠ []) (after : ext ≠ []) (plain : '.' ∉ ext) :
      IsStem stem (stem ++ '.' :: ext)
  | whole {name : List Char} (named : name ≠ [])
      (plain : ∀ stem ext : List Char, stem ≠ [] → ext ≠ [] → '.' ∉ ext → name ≠ stem ++ '.' :: ext) :
      IsStem name name

theorem IsStem.ne_nil {stem name : List Char} (left : IsStem stem name) : stem ≠ [] := by
  cases left with
  | nameless => decide
  | suffixed before _ _ => exact before
  | whole named _ => exact named

namespace Name
variable {n : Name} {stem ext : List Char}

theorem suffixLength_append (plain : '.' ∉ ext) : suffixLength (stem ++ '.' :: ext) = ext.length := by
  have each : ∀ c ∈ ext.reverse, (c != '.') = true := by
    intro c among
    have other : c ≠ '.' := fun dot => plain (dot ▸ List.mem_reverse.mp among)
    simpa using other
  rw [suffixLength, List.reverse_append, List.reverse_cons, List.append_assoc,
    List.takeWhile_append_of_pos each, List.singleton_append, List.takeWhile_cons_of_neg (by decide),
    List.append_nil, List.length_reverse]

/-- A dot with something on either side opens a suffix. -/
theorem stem_eq_of_chars (spelled : n.chars = stem ++ '.' :: ext) (before : stem ≠ [])
    (after : ext ≠ []) (plain : '.' ∉ ext) : n.stem = stem := by
  have size : suffixLength n.chars = ext.length := by rw [spelled, suffixLength_append plain]
  have some : 0 < stem.length := List.length_pos_iff.mpr before
  have more : 0 < ext.length := List.length_pos_iff.mpr after
  have whole : n.chars.length = stem.length + (ext.length + 1) := by rw [spelled]; simp
  unfold Name.stem
  dsimp only
  rw [size, if_neg (by omega), whole, Nat.add_sub_cancel, spelled, List.take_left]

theorem exists_suffix {cs : List Char} (dotted : suffixLength cs < cs.length) :
    ∃ stem ext, '.' ∉ ext ∧ ext.length = suffixLength cs ∧ cs = stem ++ '.' :: ext := by
  have parts : cs.reverse.takeWhile (· != '.') ++ cs.reverse.dropWhile (· != '.') = cs.reverse :=
    List.takeWhile_append_dropWhile
  have plain : '.' ∉ cs.reverse.takeWhile (· != '.') := fun dot =>
    absurd (List.all_eq_true.mp List.all_takeWhile _ dot) (by decide)
  cases rest : cs.reverse.dropWhile (· != '.') with
  | nil =>
    rw [rest, List.append_nil] at parts
    rw [suffixLength, parts, List.length_reverse] at dotted
    exact absurd dotted (Nat.lt_irrefl _)
  | cons c before =>
    have dot : c = '.' := by
      have first := List.head?_dropWhile_not (· != '.') cs.reverse
      rw [rest] at first
      simpa using first
    refine ⟨before.reverse, (cs.reverse.takeWhile (· != '.')).reverse, ?_, List.length_reverse, ?_⟩
    · rwa [List.mem_reverse]
    · rw [rest, dot] at parts
      calc cs = cs.reverse.reverse := (List.reverse_reverse cs).symm
        _ = (cs.reverse.takeWhile (· != '.') ++ '.' :: before).reverse := by rw [parts]
        _ = _ := by simp

/-- The stem of a name is what is left of it without its last suffix. -/
theorem isStem_stem (n : Name) : IsStem n.stem n.chars := by
  have named : n.chars ≠ [] := n.valid.1
  by_cases inner : suffixLength n.chars = 0 ∨ n.chars.length ≤ suffixLength n.chars + 1
  · have stem : n.stem = n.chars := if_pos inner
    rw [stem]
    refine .whole named fun stem ext before after plain spelled => ?_
    have some : 0 < stem.length := List.length_pos_iff.mpr before
    have more : 0 < ext.length := List.length_pos_iff.mpr after
    have length := congrArg List.length spelled
    rw [spelled, suffixLength_append plain, List.length_append, List.length_cons] at inner
    omega
  · obtain ⟨some, long⟩ := not_or.mp inner
    obtain ⟨stem, ext, plain, size, spelled⟩ := @exists_suffix n.chars (by omega)
    have length := congrArg List.length spelled
    rw [List.length_append, List.length_cons] at length
    have before : stem ≠ [] := List.length_pos_iff.mp (by omega)
    have after : ext ≠ [] := List.length_pos_iff.mp (by omega)
    rw [stem_eq_of_chars spelled before after plain, spelled]
    exact .suffixed before after plain

end Name

namespace Path

theorem join_ofString_text (d : Path) (n : Name) : d.join (ofString n.text) = d.child n := by
  rw [ofString_text_name]
  rfl

theorem nameText_child (d : Path) (n : Name) : (d.child n).nameText = n.text := by
  rw [nameText, name?_child]

theorem name?_eq_of_nameText {p q : Path} (same : q.nameText = p.nameText) : q.name? = p.name? := by
  have some (n : Name) : n.text ≠ "" := fun empty => n.valid.1 (by rw [empty]; rfl)
  unfold nameText at same
  cases last : p.name? with
  | none =>
    cases last' : q.name? with
    | none => rfl
    | some n =>
      rw [last, last'] at same
      exact absurd same (some n)
  | some m =>
    cases last' : q.name? with
    | none =>
      rw [last, last'] at same
      exact absurd same.symm (some m)
    | some n =>
      rw [last, last'] at same
      exact congrArg Option.some (Name.ext_chars (congrArg String.toList same))

end Path

variable {p q : Path} {n : Name}

theorem chars_artifactName_of_name (last : p.name? = some n) :
    (artifactName p).chars = n.stem ++ artifactSuffix := by
  rw [artifactName, last]
  exact String.toList_ofList

theorem exists_chars_artifactName (p : Path) :
    ∃ stem, IsStem stem p.nameText.toList ∧ (artifactName p).chars = stem ++ artifactSuffix := by
  unfold Path.nameText
  cases last : p.name? with
  | some n => exact ⟨n.stem, n.isStem_stem, chars_artifactName_of_name last⟩
  | none =>
    refine ⟨fallbackStem, .nameless, ?_⟩
    rw [artifactName, last]
    exact String.toList_ofList

theorem artifactName_congr (same : q.name? = p.name?) : artifactName q = artifactName p := by
  unfold artifactName
  rw [same]

/-- A document is its own document's namesake. -/
theorem artifactName_of_artifactName (last : q.name? = some (artifactName p)) :
    artifactName q = artifactName p := by
  obtain ⟨stem, left, spelled⟩ := exists_chars_artifactName p
  refine Name.ext_chars ?_
  rw [chars_artifactName_of_name last,
    Name.stem_eq_of_chars spelled left.ne_nil (by decide) (by decide), spelled]

/-- The name of the document of a source is a component of a path, made of the stem of the source and
the suffix of documents. From any directory it leads to what lies directly in it under this name. The
document of what has this name has the same name, and sources of one name have documents of one name.
In a build, the document has this name both where the engine leaves it, directly in the directory of the
engine, and where it is brought, directly beside the source. -/
theorem artifactName_is_component (p : Path) :
    let n := artifactName p
    (n.text ≠ "" ∧ '/' ∉ n.text.toList ∧ n.text ≠ "." ∧ n.text ≠ "..") ∧
      (∃ stem, IsStem stem p.nameText.toList ∧ stem ≠ [] ∧
        n.text.toList = stem ++ ['.', 'p', 'd', 'f']) ∧
      (∀ d : Path, (d.join (Path.ofString n.text)).nameText = n.text ∧
        (d.join (Path.ofString n.text)).parent = d) ∧
      artifactName (Path.ofString n.text) = n ∧
      (∀ q : Path, q.nameText = p.nameText → artifactName q = n) ∧
      ∀ directory : Path,
        let plan : Plan := ⟨p, directory⟩
        plan.artifact = directory.join (Path.ofString n.text) ∧
          plan.destination = p.parent.join (Path.ofString plan.artifact.nameText) ∧
          plan.artifact.nameText = n.text ∧ plan.destination.nameText = n.text ∧
          plan.artifact.parent = directory ∧ plan.destination.parent = p.parent := by
  intro n
  obtain ⟨stem, left, spelled⟩ := exists_chars_artifactName p
  have length : 5 ≤ n.text.toList.length := by
    have one : 0 < stem.length := List.length_pos_iff.mpr left.ne_nil
    have whole : n.text.toList.length = stem.length + 4 :=
      (congrArg List.length spelled).trans List.length_append
    omega
  have other {text : String} (short : text.toList.length < 5) : n.text ≠ text := by
    intro same
    rw [same] at length
    omega
  refine ⟨⟨other (by decide), n.valid.2.2, other (by decide), other (by decide)⟩,
    ⟨stem, left, left.ne_nil, spelled⟩, fun d => ?_, artifactName_of_artifactName (p := p) ?_,
    fun q same => artifactName_congr (Path.name?_eq_of_nameText same), fun directory => ?_⟩
  · rw [Path.join_ofString_text]
    exact ⟨Path.nameText_child d n, Path.parent_child d n⟩
  · rw [Path.ofString_text_name]
    rfl
  · intro plan
    have named : plan.artifact.nameText = n.text := Path.nameText_child directory n
    refine ⟨(Path.join_ofString_text directory n).symm, ?_, named, Path.nameText_child p.parent n,
      Path.parent_child directory n, Path.parent_child p.parent n⟩
    rw [named, Path.join_ofString_text]
    rfl

/-- Two sources of one name whose stem is a single dot. -/
theorem artifactName_is_component_dot :
    let p := Path.ofString "a//b/./..tex"
    let q := Path.ofString "/c/../..tex/."
    q.nameText = p.nameText ∧ artifactName q = artifactName p ∧ (artifactName p).text = "..pdf" ∧
      artifactName (Path.ofString "..pdf") = artifactName p := by
  intro p q
  have same : q.nameText = p.nameText := by decide
  have spelled : (artifactName p).text = "..pdf" := by decide
  obtain ⟨-, -, -, again, alike, -⟩ := artifactName_is_component p
  exact ⟨same, alike q same, spelled, spelled ▸ again⟩

end TexBuild
