import TexBuild.Path.Artifact
import TexBuild.Proofs.Text.Pieces
import TexBuild.Volume.Canonical

namespace TexBuild

namespace Text

variable {cs ds : List Char}

theorem isFit_iff : isFit cs = true ↔ ∀ c ∈ cs, (CodePoint.ofChar c).isFit = true :=
  List.all_eq_true

@[simp] theorem isFit_append : isFit (cs ++ ds) = true ↔ isFit cs = true ∧ isFit ds = true := by
  rw [isFit, List.all_append, Bool.and_eq_true]
  rfl

/-- What is a part of a fit text is fit. -/
theorem isFit_of_subset (fit : isFit ds = true) (part : cs ⊆ ds) : isFit cs = true :=
  isFit_iff.mpr fun c inside => isFit_iff.mp fit c (part inside)

end Text

namespace Volume

variable {p : Path} {n : Name}

theorem isClean_iff_names : isClean p = true ↔ ∀ n ∈ p.names, Text.isFit n.chars = true :=
  List.all_eq_true

/-- A path is fit for the system if its spelling is. -/
theorem isClean_iff : isClean p = true ↔ Text.isFit p.text.toList = true := by
  rw [isClean_iff_names, Path.text, String.toList_ofList]
  unfold Path.chars
  split
  · next none =>
    rw [none]
    exact iff_of_true nofun (by decide)
  · have anchor : Text.isFit p.anchor.text = true := by cases p.anchor <;> decide
    have slash : (CodePoint.ofChar '/').isFit = true := by decide
    rw [Text.isFit_append, and_iff_right anchor]
    constructor
    · intro fit
      refine Text.isFit_iff.mpr fun c inside => ?_
      by_cases cut : c = '/'
      · rw [cut]
        exact slash
      · obtain ⟨_, among, there⟩ := (Text.mem_intercalate_iff cut).mp inside
        obtain ⟨n, named, rfl⟩ := List.mem_map.mp among
        exact Text.isFit_iff.mp (fit n named) c there
    · intro fit n named
      refine Text.isFit_of_subset fit fun c there => ?_
      have inside : c ≠ '/' := by
        rintro rfl
        exact n.valid.2.2 there
      exact (Text.mem_intercalate_iff inside).mpr ⟨_, List.mem_map_of_mem named, there⟩

theorem isClean_child :
    isClean (p.child n) = true ↔ isClean p = true ∧ Text.isFit n.chars = true := by
  simp [isClean_iff_names, Path.child, or_imp, forall_and]

theorem isClean_join {q : Path} (base : isClean p = true) (clean : isClean q = true) :
    isClean (p.join q) = true := by
  unfold Path.join
  split
  · rw [isClean_iff_names] at base clean ⊢
    exact fun n among => (List.mem_append.mp among).elim (base n) (clean n)
  · exact clean

theorem isClean_parent (clean : isClean p = true) : isClean p.parent = true := by
  rw [isClean_iff_names] at clean ⊢
  exact fun n among => clean n (List.dropLast_subset _ among)

/-- A spelling of a path that is fit for the system is fit itself. -/
theorem isFit_of_isClean {cs : List Char} (clean : isClean (Path.ofChars cs) = true) :
    Text.isFit cs = true := by
  refine Text.isFit_iff.mpr fun c inside => ?_
  by_cases plain : c = '/' ∨ c = '.'
  · obtain rfl | rfl := plain <;> decide
  rw [not_or] at plain
  obtain ⟨piece, among, there⟩ := Text.exists_mem_pieces inside plain.1
  have fit : piece ≠ [] ∧ piece ≠ ['.'] ∧ '/' ∉ piece := by
    refine ⟨List.ne_nil_of_mem there, fun dot => ?_, Text.mark_not_mem_piece among⟩
    rw [dot, List.mem_singleton] at there
    exact plain.2 there
  have named : Text.isFit piece = true := by
    rw [isClean_iff_names] at clean
    refine (congrArg (Text.isFit · = true) String.toList_ofList).mp
      (clean ⟨String.ofList piece, by simpa only [String.toList_ofList] using fit⟩ ?_)
    rw [Path.ofChars, List.mem_filterMap]
    exact ⟨piece, among, by rw [Name.ofChars?, dif_pos fit]⟩
  exact Text.isFit_iff.mp named c there

/-- The document of a source whose path is fit for the system has a name that is. -/
theorem isFit_artifactName (clean : isClean p = true) :
    Text.isFit (artifactName p).chars = true := by
  have suffix : Text.isFit artifactSuffix = true := by decide
  have fallback : Text.isFit fallbackStem = true := by decide
  unfold artifactName
  cases last : p.name? with
  | none => simp [Name.artifact, Name.chars, suffix, fallback]
  | some n =>
    obtain ⟨k, stem⟩ := n.stem_eq_take
    have named : Text.isFit n.stem = true := by
      rw [stem]
      exact Text.isFit_of_subset (isClean_iff_names.mp clean n (List.mem_of_getLast? last))
        (List.take_subset _ _)
    simp [Name.artifact, Name.chars, suffix, named]

end Volume

namespace Fault

/-- A text that the system does not take ends what needs it, and is no refusal. -/
theorem unfit_cases (text : String) : unfit text = .nulInText ∨ unfit text = .loneSurrogate := by
  unfold unfit
  split
  · exact .inl rfl
  · exact .inr rfl

theorem unfit_of_noNul {text : String} (noNul : Char.ofNat 0 ∉ text.toList)
    (bad : Text.isFit text.toList ≠ true) : unfit text = .loneSurrogate := by
  have whole : text.toList.filter (· != Char.ofNat 0) = text.toList :=
    List.filter_eq_self.mpr fun c inside => bne_iff_ne.mpr fun same => noNul (same ▸ inside)
  unfold unfit
  rw [whole]
  exact if_neg bad

@[simp] theorem isRefusal_unfit (text : String) : (unfit text).isRefusal = false := by
  obtain same | same := unfit_cases text <;> rw [same] <;> rfl

end Fault

end TexBuild
