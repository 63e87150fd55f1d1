import TexBuild.Path.Basic

namespace TexBuild

/-- The suffix of the documents that an engine produces. -/
def artifactSuffix : List Char :=
  ['.', 'p', 'd', 'f']

/-- The stem of the document of a source that has no name. -/
def fallbackStem : List Char :=
  ['o', 'u', 't', 'p', 'u', 't']

theorem artifact_valid {stem : List Char} (h : '/' ∉ stem) :
    stem ++ artifactSuffix ≠ [] ∧ stem ++ artifactSuffix ≠ ['.'] ∧
      '/' ∉ stem ++ artifactSuffix := by
  refine ⟨by simp [artifactSuffix], fun one => ?_, by simp [artifactSuffix, h]⟩
  have length := congrArg List.length one
  simp [artifactSuffix] at length

/-- The name made of a stem and the suffix of documents. -/
def Name.artifact (stem : List Char) (h : '/' ∉ stem) : Name :=
  ⟨String.ofList (stem ++ artifactSuffix), by
    simpa only [String.toList_ofList] using artifact_valid h⟩

/-- The name of the document that a source gives: its own stem with the suffix of
documents, whatever directory it lies in. -/
def artifactName (source : Path) : Name :=
  match source.name? with
  | some n => Name.artifact n.stem n.slash_not_mem_stem
  | none => Name.artifact fallbackStem (by decide)

end TexBuild
