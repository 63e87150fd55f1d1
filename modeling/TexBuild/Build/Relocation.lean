import TexBuild.Session

namespace TexBuild

/-- A way to bring a document to its place. -/
abbrev Relocation := Path → Path → Act Unit

/-- Copies a document to its place, whatever is there; the one that was built
stays. A document that lies there already is left alone. A copy that is stopped may have changed
what is there. -/
def place : Relocation := fun built destination => do
  unless Volume.isClean built && Volume.isClean destination do
    throw (.unfit (if Volume.isClean built then destination else built).text)
  let h ← Act.host
  let (v, copied) := h.volume.copyFile h.medium h.cwd built.text destination.text
  Act.setVolume v
  match copied with
  | .ok _ => Act.tell (Notice.build .debug s!"Copied {built} -> {destination}")
  | .error .sameFile => Act.tell (Notice.build .debug s!"Artifact already at destination: {destination}")
  | .error (.refused cause) => throw (.relocation ⟨built, destination, cause⟩)

end TexBuild
