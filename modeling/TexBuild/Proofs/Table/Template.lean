import TexBuild.Proofs.Except
import TexBuild.Table.Locations

namespace TexBuild.Table

/-- What the entries of a table leave open: the home directory, and the name of the engine. -/
inductive Slot where
  | home
  | tool
deriving DecidableEq

namespace Slot

/-- The name of what belongs there. -/
def name : Slot → String
  | home => "home"
  | tool => "tool"

/-- A home directory and the name of an engine, each for its place. -/
def texts (home tool : String) : Slot → String
  | .home => home
  | .tool => tool

/-- The reference as a piece of a text. -/
def piece (s : Slot) : Piece :=
  .reference [.plain s.name.toList]

/-- The place for which a reference stands at the beginning of a text. -/
def at? : List Char → Option Slot
  | '$' :: '\x7b' :: rest => [home, tool].find? fun s => (s.name.toList ++ ['\x7d']).isPrefixOf rest
  | _ => none

end Slot

/-- A part of a template: a character as it is, or a place that is left open. -/
inductive Part where
  | char (c : Char)
  | slot (s : Slot)
deriving DecidableEq

/-- The parts of a template after so many characters of a reference. -/
def partsAfter : Nat → List Char → List Part
  | _, [] => []
  | skipped + 1, _ :: rest => partsAfter skipped rest
  | 0, c :: rest =>
    match Slot.at? (c :: rest) with
    | some s => .slot s :: partsAfter (s.name.length + 2) rest
    | none => .char c :: partsAfter 0 rest

/-- The parts of a template. -/
def parts (template : String) : List Part :=
  partsAfter 0 template.toList

/-- A part with a text in each place, whatever the text is. -/
def Part.fill (names : Slot → String) : Part → List Char
  | char c => [c]
  | slot s => (names s).toList

/-- A template with a text in each place. -/
def fill (names : Slot → String) (template : String) : String :=
  String.ofList ((parts template).flatMap (Part.fill names))

/-- The parts that a piece of a text stands for, if it refers to what is left open only. -/
def partsOf? : Piece → Option (List Part)
  | .plain cs => some (cs.map .char)
  | .reference [.plain cs] =>
    ([Slot.home, .tool].find? fun s => s.name.toList == cs).map fun s => [.slot s]
  | _ => none

/-- The entry is meant for a platform: its own begins the name of that one. -/
def Location.isFor (platform : String) (l : Location) : Bool :=
  l.platform.toList.isPrefixOf platform.toList

/-- The install paths of the packaged table for a platform, with a text in each place. -/
def located (platform : String) (names : Slot → String) : List Path :=
  (packaged.filter (Location.isFor platform)).map fun l => Path.ofString (fill names l.template)

/-- The packaged table with what is given for its places added at its top. -/
def givenTable (given : Slot → String) : Node :=
  .record [(.text "locations", .list (packaged.map Location.node)),
    (.text Slot.home.name, .word (.text (given .home))),
    (.text Slot.tool.name, .word (.text (given .tool)))]

theorem withNames_given {home tool : String} :
    withNames packagedNode home tool = (do
      Word.checkValue (.text home)
      Word.checkValue (.text tool)
      return givenTable (Slot.texts home tool)) := by
  simp [withNames, packagedNode, givenTable, setName, Node.setField, Node.isNamed, Word.inText?,
    Slot.name, Slot.texts]

/-- The names are added at the top of the packaged table, where there are none of theirs. -/
theorem eq_of_withNames {home tool : String} {table : Node}
    (named : withNames packagedNode home tool = .ok table) :
    table = givenTable (Slot.texts home tool) := by
  rw [withNames_given] at named
  obtain ⟨-, -, named⟩ := bind_eq_ok_iff.mp named
  obtain ⟨-, -, named⟩ := bind_eq_ok_iff.mp named
  exact (Except.ok.inj named).symm

theorem piece?_of_plain {t : String} (plain : hasReference t.toList = false) :
    piece? t.toList = some (.plain t.toList) :=
  if_neg (by simp [plain])

/-- An entry with a text in each place. -/
def Location.filled (names : Slot → String) (l : Location) : Location :=
  ⟨l.platform, fill names l.template⟩

/-- An entry without references in its platform, whose references in its path are the places that
are left open. -/
def Location.isTemplate (l : Location) : Bool :=
  !hasReference l.platform.toList &&
    match piece? l.template.toList with
    | some (.joined pieces) =>
      pieces.length ≤ 8 &&
        (pieces.mapM partsOf?).map List.flatten == some (parts l.template)
    | _ => false

/-- The entries of the packaged table refer to nothing but what is left open. -/
theorem isTemplate_packaged : ∀ l ∈ packaged, l.isTemplate = true := by
  decide +kernel

theorem Location.template_cases {l : Location} (isTemplate : l.isTemplate = true) :
    hasReference l.platform.toList = false ∧
      ∃ pieces ps, piece? l.template.toList = some (.joined pieces) ∧ pieces.length ≤ 8 ∧
        pieces.mapM partsOf? = some ps ∧ ps.flatten = parts l.template := by
  unfold Location.isTemplate at isTemplate
  obtain ⟨platform, template⟩ := Bool.and_eq_true_iff.mp isTemplate
  refine ⟨by simpa using platform, ?_⟩
  split at template
  · next pieces read =>
    obtain ⟨short, stands⟩ := Bool.and_eq_true_iff.mp template
    obtain ⟨ps, each, whole⟩ := Option.map_eq_some_iff.mp (beq_iff_eq.mp stands)
    exact ⟨pieces, ps, read, by simpa using short, each, whole⟩
  · cases template

/-- A piece of a template is plain, or the reference to a place that is left open. -/
theorem partsOf?_cases {piece : Piece} {ps : List Part} (stands : partsOf? piece = some ps) :
    (∃ cs, piece = .plain cs ∧ ps = cs.map .char) ∨
      ∃ s : Slot, piece = s.piece ∧ ps = [.slot s] := by
  unfold partsOf? at stands
  split at stands
  · exact .inl ⟨_, rfl, (Option.some.inj stands).symm⟩
  · next cs =>
    obtain ⟨s, found, rfl⟩ := Option.map_eq_some_iff.mp stands
    have named := List.find?_some found
    rw [beq_iff_eq] at named
    exact .inr ⟨s, by rw [Slot.piece, named], rfl⟩
  · cases stands

end TexBuild.Table
