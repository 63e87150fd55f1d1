import TexBuild.Path.Name
import TexBuild.Text.Lines

namespace TexBuild

/-- Where the reading of a path starts: at the directory at hand, at the root, or
at the root spelled with two slashes, which a system may give a meaning of its
own. -/
inductive Anchor where
  | here
  | root
  | doubleRoot
deriving DecidableEq, Repr

/-- The slashes that spell an anchor. -/
def Anchor.text : Anchor → List Char
  | .here => []
  | .root => ['/']
  | .doubleRoot => ['/', '/']

/-- A path in its reduced spelling: an anchor and names. Doubled slashes, single
dots and a slash at the end are gone; two dots stay, since what they mean depends
on the links before them. -/
structure Path where
  anchor : Anchor
  names : List Name
deriving DecidableEq

namespace Path

/-- The anchor that a spelling begins with: two slashes, but not more, are an
anchor of their own. -/
def anchorOf : List Char → Anchor
  | '/' :: '/' :: '/' :: _ => .root
  | '/' :: '/' :: _ => .doubleRoot
  | '/' :: _ => .root
  | _ => .here

/-- The path that a spelling denotes. -/
def ofChars (cs : List Char) : Path :=
  ⟨anchorOf cs, (Text.pieces '/' cs).filterMap Name.ofChars?⟩

/-- The path that a spelling denotes. -/
def ofString (s : String) : Path :=
  ofChars s.toList

/-- The reduced spelling; a path without any part is a single dot. -/
def chars (p : Path) : List Char :=
  match p.anchor, p.names with
  | .here, [] => ['.']
  | a, names => a.text ++ List.intercalate ['/'] (names.map Name.chars)

/-- The reduced spelling as a string. -/
def text (p : Path) : String :=
  String.ofList p.chars

instance : ToString Path := ⟨Path.text⟩

/-- The path does not depend on the directory at hand. -/
def IsAbsolute (p : Path) : Prop :=
  p.anchor ≠ .here

instance (p : Path) : Decidable p.IsAbsolute :=
  inferInstanceAs (Decidable (_ ≠ _))

/-- The last name of a path. -/
def name? (p : Path) : Option Name :=
  p.names.getLast?

/-- The text of the last name; nothing for a path without names. -/
def nameText (p : Path) : String :=
  match p.name? with
  | some n => n.text
  | none => ""

/-- The path without its last name. -/
def parent (p : Path) : Path :=
  { p with names := p.names.dropLast }

/-- The path one name further down. -/
def child (p : Path) (n : Name) : Path :=
  { p with names := p.names ++ [n] }

/-- A path read from a directory: an absolute one leaves the directory aside. -/
def join (p q : Path) : Path :=
  match q.anchor with
  | .here => { p with names := p.names ++ q.names }
  | _ => q

/-- The path with two dots taken by their spelling: each takes the name before it back, and
at the root none is left. -/
def flattened (p : Path) : Path :=
  { p with names := p.names.foldl (fun done n => if n = Name.up then done.dropLast else done ++ [n]) [] }

/-- What leads from `base` down to `p`, if `base` is a beginning of `p`. -/
def relativeTo? (p base : Path) : Option Path :=
  if p.anchor = base.anchor ∧ base.names.isPrefixOf p.names then
    some ⟨.here, p.names.drop base.names.length⟩
  else none

@[simp] theorem parent_child (p : Path) (n : Name) : (p.child n).parent = p := by
  simp [parent, child]

@[simp] theorem name?_child (p : Path) (n : Name) : (p.child n).name? = some n := by
  simp [name?, child]

@[simp] theorem isAbsolute_child {p : Path} {n : Name} :
    (p.child n).IsAbsolute ↔ p.IsAbsolute := Iff.rfl

@[simp] theorem isAbsolute_parent {p : Path} : p.parent.IsAbsolute ↔ p.IsAbsolute := Iff.rfl

/-- Whatever is read from an absolute directory is absolute. -/
theorem IsAbsolute.join {p : Path} (h : p.IsAbsolute) (q : Path) : (p.join q).IsAbsolute := by
  unfold Path.join
  split
  · exact h
  · next other => exact other

end Path

end TexBuild
