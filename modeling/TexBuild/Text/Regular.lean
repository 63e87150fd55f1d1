namespace TexBuild

/-- A set of words: none, the empty one, those of one character of a class, and what
comes of setting words of two sets side by side, of either set, or of any number from
one set. -/
inductive Regular where
  | never
  | empty
  | one (p : Char → Bool)
  | next (a b : Regular)
  | either (a b : Regular)
  | many (a : Regular)

namespace Regular

/-- The empty word belongs to the set. -/
def hasEmpty : Regular → Bool
  | never | one _ => false
  | empty | many _ => true
  | next a b => a.hasEmpty && b.hasEmpty
  | either a b => a.hasEmpty || b.hasEmpty

/-- Words of two sets side by side, without sets that add nothing. -/
def followedBy : Regular → Regular → Regular
  | never, _ => never
  | empty, b => b
  | a, b => next a b

/-- Words of either set, without a set that has none. -/
def orElse : Regular → Regular → Regular
  | never, b => b
  | a, never => a
  | a, b => either a b

/-- What may follow a character at the beginning of a word of the set. -/
def after (c : Char) : Regular → Regular
  | never | empty => never
  | one p => if p c then empty else never
  | next a b =>
    let first := (a.after c).followedBy b
    if a.hasEmpty then first.orElse (b.after c) else first
  | either a b => (a.after c).orElse (b.after c)
  | many a => (a.after c).followedBy (many a)

/-- The word belongs to the set. -/
def accepts (r : Regular) (word : List Char) : Bool :=
  (word.foldl (fun r c => r.after c) r).hasEmpty

/-- The one word of one character. -/
def char (c : Char) : Regular :=
  one (· == c)

/-- The words of one of some characters. -/
def oneOf (cs : List Char) : Regular :=
  one cs.contains

/-- One word. -/
def word (s : String) : Regular :=
  s.toList.foldr (fun c r => (char c).followedBy r) empty

/-- One of some words. -/
def words (ss : List String) : Regular :=
  ss.foldr (fun s r => (word s).orElse r) never

/-- Sets side by side. -/
def row (rs : List Regular) : Regular :=
  rs.foldr followedBy empty

/-- Any of some sets. -/
def anyOf (rs : List Regular) : Regular :=
  rs.foldr orElse never

/-- A word of the set or none. -/
def optional (a : Regular) : Regular :=
  either a empty

/-- One or more words of the set. -/
def repeated (a : Regular) : Regular :=
  next a (many a)

@[simp] theorem hasEmpty_followedBy (a b : Regular) :
    (a.followedBy b).hasEmpty = (a.hasEmpty && b.hasEmpty) := by
  cases a <;> simp [followedBy, hasEmpty]

@[simp] theorem hasEmpty_orElse (a b : Regular) :
    (a.orElse b).hasEmpty = (a.hasEmpty || b.hasEmpty) := by
  cases a <;> cases b <;> simp [orElse, hasEmpty]

@[simp] theorem accepts_nil (r : Regular) : r.accepts [] = r.hasEmpty := rfl

end Regular

end TexBuild
