import TexBuild.Text.Alphabet

namespace TexBuild

/-- Why octets have no text: no mark tells the order in units of so many bits, an octet
at some place is no letter where only letters may stand, the encoding knows no
replacement for what is wrong, or it has no text at all. -/
inductive DecodeError where
  | noByteOrderMark (bits : Nat)
  | notAscii (octet : UInt8) (position : Nat)
  | strictOnly
  | empty
deriving DecidableEq

/-- A way in which octets stand for text: its names in plain form, the first of them
its own, and the text that octets stand for, with all replaced that stands for
nothing. -/
structure Encoding where
  name : String
  aliases : List String
  decode : List UInt8 → Except DecodeError (List Char)

namespace Encoding

/-- The character in place of what cannot be decoded. -/
def replacement : Char := Utf8.replacement

/-- The character of a number, if it is one. -/
def charOf (n : Nat) : Char :=
  if n.isValidChar then Char.ofNat n else replacement

/-- The encoding of an alphabet. -/
def ofAlphabet (a : Alphabet) : Encoding :=
  ⟨a.name, a.aliases, fun bs => .ok (a.decode bs)⟩

/-- What an octet begins: characters in so many further octets, and the state after
them; or nothing in so many further octets; or something that is cut short. -/
inductive Piece (σ : Type) where
  | text (cs : List Char) (more : Nat) (next : σ)
  | misfit (more : Nat)
  | short

/-- The text of octets that are read piece by piece. Every misfit is replaced, and
what is cut short is replaced as a whole. -/
def decodePieces {σ : Type} (read : σ → UInt8 → List UInt8 → Piece σ) : σ → List UInt8 → List Char
  | _, [] => []
  | s, b :: rest =>
    match read s b rest with
    | .text cs more next => cs ++ decodePieces read next (rest.drop more)
    | .misfit more => replacement :: decodePieces read s (rest.drop more)
    | .short => [replacement]
termination_by _ bs => bs.length
decreasing_by all_goals simp only [List.length_drop, List.length_cons]; omega

/-- An encoding that is read piece by piece from a state on. -/
def ofPieces {σ : Type} (name : String) (aliases : List String) (start : σ)
    (read : σ → UInt8 → List UInt8 → Piece σ) : Encoding :=
  ⟨name, aliases, fun bs => .ok (decodePieces read start bs)⟩

/-- One character. -/
def Piece.one {σ : Type} (s : σ) (c : Char) (more : Nat) : Piece σ :=
  .text [c] more s

/-- One character if there is one. -/
def Piece.ofOption {σ : Type} (s : σ) (c? : Option Char) (more : Nat) : Piece σ :=
  match c? with
  | some c => .one s c more
  | none => .misfit 0

/-- An encoding in which an octet below 128 stands for itself and another one begins a
piece. -/
def ofLeads (name : String) (aliases : List String) (read : UInt8 → List UInt8 → Piece Unit) : Encoding :=
  ofPieces name aliases () fun _ b rest =>
    if b.toNat < 0x80 then .one () (Char.ofNat b.toNat) 0 else read b rest

/-- A piece of two octets. -/
def twoOctets (char? : Nat → Nat → Option Char) (b : UInt8) : List UInt8 → Piece Unit
  | [] => .short
  | c :: _ => .ofOption () (char? b.toNat c.toNat) 1

/-- The name of an encoding in its plain form: small letters, and one low line for
everything between letters, digits and dots. -/
def plainName (cs : List Char) : List Char :=
  let keep (c : Char) : Bool := c.isAlphanum || c == '.'
  let pieces := cs.foldr (fun c (done : List (List Char) × Bool) =>
    if keep c then
      match done with
      | (piece :: rest, true) => ((c.toLower :: piece) :: rest, true)
      | (rest, _) => ([c.toLower] :: rest, true)
    else (done.1, false)) ([], false)
  List.intercalate ['_'] pieces.1

/-- A plain name stands for something of this name and these aliases. In an alias a
dot may stand for a low line. -/
def isNamed (plain : List Char) (name : String) (aliases : List String) : Bool :=
  String.ofList plain == name || aliases.contains (String.ofList plain) ||
    aliases.contains (String.ofList (plain.map fun c => if c = '.' then '_' else c))

end Encoding

end TexBuild
