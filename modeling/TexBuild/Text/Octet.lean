import TexBuild.Text.Utf8

namespace TexBuild.Octet

/-- Octets as characters: each stands for its own number. -/
def ofBytes (bs : List UInt8) : List Char :=
  bs.map fun b => Char.ofNat b.toNat

/-- The octets that characters below 256 stand for. -/
def toBytes (cs : List Char) : List UInt8 :=
  cs.map fun c => c.toNat.toUInt8

/-- The octets of a text, as characters. -/
def ofText (s : String) : List Char :=
  ofBytes (Utf8.encode s.toList)

/-- The text that octets encode. -/
def toText (cs : List Char) : String :=
  String.ofList (Utf8.decode (toBytes cs))

@[simp] theorem toBytes_ofBytes (bs : List UInt8) : toBytes (ofBytes bs) = bs := by
  induction bs with
  | nil => rfl
  | cons b rest ih =>
    have valid : b.toNat.isValidChar := Or.inl (Nat.lt_trans b.toNat_lt (by decide))
    have back : (Char.ofNat b.toNat).toNat = b.toNat := by
      rw [Char.ofNat, dif_pos valid]
      rfl
    simpa [ofBytes, toBytes, back] using ih

end TexBuild.Octet
