import TexBuild.Proofs.Text.Occurrence

namespace TexBuild

/-- The combining dot that a dotted capital I leaves over its small letter. -/
def combiningDot : Char := Char.ofNat 0x307

/-- The small i without a dot. -/
def dotlessSmallI : Char := Char.ofNat 0x131

section Letters

variable {c p : Char}

theorem smallForm_dottedCapitalI : smallForm dottedCapitalI = ['i', combiningDot] := rfl

theorem smallForm_of_ne (other : c ≠ dottedCapitalI) : smallForm c = [smallLetter c] :=
  if_neg other

/-- Where the small letter of a character comes from. -/
theorem smallLetter_cases (c : Char) :
    smallLetter c = c ∨
      (0x41 ≤ c.toNat ∧ c.toNat ≤ 0x5A ∧ smallLetter c = Char.ofNat (c.toNat + 32)) ∨
      (c = dottedCapitalI ∧ smallLetter c = 'i') ∨
      ∃ r ∈ CapitalRun.all, r.Covers c.toNat ∧
        smallLetter c = Char.ofNat ((c.toNat : Int) + r.shift).toNat := by
  by_cases ascii : c.toNat < 0x80
  · by_cases capital : 0x41 ≤ c.toNat ∧ c.toNat ≤ 0x5A
    · exact .inr (.inl ⟨capital.1, capital.2, by simp only [smallLetter, if_pos ascii, if_pos capital]⟩)
    · exact .inl (by simp only [smallLetter, if_pos ascii, if_neg capital])
  by_cases dotted : c = dottedCapitalI
  · exact .inr (.inr (.inl ⟨dotted, by simp only [smallLetter, if_neg ascii, if_pos dotted]⟩))
  cases found : CapitalRun.all.find? (fun r => r.Covers c.toNat) with
  | none => exact .inl (by simp only [smallLetter, if_neg ascii, if_neg dotted, found])
  | some r =>
    refine .inr (.inr (.inr ⟨r, List.mem_of_find?_eq_some found, ?_, ?_⟩))
    · simpa using List.find?_some found
    · simp only [smallLetter, if_neg ascii, if_neg dotted, found]

theorem toNat_of_ofNat_eq {n : Nat} (same : Char.ofNat n = c) (some : c.toNat ≠ 0) : n = c.toNat := by
  subst same
  by_cases valid : n.isValidChar
  · rw [Char.ofNat, dif_pos valid]
    rfl
  -- A number that is no code point gives the null character.
  · rw [Char.ofNat, dif_neg valid] at some
    exact absurd rfl some

/-- A character that no run of capitals reaches is the small letter of itself only. -/
theorem eq_of_smallLetter_eq
    (missed : ∀ r ∈ CapitalRun.all,
      ¬ ((r.first : Int) + r.shift ≤ p.toNat ∧ (p.toNat : Int) ≤ r.last + r.shift))
    (outside : p.toNat < 0x61 ∨ 0x7A < p.toNat) (some : p.toNat ≠ 0) (small : smallLetter c = p) :
    c = p := by
  obtain same | ⟨above, below, same⟩ | ⟨-, same⟩ | ⟨r, listed, ⟨above, below, -⟩, same⟩ :=
    smallLetter_cases c
  · exact same.symm.trans small
  · have code := toNat_of_ofNat_eq (same.symm.trans small) some
    omega
  · rw [← small, same] at outside
    exact absurd outside (by decide)
  · have code := toNat_of_ofNat_eq (same.symm.trans small) some
    exact absurd ⟨by omega, by omega⟩ (missed r listed)

theorem smallLetter_eq_dotlessSmallI_iff : smallLetter c = dotlessSmallI ↔ c = dotlessSmallI := by
  constructor
  · exact eq_of_smallLetter_eq (by decide +kernel) (.inr (by decide)) (by decide)
  · rintro rfl
    decide +kernel

/-- A character lowers to a letter that is its whole small form. -/
def LowersTo (p c : Char) : Prop :=
  smallForm c = [p]

instance : DecidableRel LowersTo := fun p c =>
  inferInstanceAs (Decidable (smallForm c = [p]))

theorem lowersTo_iff :
    LowersTo p c ↔ c ≠ dottedCapitalI ∧ smallLetter c = p := by
  by_cases dotted : c = dottedCapitalI
  · subst dotted
    simp [LowersTo, smallForm_dottedCapitalI]
  · simp [LowersTo, smallForm_of_ne dotted, dotted]

theorem eq_colon_of_lowersTo (lowers : LowersTo ':' c) : c = ':' :=
  eq_of_smallLetter_eq (by decide +kernel) (.inl (by decide)) (by decide) (lowersTo_iff.mp lowers).2

/-- A character reads as a small letter when case is ignored by its small form, and as an i also
with the dot of the capital or without that of the small letter. -/
def ReadsAs (p c : Char) : Prop :=
  LowersTo p c ∨ p = 'i' ∧ (c = dottedCapitalI ∨ c = dotlessSmallI)

instance : DecidableRel ReadsAs := fun _ _ =>
  inferInstanceAs (Decidable (_ ∨ _ ∧ (_ ∨ _)))

/-- Which characters count as one of the small letters of ASCII but the s, which has another form. -/
theorem sameLetter_iff_readsAs (ascii : p.toNat < 0x80) (small : smallLetter p = p) (other : p ≠ 's') :
    sameLetter p c = true ↔ ReadsAs p c := by
  have rows : ∀ row ∈ letterVariants, ∀ m ∈ row, m < 0x80 → m = 0x73 ∨ m = 0x69 ∧ row = [0x69, 0x131] := by
    decide
  have split : smallLetter c = p ↔ LowersTo p c ∨ p = 'i' ∧ c = dottedCapitalI := by
    rw [lowersTo_iff]
    by_cases dotted : c = dottedCapitalI
    · subst dotted
      have letter : smallLetter dottedCapitalI = 'i' := by decide +kernel
      simp [letter, eq_comm]
    · simp [dotted]
  have variant : (∃ row ∈ letterVariants, p.toNat ∈ row ∧ (smallLetter c).toNat ∈ row) ↔
      p = 'i' ∧ (smallLetter c = 'i' ∨ smallLetter c = dotlessSmallI) := by
    constructor
    · rintro ⟨row, listed, member, member'⟩
      obtain isS | ⟨isI, rfl⟩ := rows row listed p.toNat member ascii
      · exact absurd (Char.toNat_inj.mp (isS.trans rfl)) other
      · refine ⟨Char.toNat_inj.mp isI, ?_⟩
        simpa [← Char.toNat_inj, dotlessSmallI] using member'
    · rintro ⟨rfl, same | same⟩
      · exact ⟨[0x69, 0x131], by decide, by decide, by rw [same]; decide⟩
      · exact ⟨[0x69, 0x131], by decide, by decide, by rw [same]; decide⟩
  rw [ReadsAs, ← smallLetter_eq_dotlessSmallI_iff (c := c)]
  simp only [sameLetter, small, Bool.or_eq_true, beq_iff_eq, List.any_eq_true, Bool.and_eq_true,
    List.contains_iff_mem, variant, @eq_comm _ p (smallLetter c), split]
  constructor
  · rintro ((plain | ⟨isI, dotted⟩) | ⟨isI, same | dotless⟩)
    · exact .inl plain
    · exact .inr ⟨isI, .inl dotted⟩
    · subst isI
      obtain plain | ⟨-, dotted⟩ := split.mp same
      · exact .inl plain
      · exact .inr ⟨rfl, .inl dotted⟩
    · exact .inr ⟨isI, .inr dotless⟩
  · rintro (plain | ⟨isI, dotted | dotless⟩)
    · exact .inl (.inl plain)
    · exact .inl (.inr ⟨isI, dotted⟩)
    · exact .inr ⟨isI, .inr dotless⟩

end Letters

namespace Text

variable {token line small : List Char}

theorem lowered_cons (c : Char) (cs : List Char) : lowered (c :: cs) = smallForm c ++ lowered cs :=
  List.flatMap_cons

theorem lowered_append (cs ds : List Char) : lowered (cs ++ ds) = lowered cs ++ lowered ds :=
  List.flatMap_append

/-- A token that no character lowers to a part of: it has no combining dot, and the i is not its
last letter. -/
structure IsWhole (token : List Char) : Prop where
  dotless : combiningDot ∉ token
  closed : token.getLast? ≠ some 'i'

theorem IsWhole.tail {p : Char} (whole : IsWhole (p :: token)) : IsWhole token := by
  refine ⟨fun dot => whole.dotless (.tail _ dot), fun last => ?_⟩
  cases token with
  | nil => cases last
  | cons q qs => exact whole.closed (List.getLast?_cons_cons.trans last)

theorem prefix_lowered_iff (whole : IsWhole token) :
    token <+: lowered line ↔ StandsAt LowersTo token line 0 := by
  unfold StandsAt
  rw [List.drop_zero]
  induction token generalizing line with
  | nil => simp
  | cons p ps ih =>
    cases line with
    | nil => simp [lowered]
    | cons c cs =>
      rw [lowered_cons, List.length_cons, List.take_succ_cons, List.forall₂_cons]
      by_cases dotted : c = dottedCapitalI
      · subst dotted
        rw [smallForm_dottedCapitalI, lowersTo_iff]
        refine iff_of_false (fun begins => ?_) fun stands => stands.1.1 rfl
        obtain ⟨rfl, dot⟩ := List.cons_prefix_cons.mp begins
        cases ps with
        | nil => exact whole.closed rfl
        | cons q qs => exact whole.dotless (.tail _ ((List.cons_prefix_cons.mp dot).1 ▸ .head _))
      · rw [smallForm_of_ne dotted, List.singleton_append, List.cons_prefix_cons, ih whole.tail,
          lowersTo_iff, @eq_comm _ p, and_iff_right dotted]

/-- A token is held by the small letters of a line exactly if it stands somewhere in the line. -/
theorem infix_lowered_iff (whole : IsWhole token) (some : token ≠ []) :
    token <:+: lowered line ↔ ∃ k, StandsAt LowersTo token line k := by
  induction line with
  | nil => simp [lowered, StandsAt, some]
  | cons c cs ih =>
    rw [exists_standsAt_cons, ← prefix_lowered_iff whole, ← ih, lowered_cons]
    by_cases dotted : c = dottedCapitalI
    · have apart : ¬ token <+: combiningDot :: lowered cs := by
        rintro ⟨rest, same⟩
        cases token with
        | nil => exact some rfl
        | cons p ps => exact whole.dotless ((List.cons.inj same).1 ▸ .head _)
      rw [dotted, smallForm_dottedCapitalI, List.cons_append, List.singleton_append,
        List.infix_cons_iff, List.infix_cons_iff, or_iff_right apart]
    · rw [smallForm_of_ne dotted, List.singleton_append, List.infix_cons_iff]

/-- The letter with the form of a small sigma at the end of a word taken for the other form. -/
def plainSigma (c : Char) : Char :=
  if c = 'ς' then 'σ' else c

/-- The text in small letters, some of its sigmas in the form for the end of a word. -/
def IsLowered (line small : List Char) : Prop :=
  small.map plainSigma = (lowered line).map plainSigma

theorem infix_iff_of_isLowered (lower : IsLowered line small) (final : 'ς' ∉ token)
    (other : 'σ' ∉ token) : token <:+: small ↔ token <:+: lowered line := by
  have fixed : ∀ p ∈ token, ∀ c, plainSigma c = p ↔ c = p := by
    intro p member c
    have notFinal : p ≠ 'ς' := fun same => final (same ▸ member)
    have notOther : p ≠ 'σ' := fun same => other (same ▸ member)
    unfold plainSigma
    split
    · next sigma => rw [sigma]; exact iff_of_false notOther.symm notFinal.symm
    · rfl
  rw [← infix_map_iff fixed small, lower, infix_map_iff fixed]

end Text

end TexBuild
