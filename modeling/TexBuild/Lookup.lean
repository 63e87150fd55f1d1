namespace TexBuild

variable {κ α : Type} [BEq κ] [LawfulBEq κ]

/-- The pairs without those of one key. -/
def eraseKey (k : κ) (pairs : List (κ × α)) : List (κ × α) :=
  pairs.filter (fun p => p.1 != k)

/-- The pairs with one value for a key and no other. -/
def insertKey (k : κ) (a : α) (pairs : List (κ × α)) : List (κ × α) :=
  (k, a) :: eraseKey k pairs

@[simp] theorem lookup_insertKey_self (k : κ) (a : α) (pairs : List (κ × α)) :
    (insertKey k a pairs).lookup k = some a := by
  simp [insertKey]

@[simp] theorem lookup_eraseKey_self (k : κ) (pairs : List (κ × α)) :
    (eraseKey k pairs).lookup k = none := by
  induction pairs with
  | nil => rfl
  | cons p rest ih =>
    obtain ⟨other, a⟩ := p
    by_cases same : other = k
    · simpa [eraseKey, same] using ih
    · have apart : (k == other) = false := by simpa using fun e : k = other => same e.symm
      have ih' : (rest.filter (fun p => p.1 != k)).lookup k = none := ih
      simp [eraseKey, same, List.lookup_cons, apart, ih']

@[simp] theorem insertKey_insertKey (k : κ) (a b : α) (pairs : List (κ × α)) :
    insertKey k a (insertKey k b pairs) = insertKey k a pairs := by
  simp [insertKey, eraseKey, List.filter_filter]

theorem lookup_eraseKey_of_ne {k other : κ} (h : other ≠ k) (pairs : List (κ × α)) :
    (eraseKey k pairs).lookup other = pairs.lookup other := by
  induction pairs with
  | nil => rfl
  | cons p rest ih =>
    obtain ⟨name, a⟩ := p
    have ih' : (rest.filter (fun p => p.1 != k)).lookup other = rest.lookup other := ih
    by_cases same : name = k
    · subst same
      have apart : (other == name) = false := by simpa using h
      simp [eraseKey, List.lookup_cons, apart, ih']
    · by_cases here : other = name
      · subst here; simp [eraseKey, same]
      · have apart : (other == name) = false := by simpa using here
        simp [eraseKey, same, List.lookup_cons, apart, ih']

theorem lookup_insertKey_of_ne {k other : κ} (h : other ≠ k) (a : α) (pairs : List (κ × α)) :
    (insertKey k a pairs).lookup other = pairs.lookup other := by
  have apart : (other == k) = false := by simpa using h
  simp [insertKey, List.lookup_cons, apart, lookup_eraseKey_of_ne h]

end TexBuild
