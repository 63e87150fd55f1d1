import TexBuild.Proofs.Table.Refusal

namespace TexBuild.Table

variable {environment : Environment} {fuel needed : Nat} {spot value : Spot} {key t : String}
  {x y : Node} {fields : List (Word × Node)} {items : List Node}

@[simp] theorem Node.field?_cons_self {name : String} :
    (record ((.text name, x) :: fields)).field? name = some x := by
  simp [field?, isNamed, Word.inText?]

theorem Node.field?_cons_of_ne {name other : String} (apart : other ≠ name) :
    (record ((.text other, x) :: fields)).field? name = (record fields).field? name := by
  simp [field?, isNamed, Word.inText?, apart]

/-- A word is resolved to itself. -/
theorem resolve_word {w : Word} (here : spot.node = .word w)
    (found : resolve environment fuel spot = .ok y) : y = .word w := by
  cases fuel with
  | zero => cases found
  | succ fuel =>
    rw [resolve, here] at found
    cases found
    rfl

/-- A list is resolved to the list of what its items are resolved to, each under its number. -/
theorem resolve_list (here : spot.node = .list items)
    (found : resolve environment fuel spot = .ok y) :
    ∃ fuel' values, y = .list values ∧
      resolveAll environment fuel' spot (((List.range items.length).map toString).zip items) =
        .ok values := by
  cases fuel with
  | zero => cases found
  | succ fuel =>
    rw [resolve, here] at found
    obtain ⟨values, all, same⟩ := bind_eq_ok_iff.mp found
    cases same
    exact ⟨fuel, values, rfl, all⟩

/-- A record is resolved to one with the same keys and what its members are resolved to. -/
theorem resolve_record (here : spot.node = .record fields)
    (found : resolve environment fuel spot = .ok y) :
    ∃ fuel' values, y = .record ((fields.map (·.1)).zip values) ∧
      resolveAll environment fuel' spot (fields.map fun f => (f.1.inText?.getD "", f.2)) =
        .ok values := by
  cases fuel with
  | zero => cases found
  | succ fuel =>
    rw [resolve, here] at found
    obtain ⟨values, all, same⟩ := bind_eq_ok_iff.mp found
    cases same
    exact ⟨fuel, values, rfl, all⟩

theorem resolveAll_cons_eq_ok {member : String × Node} {rest : List (String × Node)}
    {values : List Node}
    (found : resolveAll environment fuel spot (member :: rest) = .ok values) :
    ∃ fuel' value others, values = value :: others ∧
      memberValue environment fuel' spot member = .ok value ∧
      resolveAll environment fuel' spot rest = .ok others := by
  cases fuel with
  | zero => cases found
  | succ fuel =>
    rw [resolveAll_cons] at found
    obtain ⟨value, one, found⟩ := bind_eq_ok_iff.mp found
    obtain ⟨others, all, same⟩ := bind_eq_ok_iff.mp found
    cases same
    exact ⟨fuel, value, others, rfl, one, all⟩

/-- Members that each have a value within so many steps all have one within as many more as there are
members. -/
theorem exists_resolveAll {members : List (String × Node)}
    (each : ∀ m ∈ members, ∀ fuel, needed ≤ fuel → ∃ y, memberValue environment fuel spot m = .ok y)
    (enough : members.length + needed ≤ fuel) :
    ∃ values, resolveAll environment (fuel + 1) spot members = .ok values := by
  induction members generalizing fuel with
  | nil => exact ⟨[], rfl⟩
  | cons member rest ih =>
    rw [List.length_cons] at enough
    obtain ⟨fuel, rfl⟩ := Nat.exists_eq_add_of_le' (show 1 ≤ fuel by omega)
    obtain ⟨value, one⟩ := each member (.head _) (fuel + 1) (by omega)
    obtain ⟨values, all⟩ :=
      ih (fun m among => each m (.tail _ among)) (show rest.length + needed ≤ fuel by omega)
    exact ⟨value :: values, by rw [resolveAll_cons, one, all]; rfl⟩

theorem exists_resolve_list (here : spot.node = .list items)
    (each : ∀ x ∈ items, ∀ key fuel, needed ≤ fuel →
      ∃ y, memberValue environment fuel spot (key, x) = .ok y)
    (enough : items.length + needed + 2 ≤ fuel) : ∃ y, resolve environment fuel spot = .ok y := by
  obtain ⟨fuel, rfl⟩ := Nat.exists_eq_add_of_le' (show 2 ≤ fuel by omega)
  let members := ((List.range items.length).map toString).zip items
  obtain ⟨values, all⟩ : ∃ values, resolveAll environment (fuel + 1) spot members = .ok values := by
    have length : members.length = items.length := by simp [members]
    refine exists_resolveAll (fun (key, x) among => ?_)
      (show members.length + needed ≤ fuel by omega)
    exact each x (List.of_mem_zip among).2 key
  refine ⟨.list values, ?_⟩
  rw [resolve, here]
  exact bind_eq_ok_iff.mpr ⟨values, all, rfl⟩

theorem exists_resolve_record (here : spot.node = .record fields)
    (each : ∀ f ∈ fields, ∀ fuel, needed ≤ fuel →
      ∃ y, memberValue environment fuel spot (f.1.inText?.getD "", f.2) = .ok y)
    (enough : fields.length + needed + 2 ≤ fuel) : ∃ y, resolve environment fuel spot = .ok y := by
  obtain ⟨fuel, rfl⟩ := Nat.exists_eq_add_of_le' (show 2 ≤ fuel by omega)
  let members := fields.map fun f => (f.1.inText?.getD "", f.2)
  obtain ⟨values, all⟩ : ∃ values, resolveAll environment (fuel + 1) spot members = .ok values := by
    have length : members.length = fields.length := List.length_map _
    refine exists_resolveAll (fun m among => ?_) (show members.length + needed ≤ fuel by omega)
    obtain ⟨f, member, rfl⟩ := List.mem_map.mp among
    exact each f member
  refine ⟨.record ((fields.map (·.1)).zip values), ?_⟩
  rw [resolve, here]
  exact bind_eq_ok_iff.mpr ⟨values, all, rfl⟩

/-- A text that is read as a word is resolved to it. -/
theorem exists_memberValue_text {w : Word} (here : value.node = .word w)
    (valued : textValue environment fuel spot (key :: spot.path) t = .ok value) :
    ∃ y, memberValue environment fuel spot (key, .word (.text t)) = .ok y := by
  cases fuel with
  | zero => cases valued
  | succ fuel =>
    refine ⟨.word w, ?_⟩
    rw [memberValue_text, valued]
    change resolve environment (fuel + 1) value = _
    rw [resolve, here]

end TexBuild.Table
