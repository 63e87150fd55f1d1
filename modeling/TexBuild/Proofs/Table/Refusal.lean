import TexBuild.Proofs.Table.Evaluation

namespace TexBuild.Table

variable {α β : Type}

/-- A computation on a table that ends without a value does so for a reason that leaves a search
without candidates. -/
def Refuses (a : Except TableError α) : Prop :=
  ∀ e, a = .error e → Search.isTableRefusal (.table e) = true

theorem refuses_ok (x : α) : Refuses (.ok x : Except TableError α) := nofun

theorem refuses_error {e : TableError} (refusal : Search.isTableRefusal (.table e) = true) :
    Refuses (.error e : Except TableError α) := by
  rintro _ ⟨⟩
  exact refusal

theorem Refuses.bind {a : Except TableError α} {f : α → Except TableError β} (first : Refuses a)
    (next : ∀ x, Refuses (f x)) : Refuses (a >>= f) := by
  intro e failed
  cases a with
  | error e' =>
    cases failed
    exact first _ rfl
  | ok x => exact next x e failed

/-- To end only in refusals is kept by binds, so that it need not be shown case by case of the reading of
texts. -/
theorem respects_refuses : Respects fun _ a _ => Refuses a where
  value := refuses_ok
  refusal := refuses_error
  bind := Refuses.bind

variable {environment : Environment} {fuel : Nat}

theorem refuses_textValue (home : Spot) (path : List String) (t : String) :
    Refuses (textValue environment fuel home path t) :=
  (respects_refuses.related (Nat.le_refl fuel)).text home path t

/-- The member of a value at a spot with all references in it resolved. -/
def memberValue (environment : Environment) (fuel : Nat) (spot : Spot) :
    String × Node → Except TableError Node
  | (key, .word (.text t)) =>
    textValue environment fuel spot (key :: spot.path) t >>= resolve environment fuel
  | (key, x) => resolve environment fuel (⟨x, key :: spot.path⟩ :: spot)

theorem memberValue_text (spot : Spot) (key t : String) :
    memberValue environment fuel spot (key, .word (.text t)) =
      textValue environment fuel spot (key :: spot.path) t >>= resolve environment fuel := rfl

theorem memberValue_of_not_text {x : Node} (other : ∀ t, x = .word (.text t) → False) (spot : Spot)
    (key : String) :
    memberValue environment fuel spot (key, x) =
      resolve environment fuel (⟨x, key :: spot.path⟩ :: spot) := by
  rw [memberValue]
  exact other

/-- The members of a value are resolved one after another. -/
theorem resolveAll_cons (spot : Spot) (member : String × Node) (rest : List (String × Node)) :
    resolveAll environment (fuel + 1) spot (member :: rest) =
      memberValue environment fuel spot member >>= fun value =>
        resolveAll environment fuel spot rest >>= fun values => .ok (value :: values) := by
  obtain ⟨key, x⟩ := member
  by_cases text : ∃ t, x = .word (.text t)
  · obtain ⟨t, rfl⟩ := text
    rw [resolveAll, memberValue_text, bind_assoc]
    rfl
  · have other (t : String) (same : x = .word (.text t)) : False := text ⟨t, same⟩
    rw [resolveAll, memberValue_of_not_text other]
    · rfl
    · exact other

/-- What lies in a table is resolved or refused, however many steps may be taken. -/
theorem refuses_resolve (fuel : Nat) :
    (∀ spot, Refuses (resolve environment fuel spot)) ∧
      ∀ spot members, Refuses (resolveAll environment fuel spot members) := by
  induction fuel with
  | zero => exact ⟨fun _ => refuses_error rfl, fun _ _ => refuses_error rfl⟩
  | succ fuel within =>
    obtain ⟨one, all⟩ := within
    constructor
    · intro spot
      rw [resolve]
      split
      · exact refuses_ok _
      · exact (all _ _).bind fun _ => refuses_ok _
      · exact (all _ _).bind fun _ => refuses_ok _
    · intro spot members
      cases members with
      | nil => exact refuses_ok _
      | cons member rest =>
        rw [resolveAll_cons]
        refine Refuses.bind ?_ fun _ => (all _ _).bind fun _ => refuses_ok _
        unfold memberValue
        split
        · exact (refuses_textValue _ _ _).bind one
        · exact one _

end TexBuild.Table
