import TexBuild.Proofs.Table.Reading
import TexBuild.Proofs.Table.Resolved

namespace TexBuild.Table

variable {environment : Environment} {fuel steps : Nat} {given names : Slot → String} {s : Slot}
  {spot : Spot} {path : List String} {key : String} {piece : Piece} {ps : List Part} {value : Spot}
  {y : Node} {l : Location}

/-- A text is that of some parts with names in their places, which are read so. -/
def Fills (environment : Environment) (given names : Slot → String) (ps : List Part)
    (text : String) : Prop :=
  text.toList = ps.flatMap (Part.fill names) ∧
    ∀ s, .slot s ∈ ps → Reads environment given s (names s)

theorem fills_of_pieceValue {text : String} (outer : spot.base 0 = top given)
    (agrees : Agrees environment given names) (stands : partsOf? piece = some ps)
    (found : pieceValue environment fuel spot path piece = .ok value)
    (shown : value.node.inText? = some text) : Fills environment given names ps text := by
  obtain ⟨cs, rfl, rfl⟩ | ⟨s, rfl, rfl⟩ := partsOf?_cases stands
  · cases fuel with
    | zero => cases found
    | succ fuel =>
      cases found
      cases shown
      constructor
      · rw [String.toList_ofList, List.flatMap_map]
        exact (List.flatMap_singleton' cs).symm
      · simp
  · have reads := reads_of_pieceValue outer found shown
    have same := agrees s text reads
    constructor
    · simp [Part.fill, same]
    · intro s' here
      cases List.mem_singleton.mp here
      exact same ▸ reads

/-- The texts of the pieces of a template are together the template with names in its places. -/
theorem fills_of_pieceTexts {pieces : List Piece} {parted : List (List Part)} {texts : List String}
    (outer : spot.base 0 = top given) (agrees : Agrees environment given names)
    (stands : pieces.mapM partsOf? = some parted)
    (found : pieceTexts environment fuel spot path pieces = .ok texts) :
    Fills environment given names parted.flatten (String.join texts) := by
  induction pieces generalizing fuel parted texts with
  | nil =>
    cases fuel with
    | zero => cases found
    | succ fuel =>
      cases found
      cases stands
      exact ⟨rfl, nofun⟩
  | cons piece rest ih =>
    rw [List.mapM_cons] at stands
    obtain ⟨ps, one, stands⟩ := Option.bind_eq_some_iff.mp stands
    obtain ⟨others, all, same⟩ := Option.bind_eq_some_iff.mp stands
    cases same
    cases fuel with
    | zero => cases found
    | succ fuel =>
      obtain ⟨value, valued, found⟩ := bind_eq_ok_iff.mp found
      split at found
      · next text shown =>
        obtain ⟨rest, later, same⟩ := bind_eq_ok_iff.mp found
        cases same
        obtain ⟨first, firstReads⟩ := fills_of_pieceValue outer agrees one valued shown
        obtain ⟨second, secondReads⟩ := ih all later
        constructor
        · rw [String.join_cons, String.toList_append, first, second, List.flatten_cons,
            List.flatMap_append]
        · intro s here
          rw [List.flatten_cons, List.mem_append] at here
          exact here.elim (firstReads s) (secondReads s)
      · cases found

/-- The text of an entry's path becomes the template with names in its places. -/
theorem fills_of_textValue (outer : spot.base 0 = top given)
    (agrees : Agrees environment given names) (template : l.isTemplate = true)
    (found : textValue environment fuel spot path l.template = .ok value) :
    value.node = .word (.text (fill names l.template)) ∧
      ∀ s, .slot s ∈ parts l.template → Reads environment given s (names s) := by
  obtain ⟨-, pieces, parted, read, -, stands, whole⟩ := Location.template_cases template
  cases fuel with
  | zero => cases found
  | succ fuel =>
    rw [textValue_of_piece read (fun _ => nofun)] at found
    cases fuel with
    | zero => cases found
    | succ fuel =>
      obtain ⟨texts, valued, same⟩ := bind_eq_ok_iff.mp found
      cases same
      obtain ⟨filled, reads⟩ := fills_of_pieceTexts outer agrees stands valued
      rw [whole] at filled reads
      refine ⟨?_, reads⟩
      rw [fill, ← filled, String.ofList_toList]
      rfl

theorem filled_of_memberValue {level : Level} (agrees : Agrees environment given names)
    (template : l.isTemplate = true)
    (found : memberValue environment fuel (level :: top given) (key, l.node) = .ok y) :
    y = (l.filled names).node ∧
      ∀ s, .slot s ∈ parts l.template → Reads environment given s (names s) := by
  obtain ⟨plain, -⟩ := Location.template_cases template
  rw [memberValue_of_not_text (by nofun)] at found
  obtain ⟨_, values, rfl, all⟩ := resolve_record rfl found
  obtain ⟨fuel', first, others, rfl, one, all⟩ := resolveAll_cons_eq_ok all
  obtain ⟨_, second, others, rfl, two, all⟩ := resolveAll_cons_eq_ok all
  obtain ⟨start, started, one⟩ := bind_eq_ok_iff.mp one
  obtain ⟨place, placed, two⟩ := bind_eq_ok_iff.mp two
  obtain ⟨here, reads⟩ := fills_of_textValue rfl agrees template placed
  cases eq_of_textValue_of_plain plain started
  cases resolve_word rfl one
  cases resolve_word here two
  exact ⟨rfl, reads⟩

theorem filled_of_resolveAll {level : Level} {locations : List Location} {numbers : List String}
    {values : List Node} (agrees : Agrees environment given names)
    (templates : ∀ l ∈ locations, l.isTemplate = true) (long : numbers.length = locations.length)
    (found : resolveAll environment fuel (level :: top given)
      (numbers.zip (locations.map Location.node)) = .ok values) :
    values = locations.map (fun l => (l.filled names).node) ∧
      ∀ l ∈ locations, ∀ s, .slot s ∈ parts l.template → Reads environment given s (names s) := by
  induction locations generalizing numbers fuel values with
  | nil =>
    rw [List.map_nil, List.zip_nil_right] at found
    cases fuel with
    | zero => cases found
    | succ fuel =>
      cases found
      exact ⟨rfl, nofun⟩
  | cons l rest ih =>
    cases numbers with
    | nil => cases long
    | cons number numbers =>
      rw [List.map_cons, List.zip_cons_cons] at found
      obtain ⟨_, value, others, rfl, one, all⟩ := resolveAll_cons_eq_ok found
      obtain ⟨rfl, reads⟩ := filled_of_memberValue agrees (templates l (.head _)) one
      obtain ⟨rfl, later⟩ :=
        ih (fun l among => templates l (.tail _ among)) (Nat.succ.inj long) all
      exact ⟨rfl, List.forall_mem_cons.mpr ⟨reads, later⟩⟩

/-- In the resolved table every entry has names in its places, both of which are read. -/
theorem entries_of_resolve (agrees : Agrees environment given names)
    (found : resolve environment fuel (top given) = .ok y) :
    entries y = .ok (packaged.map fun l => (l.filled names).node) ∧
      ∀ s, Reads environment given s (names s) := by
  obtain ⟨_, values, rfl, all⟩ := resolve_record rfl found
  obtain ⟨_, value, others, rfl, one, -⟩ := resolveAll_cons_eq_ok all
  rw [memberValue_of_not_text (by nofun)] at one
  obtain ⟨_, values, rfl, each⟩ := resolve_list rfl one
  obtain ⟨rfl, reads⟩ := filled_of_resolveAll agrees isTemplate_packaged (by simp) each
  constructor
  · rw [List.map_cons, List.zip_cons_cons, entries, Node.field?_cons_self]
  · have open_in_table : ∀ s, ∃ l ∈ packaged, .slot s ∈ parts l.template := by
      intro s
      cases s <;> decide +kernel
    intro s
    obtain ⟨l, among, here⟩ := open_in_table s
    exact reads l among s here

theorem exists_pieceValue (outer : spot.base 0 = top given)
    (within : ∀ s, ReadsWithin environment given steps s (names s))
    (stands : partsOf? piece = some ps) (enough : steps + 3 ≤ fuel) (some : 1 ≤ fuel) :
    ∃ value text, pieceValue environment fuel spot path piece = .ok value ∧
      value.node.inText? = .some text := by
  obtain ⟨cs, rfl, -⟩ | ⟨s, rfl, -⟩ := partsOf?_cases stands
  · obtain ⟨fuel, rfl⟩ := Nat.exists_eq_add_of_le' some
    exact ⟨_, _, rfl, rfl⟩
  · obtain ⟨value, found, shown⟩ := (within s).exists_pieceValue outer enough
    exact ⟨value, _, found, shown⟩

theorem exists_pieceTexts {pieces : List Piece} {parted : List (List Part)}
    (outer : spot.base 0 = top given)
    (within : ∀ s, ReadsWithin environment given steps s (names s))
    (stands : pieces.mapM partsOf? = some parted) (enough : pieces.length + steps + 3 ≤ fuel) :
    ∃ texts, pieceTexts environment (fuel + 1) spot path pieces = .ok texts := by
  induction pieces generalizing fuel parted with
  | nil => exact ⟨[], rfl⟩
  | cons piece rest ih =>
    rw [List.mapM_cons] at stands
    obtain ⟨ps, one, stands⟩ := Option.bind_eq_some_iff.mp stands
    obtain ⟨others, all, -⟩ := Option.bind_eq_some_iff.mp stands
    rw [List.length_cons] at enough
    obtain ⟨fuel, rfl⟩ := Nat.exists_eq_add_of_le' (show 1 ≤ fuel by omega)
    obtain ⟨value, text, valued, shown⟩ :=
      exists_pieceValue outer within one (show steps + 3 ≤ fuel + 1 by omega) (by omega)
    obtain ⟨texts, later⟩ := ih all (show rest.length + steps + 3 ≤ fuel by omega)
    refine ⟨text :: texts, ?_⟩
    rw [pieceTexts, valued]
    simp only [bind, Except.bind, shown, later]
    rfl

theorem exists_memberValue_of_plain {t : String} (plain : hasReference t.toList = false)
    (enough : 1 ≤ fuel) : ∃ y, memberValue environment fuel spot (key, .word (.text t)) = .ok y := by
  obtain ⟨fuel, rfl⟩ := Nat.exists_eq_add_of_le' enough
  exact exists_memberValue_text rfl (textValue_of_plain plain)

theorem exists_memberValue_template (outer : spot.base 0 = top given)
    (within : ∀ s, ReadsWithin environment given steps s (names s))
    (template : l.isTemplate = true) (enough : steps + 14 ≤ fuel) :
    ∃ y, memberValue environment fuel spot (key, .word (.text l.template)) = .ok y := by
  obtain ⟨-, pieces, parted, read, short, stands, -⟩ := Location.template_cases template
  obtain ⟨fuel, rfl⟩ := Nat.exists_eq_add_of_le' (show 3 ≤ fuel by omega)
  let path := key :: spot.path
  obtain ⟨texts, joined⟩ : ∃ texts, pieceTexts environment (fuel + 1) spot path pieces = .ok texts :=
    exists_pieceTexts outer within stands (by omega)
  have valued : textValue environment (fuel + 3) spot path l.template =
      .ok (⟨.word (.text (String.join texts)), path⟩ :: spot) := by
    rw [textValue_of_piece read (fun _ => nofun)]
    exact bind_eq_ok_iff.mpr ⟨texts, joined, rfl⟩
  exact exists_memberValue_text rfl valued

theorem exists_memberValue_node {level : Level}
    (within : ∀ s, ReadsWithin environment given steps s (names s))
    (template : l.isTemplate = true) (enough : steps + 18 ≤ fuel) :
    ∃ y, memberValue environment fuel (level :: top given) (key, l.node) = .ok y := by
  obtain ⟨plain, -⟩ := Location.template_cases template
  rw [memberValue_of_not_text (by nofun)]
  refine exists_resolve_record rfl ?_ (show 2 + (steps + 14) + 2 ≤ fuel by omega)
  intro f among fuel enough
  simp only [List.mem_cons, List.not_mem_nil, or_false] at among
  obtain rfl | rfl := among
  · exact exists_memberValue_of_plain plain (by omega)
  · exact exists_memberValue_template rfl within template enough

theorem exists_memberValue_given (within : ReadsWithin environment given steps s (names s))
    (enough : steps ≤ fuel) :
    ∃ y, memberValue environment fuel (top given) (s.name, .word (.text (given s))) = .ok y := by
  obtain ⟨-, value, w, found, here, -⟩ := within
  exact exists_memberValue_text here (textValue_of_le enough found)

/-- With names that are single words in it the table is resolved, within a few steps more than they
take themselves. -/
theorem exists_resolve (within : ∀ s, ReadsWithin environment given steps s (names s))
    (enough : steps + 36 ≤ fuel) : ∃ y, resolve environment fuel (top given) = .ok y := by
  refine exists_resolve_record rfl ?_ (show 3 + (steps + 31) + 2 ≤ fuel by omega)
  intro f among fuel enough
  simp only [List.mem_cons, List.not_mem_nil, or_false] at among
  obtain rfl | rfl | rfl := among
  · rw [memberValue_of_not_text (by nofun)]
    refine exists_resolve_list rfl ?_ (show 11 + (steps + 18) + 2 ≤ fuel by omega)
    intro x among key fuel enough
    obtain ⟨l, member, rfl⟩ := List.mem_map.mp among
    exact exists_memberValue_node within (isTemplate_packaged l member) enough
  · exact exists_memberValue_given (within .home) (by omega)
  · exact exists_memberValue_given (within .tool) (by omega)

theorem withNames_of_readsWithin {home tool : String}
    (within : ∀ s, ReadsWithin environment (Slot.texts home tool) steps s (names s)) :
    withNames packagedNode home tool = .ok (givenTable (Slot.texts home tool)) := by
  obtain ⟨-, _, _, homeFound, -⟩ := within .home
  obtain ⟨-, _, _, toolFound, -⟩ := within .tool
  have homeChecked : Word.checkValue (.text home) = .ok () := checkValue_of_textValue homeFound
  have toolChecked : Word.checkValue (.text tool) = .ok () := checkValue_of_textValue toolFound
  rw [withNames_given, homeChecked, toolChecked]
  rfl

theorem entryPath_node (platform : String) (l : Location) :
    entryPath platform l.node =
      .ok (if l.isFor platform then some (Path.ofString l.template) else none) := by
  unfold Location.node entryPath Location.isFor
  rw [Node.field?_cons_self, Node.field?_cons_of_ne (by decide), Node.field?_cons_self]
  dsimp only
  cases l.platform.toList.isPrefixOf platform.toList <;> rfl

/-- Of entries with both their texts none is lost but for its platform. -/
theorem exists_paths (platform : String) (locations : List Location) :
    ∃ paths, (locations.map Location.node).mapM (entryPath platform) = .ok paths ∧
      paths.filterMap id =
        (locations.filter (Location.isFor platform)).map fun l => Path.ofString l.template := by
  induction locations with
  | nil => exact ⟨[], rfl, rfl⟩
  | cons l rest ih =>
    obtain ⟨paths, all, kept⟩ := ih
    refine ⟨_, by rw [List.map_cons, List.mapM_cons, entryPath_node, all]; rfl, ?_⟩
    by_cases meant : l.isFor platform = true
    · rw [if_pos meant, List.filter_cons_of_pos meant, List.map_cons, ← kept]
      rfl
    · rw [if_neg meant, List.filter_cons_of_neg meant, ← kept]
      rfl

theorem knownLocations_of_withNames {home : Path} {tool : String} {table : Node}
    (named : withNames packagedNode home.text tool = .ok table) (platform : String) :
    knownLocations environment packagedNode tool platform home =
      resolved environment table >>= fun table => entries table >>= fun found =>
        found.mapM (entryPath platform) >>= fun paths => .ok (paths.filterMap id) := by
  unfold knownLocations
  rw [named]
  rfl

theorem knownLocations_of_resolved {home : Path} {tool : String}
    (agrees : Agrees environment (Slot.texts home.text tool) names)
    (named : withNames packagedNode home.text tool = .ok (givenTable (Slot.texts home.text tool)))
    (found : resolved environment (givenTable (Slot.texts home.text tool)) = .ok y)
    (platform : String) :
    knownLocations environment packagedNode tool platform home = .ok (located platform names) := by
  obtain ⟨paths, all, kept⟩ := exists_paths platform (packaged.map (Location.filled names))
  rw [List.map_map] at all
  have last : (Except.ok (paths.filterMap id) : Except TableError (List Path)) =
      .ok (located platform names) := by
    rw [kept, List.filter_map, List.map_map]
    rfl
  rw [knownLocations_of_withNames named]
  exact bind_eq_ok_iff.mpr ⟨y, found, bind_eq_ok_iff.mpr ⟨_, (entries_of_resolve agrees found).1,
    bind_eq_ok_iff.mpr ⟨paths, all, last⟩⟩⟩

/-- What becomes of the packaged table does not depend on the platform: it is refused for all of
them, or gives each one its places with the same names in them. -/
theorem exists_outcome (environment : Environment) (home : Path) (tool : String) :
    let given := Slot.texts home.text tool
    ∃ outcome : Except TableError (Slot → String),
      (∀ platform, knownLocations environment packagedNode tool platform home =
        outcome.map (located platform)) ∧
      (∀ names, outcome = .ok names → ∀ s, Reads environment given s (names s)) ∧
      ∀ steps names, steps ≤ 16 * ((givenTable given).letters + 1) →
        (∀ s, ReadsWithin environment given steps s (names s)) → outcome = .ok names := by
  intro given
  rcases named : withNames packagedNode home.text tool with e | table
  · refine ⟨.error e, fun platform => ?_, nofun, fun steps names _ within => ?_⟩
    · unfold knownLocations
      rw [named]
      rfl
    · cases named.symm.trans (withNames_of_readsWithin within)
  cases eq_of_withNames named
  rcases found : resolved environment (givenTable given) with e | y
  · refine ⟨.error e, fun platform => ?_, nofun, fun steps names few within => ?_⟩
    · rw [knownLocations_of_withNames named, found]
      rfl
    · obtain ⟨y, found'⟩ : ∃ y, resolved environment (givenTable given) = .ok y :=
        exists_resolve within (by omega)
      cases found.symm.trans found'
  · obtain ⟨names, agrees⟩ := exists_agrees environment given
    have reads := (entries_of_resolve agrees found).2
    refine ⟨.ok names, knownLocations_of_resolved agrees named found, ?_,
      fun steps names' _ within => ?_⟩
    · rintro _ ⟨⟩
      exact reads
    · congr 1
      funext s
      exact (reads s).unique (within s).reads

theorem refuses_checkValue (w : Word) : Refuses w.checkValue := by
  cases w with
  | text s => exact iteInduction (fun _ => refuses_ok _) fun _ => refuses_error rfl
  | other kind => exact refuses_error rfl
  | _ => exact refuses_ok _

theorem refuses_withNames {home tool : String} : Refuses (withNames packagedNode home tool) :=
  (refuses_checkValue _).bind fun _ => (refuses_checkValue _).bind fun _ => refuses_ok _

/-- The packaged table gives places for an engine on every platform, or is refused because of the
references in the names that are added to it. -/
theorem refuses_knownLocations {tool platform : String} (home : Path) :
    Refuses (knownLocations environment packagedNode tool platform home) := by
  intro e failed
  rcases named : withNames packagedNode home.text tool with e' | table
  · unfold knownLocations at failed
    rw [named] at failed
    cases failed
    exact refuses_withNames _ named
  cases eq_of_withNames named
  rcases found : resolved environment (givenTable (Slot.texts home.text tool)) with e' | y
  · rw [knownLocations_of_withNames named, found] at failed
    cases failed
    exact (refuses_resolve _).1 _ _ found
  · obtain ⟨names, agrees⟩ := exists_agrees environment (Slot.texts home.text tool)
    rw [knownLocations_of_resolved agrees named found] at failed
    cases failed

end TexBuild.Table
