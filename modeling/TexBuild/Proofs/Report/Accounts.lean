import TexBuild.Proofs.Command.Outline
import TexBuild.Proofs.Number.Clock

namespace TexBuild.Report

section Accounts
variable {α β : Type}

/-- A report accounts for its items: it tells all of them in their order, each with its number, if
they are not more than the limit; else it tells as many of the first ones, and how many it leaves
out. -/
inductive Accounts (limit : Nat) (entry : Nat → α → β) (more : Nat → β) :
    List α → List β → Prop
  | whole {items} : items.length ≤ limit →
      Accounts limit entry more items (items.mapIdx fun i x => entry (i + 1) x)
  | cut {told left} : told.length = limit → left ≠ [] →
      Accounts limit entry more (told ++ left)
        ((told.mapIdx fun i x => entry (i + 1) x) ++ [more left.length])

variable {limit : Nat} {entry : Nat → α → β} {more : Nat → β} {items : List α} {report : List β}

/-- Who tells the first items up to the limit, and counts the others if there are any, accounts for
all. -/
theorem accounts_take (limit : Nat) (entry : Nat → α → β) (more : Nat → β) (items : List α) :
    Accounts limit entry more items
      (((items.take limit).mapIdx fun i x => entry (i + 1) x) ++
        if limit < items.length then [more (items.length - limit)] else []) := by
  by_cases longer : limit < items.length
  · rw [if_pos longer]
    have told : (items.take limit).length = limit := List.length_take_of_le (Nat.le_of_lt longer)
    have left : (items.drop limit).length = items.length - limit := List.length_drop
    have some : items.drop limit ≠ [] := List.ne_nil_of_length_pos (by omega)
    rw [← left]
    have cut : Accounts limit entry more (items.take limit ++ items.drop limit) _ := .cut told some
    rwa [List.take_append_drop] at cut
  · rw [if_neg longer, List.append_nil, List.take_of_length_le (Nat.le_of_not_lt longer)]
    exact .whole (Nat.le_of_not_lt longer)

end Accounts

theorem map_zipIdx_one {α β : Type} (f : Nat → α → β) (items : List α) :
    (items.zipIdx 1).map (fun (x, i) => f i x) = items.mapIdx fun i x => f (i + 1) x := by
  rw [List.mapIdx_eq_zipIdx_map, List.zipIdx_eq_map_add, List.map_map]
  exact List.map_congr_left fun (x, i) _ => congrArg (f · x) (Nat.add_comm 1 i)

theorem mapIdx_const {α β : Type} (f : α → β) (items : List α) :
    (items.mapIdx fun _ x => f x) = items.map f := by
  ext1 i
  simp only [List.getElem?_mapIdx, List.getElem?_map]

variable {name elapsed : String} {r : BuildResult} {ds : List Diagnostic} {level : Level}
  {item : Nat → Diagnostic → String} {more : Nat → String}

theorem accounts_numbered (level : Level) (limit : Nat) (item : Nat → Diagnostic → String)
    (more : Nat → String) (ds : List Diagnostic) :
    Accounts limit (fun i d => Notice.build level (item i d)) (fun k => Notice.build level (more k))
      ds (numbered level limit item more ds) := by
  rw [numbered, map_zipIdx_one fun i d => Notice.build level (item i d)]
  exact accounts_take limit _ _ ds

/-- A listing for the reader accounts for its findings. It does not number them. -/
theorem accounts_listing {limit : Int} (positive : 1 ≤ limit) (ds : List Diagnostic) :
    Accounts limit.toNat (fun _ d => listingLine d) (fun k => s!"  ... and {k} more") ds
      (listing ds limit) := by
  obtain ⟨l, rfl⟩ := Int.eq_ofNat_of_zero_le (Int.le_trans Int.one_nonneg positive)
  have told : shown l ds.length = l := if_pos (Int.natCast_nonneg l)
  have accounts := accounts_take l (fun _ d => listingLine d) (fun k => s!"  ... and {k} more") ds
  rw [mapIdx_const] at accounts
  rw [listing, told]
  by_cases longer : l < ds.length
  · rw [if_pos longer] at accounts
    rw [if_pos (Int.ofNat_lt.mpr longer), ← Int.ofNat_sub (Nat.le_of_lt longer)]
    exact accounts
  · rw [if_neg longer] at accounts
    rwa [if_neg (mt Int.ofNat_lt.mp longer)]

theorem warningList_eq (verbose : Bool) (warnings : List Diagnostic) :
    warningList verbose warnings =
      (if warnings.length = 0 then []
        else [Notice.build .warning s!"{warnings.length} warnings detected"]) ++
      numbered .debug (warningLimit verbose) (fun i d => s!"  Warning {i}: {d.message}")
        (fun k => s!"  ... and {k} more warnings") warnings := by
  cases warnings with
  | nil => simp [warningList, numbered]
  | cons d ds => rfl

section More

/-- A record that only tells how many findings are left out. -/
def TellsMore (n : Notice) : Prop :=
  ∃ k : Nat, n = Notice.build .error s!"  ... and {k} more errors" ∨
    n = Notice.build .debug s!"  ... and {k} more warnings"

/-- What a report tells, the numbers of what is left out aside, another one tells in the same
order. -/
def TellsWithin (ns ms : List Notice) : Prop :=
  ∀ told : List Notice, told.Sublist ns → (∀ n ∈ told, ¬ TellsMore n) → told.Sublist ms

variable {ns ns' ms ms' : List Notice}

theorem TellsWithin.of_sublist (sublist : ns.Sublist ms) : TellsWithin ns ms :=
  fun _ within _ => within.trans sublist

theorem TellsWithin.of_tellsMore (more : ∀ n ∈ ns, TellsMore n) : TellsWithin ns ms := by
  intro told within own
  obtain rfl : told = [] :=
    List.eq_nil_iff_forall_not_mem.mpr fun n among => own n among (more n (within.subset among))
  exact List.nil_sublist ms

theorem TellsWithin.append (first : TellsWithin ns ms) (second : TellsWithin ns' ms') :
    TellsWithin (ns ++ ns') (ms ++ ms') := by
  intro told within own
  obtain ⟨front, back, rfl, before, after⟩ := List.sublist_append_iff.mp within
  exact (first front before fun n among => own n (List.mem_append_left _ among)).append
    (second back after fun n among => own n (List.mem_append_right _ among))

/-- With a higher limit a list tells all that it told. -/
theorem tellsWithin_numbered {limit limit' : Nat} (less : limit ≤ limit')
    (counts : ∀ k, TellsMore (Notice.build level (more k))) :
    TellsWithin (numbered level limit item more ds) (numbered level limit' item more ds) := by
  refine .append (.of_sublist ?_) (.of_tellsMore fun n among => ?_)
  · have first : ds.take limit = (ds.take limit').take limit := by
      rw [List.take_take, Nat.min_eq_left less]
    have longer : ds.take limit' = ds.take limit ++ (ds.take limit').drop limit := by
      rw [first, List.take_append_drop]
    rw [longer, List.zipIdx_append, List.map_append]
    exact List.sublist_append_left _ _
  · split at among
    · rw [List.mem_singleton.mp among]
      exact counts _
    · cases among

end More

theorem result_eq (elapsed : String) (clock : r.duration.clock = .ok elapsed) (verbose : Bool) :
    result name r ds verbose =
      .ok ((match r.outcome with
        | .built artifact =>
          [Notice.build .success
              s!"{name}: compiled with {Diagnostic.count .warning ds} warnings ({elapsed})",
            Notice.build .debug s!"  PDF: {artifact}"]
        | .failed _ message =>
          Notice.build .error s!"{name}: {message} ({elapsed})" ::
            errorList verbose (Diagnostic.select .error ds)) ++
        warningList verbose (Diagnostic.select .warning ds) ++ rawOutput verbose r) := by
  rw [result, clock, ← Diagnostic.length_select]
  rfl

/-- What is recorded about a build that is not asked for more is recorded as well for one that
is. -/
theorem tellsWithin_result {quiet loud : List Notice} (clock : r.duration.clock = .ok elapsed)
    (told : result name r ds false = .ok quiet) (more : result name r ds true = .ok loud) :
    TellsWithin quiet loud := by
  have warnings : TellsWithin (warningList false (Diagnostic.select .warning ds))
      (warningList true (Diagnostic.select .warning ds)) := by
    rw [warningList_eq, warningList_eq]
    exact (TellsWithin.of_sublist (.refl _)).append
      (tellsWithin_numbered (by decide) fun k => ⟨k, .inr rfl⟩)
  have output : TellsWithin (rawOutput false r) (rawOutput true r) := by
    unfold rawOutput
    by_cases failed : r.success = false
    · rw [failed]
      exact .of_sublist (.refl _)
    · rw [Bool.not_eq_false] at failed
      rw [failed]
      exact .of_sublist (List.nil_sublist _)
  rw [result_eq elapsed clock] at told more
  cases told
  cases more
  refine .append (.append ?_ warnings) output
  cases r.outcome with
  | built artifact => exact .of_sublist (.refl _)
  | failed failure message =>
    exact TellsWithin.append (.of_sublist (.refl [_]))
      (tellsWithin_numbered (by decide) fun k => ⟨k, .inl rfl⟩)

/-- The records about the errors of a failed build. -/
def TellsErrors (verbose : Bool) : List Diagnostic → List Notice → Prop :=
  Accounts (if verbose then 10 else 5)
    (fun i d => Notice.build .error s!"  Error {i}: {d.message}{location d}")
    fun k => Notice.build .error s!"  ... and {k} more errors"

/-- The records about the warnings of a build, after that about their number. -/
def TellsWarnings (verbose : Bool) : List Diagnostic → List Notice → Prop :=
  Accounts (if verbose then 10 else 3)
    (fun i d => Notice.build .debug s!"  Warning {i}: {d.message}")
    fun k => Notice.build .debug s!"  ... and {k} more warnings"

/-- The findings in a listing for the reader, up to a limit. -/
def Lists (limit : Nat) : List Diagnostic → List String → Prop :=
  Accounts limit (fun _ d => listingLine d) fun k => s!"  ... and {k} more"

/-- The record about the number of warnings, if there are any. -/
def warningTotal (n : Nat) : List Notice :=
  if n = 0 then [] else [Notice.build .warning s!"{n} warnings detected"]

/-- The second line of what a build tells the reader has the total that its outcome calls for. -/
theorem exists_total {h : Host} {verbose : Bool} {log : Option Path} {text : String}
    (told : Command.buildText h r ds verbose log = .ok text) :
    ∃ title rest, text = Command.lines ("" :: title ::
      (match r.outcome with
        | .built _ => s!"  Warnings: {Diagnostic.count .warning ds}"
        | .failed .. => s!"  Errors: {Diagnostic.count .error ds}") :: rest) := by
  obtain ⟨head, elapsed, close, heads, -, -, rfl⟩ := Command.exists_of_buildText_eq_ok told
  generalize r.outcome = outcome at heads ⊢
  cases heads with
  | built => exact ⟨_, _, rfl⟩
  | failed => exact ⟨_, _, rfl⟩

end TexBuild.Report
