import TexBuild.Proofs.Text.Json.Reader

namespace TexBuild.Json
open Text

/-- The text is read as the value, whatever is written behind it. -/
def Yields {α : Type} (member : List Char → Option (α × List Char)) (text : List Char) (x : α) : Prop :=
  ∀ rest, Follows rest → member (text ++ rest) = some (x, rest)

theorem skip_cons {c : Char} (cs : List Char) (visible : isGap c = false) : skip (c :: cs) = c :: cs := by
  rw [skip, List.dropWhile_cons, if_neg (Bool.not_eq_true _ ▸ visible)]

theorem skip_space (cs : List Char) : skip (' ' :: cs) = skip cs := rfl

theorem length_newline (depth : Nat) : (newline depth).length = 2 * depth + 1 := by
  rw [newline, List.length_cons, List.length_replicate]

theorem mem_newline {c : Char} {depth : Nat} (inside : c ∈ newline depth) : c = '\n' ∨ c = ' ' :=
  (List.mem_cons.mp inside).imp_right List.eq_of_mem_replicate

theorem skip_newline (depth : Nat) (cs : List Char) : skip (newline depth ++ cs) = skip cs := by
  have blank : ∀ c ∈ newline depth, isGap c = true := by
    intro c inside
    obtain rfl | rfl := mem_newline inside <;> rfl
  exact List.dropWhile_append_of_pos blank

/-- Blanks before a document make no difference. -/
theorem value?_of_skip (n : Nat) {cs ds : List Char} (same : skip cs = skip ds) :
    value? n cs = value? n ds := by
  cases n with
  | zero => rfl
  | succ n => rw [value?, value?, same]

/-- Blanks before a field make no difference. -/
theorem field?_of_skip (value : List Char → Option (Json × List Char)) (n : Nat) {cs ds : List Char}
    (same : skip cs = skip ds) : field? value n cs = field? value n ds := by
  rw [field?, field?, same]

section
variable {α : Type}

/-- Members behind the first one, each on a line of its own. -/
def further (depth : Nat) (shown : α → List Char) (xs : List α) : List Char :=
  xs.flatMap fun x => ',' :: (newline depth ++ shown x)

/-- What stands between the marks of a list or a record. -/
def body (depth : Nat) (shown : α → List Char) : List α → List Char
  | [] => []
  | x :: xs => newline (depth + 1) ++ (shown x ++ (further (depth + 1) shown xs ++ newline depth))

variable {close : Char} {member : List Char → Option (α × List Char)} {shown : α → List Char}
  {depth n : Nat} {xs : List α}

/-- Behind a member stands a comma, or the new line before the closing mark. -/
theorem follows_further (depth below : Nat) (shown : α → List Char) (xs : List α) (cs : List Char) :
    Follows (further depth shown xs ++ (newline below ++ cs)) := by
  cases xs with
  | nil => rintro c ⟨⟩; exact .inr rfl
  | cons x xs => rintro c ⟨⟩; exact .inl rfl

theorem members?_further (mark : isGap close = false) (other : close ≠ ',') (below : Nat)
    (yields : ∀ x ∈ xs, Yields member (newline depth ++ shown x) x) (enough : xs.length < n)
    (rest : List Char) :
    members? close member n (further depth shown xs ++ (newline below ++ close :: rest)) =
      some (xs, rest) := by
  induction xs generalizing n with
  | nil =>
    obtain ⟨n, rfl⟩ := Nat.exists_eq_succ_of_ne_zero (Nat.ne_zero_of_lt enough)
    simp only [further, List.flatMap_nil, List.nil_append, members?, skip_newline, skip_cons rest mark,
      if_true]
  | cons x xs ih =>
    obtain ⟨n, rfl⟩ := Nat.exists_eq_succ_of_ne_zero (Nat.ne_zero_of_lt enough)
    have later := ih (fun y among => yields y (.tail _ among)) (Nat.lt_of_succ_lt_succ enough)
    have first := yields x (.head _) _ (follows_further depth below shown xs (close :: rest))
    rw [further, List.flatMap_cons, ← further, List.append_assoc, List.cons_append, members?,
      skip_cons _ (by decide)]
    simp only [if_neg (Ne.symm other), if_true, first, later, Option.bind_eq_bind, Option.bind_some,
      Option.pure_def]

theorem enclosed?_body (shown : α → List Char) (mark : isGap close = false) (other : close ≠ ',')
    (opens : ∀ x ∈ xs, ∃ c cs, shown x = c :: cs ∧ isGap c = false ∧ c ≠ close)
    (yields : ∀ x ∈ xs, Yields member (newline (depth + 1) ++ shown x) x) (enough : xs.length ≤ n)
    (rest : List Char) :
    enclosed? close member n (body depth shown xs ++ close :: rest) = some (xs, rest) := by
  cases xs with
  | nil =>
    rw [body, List.nil_append, enclosed?, skip_cons rest mark, List.head?_cons, if_pos rfl,
      List.tail_cons]
  | cons x xs =>
    have first := yields x (.head _) _ (follows_further (depth + 1) depth shown xs (close :: rest))
    have later := members?_further mark other depth (fun y among => yields y (.tail _ among)) enough rest
    have opened (cs : List Char) : (skip (newline (depth + 1) ++ (shown x ++ cs))).head? ≠ some close := by
      obtain ⟨c, ds, written, visible, noMark⟩ := opens x (.head _)
      rw [skip_newline, written, List.cons_append, skip_cons _ visible, List.head?_cons, Ne,
        Option.some_inj]
      exact noMark
    rw [List.append_assoc] at first
    rw [body, enclosed?, List.append_assoc, List.append_assoc, List.append_assoc, if_neg (opened _), first]
    simp only [later, Option.bind_eq_bind, Option.bind_some, Option.pure_def]

theorem length_le_further (depth : Nat) (shown : α → List Char) (xs : List α) :
    xs.length ≤ (further depth shown xs).length := by
  induction xs with
  | nil => exact Nat.zero_le _
  | cons x xs ih =>
    rw [further, List.flatMap_cons, ← further, List.length_append, List.length_cons, List.length_cons]
    omega

theorem length_le_body (depth : Nat) (shown : α → List Char) (xs : List α) :
    xs.length ≤ (body depth shown xs).length := by
  cases xs with
  | nil => exact Nat.zero_le _
  | cons x xs =>
    have more := length_le_further (depth + 1) shown xs
    rw [body, List.length_append, List.length_append, List.length_append, length_newline,
      List.length_cons]
    omega

theorem sublist_body (depth : Nat) (shown : α → List Char) {x : α} (among : x ∈ xs) :
    (shown x).Sublist (body depth shown xs) := by
  obtain _ | ⟨y, ys⟩ := xs
  · cases among
  refine .trans ?_ (List.sublist_append_right _ _)
  obtain rfl | later := List.mem_cons.mp among
  · exact List.sublist_append_left _ _
  · have line : (',' :: (newline (depth + 1) ++ shown x)).Sublist (further (depth + 1) shown ys) :=
      List.sublist_flatten_of_mem (List.mem_map_of_mem later)
    have whole : (further (depth + 1) shown ys).Sublist (shown y ++ (further (depth + 1) shown ys ++ newline depth)) :=
      (List.sublist_append_left _ _).trans (List.sublist_append_right _ _)
    exact (((List.sublist_append_right _ _).cons _).trans line).trans whole

theorem mem_body {c : Char} (inside : c ∈ body depth shown xs) :
    c ∈ [',', '\n', ' '] ∨ ∃ x ∈ xs, c ∈ shown x := by
  obtain _ | ⟨x, xs⟩ := xs
  · cases inside
  have blank {depth : Nat} (gap : c ∈ newline depth) : c ∈ [',', '\n', ' '] := by
    obtain rfl | rfl := mem_newline gap <;> decide
  simp only [body, further, List.mem_append, List.mem_flatMap, List.mem_cons] at inside
  rcases inside with gap | here | ⟨y, among, rfl | gap | there⟩ | gap
  · exact .inl (blank gap)
  · exact .inr ⟨x, .head _, here⟩
  · exact .inl (.head _)
  · exact .inl (blank gap)
  · exact .inr ⟨y, .tail _ among, there⟩
  · exact .inl (blank gap)

end

/-- A field of a record as it is written. -/
def renderField (depth : Nat) (field : String × Json) : List Char :=
  quote field.1 ++ ':' :: ' ' :: renderAt depth field.2

theorem renderItems_eq (depth : Nat) (xs : List Json) :
    renderItems depth xs = further depth (renderAt depth) xs := by
  induction xs with
  | nil => rfl
  | cons x xs ih =>
    rw [renderItems, ih, further, further, List.flatMap_cons]
    rfl

theorem renderFields_eq (depth : Nat) (fields : List (String × Json)) :
    renderFields depth fields = further depth (renderField depth) fields := by
  induction fields with
  | nil => rfl
  | cons field fields ih =>
    obtain ⟨name, x⟩ := field
    rw [renderFields, ih, further, further, List.flatMap_cons, renderField]
    simp only [List.cons_append, List.append_assoc, List.nil_append]

theorem renderAt_array (depth : Nat) (xs : List Json) :
    renderAt depth (array xs) = '[' :: (body depth (renderAt (depth + 1)) xs ++ [']']) := by
  cases xs with
  | nil => rfl
  | cons x xs =>
    have written : renderAt depth (array (x :: xs)) = '[' :: newline (depth + 1) ++
        renderAt (depth + 1) x ++ renderItems (depth + 1) xs ++ newline depth ++ [']'] := rfl
    rw [written, renderItems_eq, body]
    simp only [List.cons_append, List.append_assoc]

theorem renderAt_object (depth : Nat) (fields : List (String × Json)) :
    renderAt depth (object fields) = '\x7b' :: (body depth (renderField (depth + 1)) fields ++ ['\x7d']) := by
  cases fields with
  | nil => rfl
  | cons field fields =>
    obtain ⟨name, x⟩ := field
    have written : renderAt depth (object ((name, x) :: fields)) = '\x7b' :: newline (depth + 1) ++
        quote name ++ [':', ' '] ++ renderAt (depth + 1) x ++ renderFields (depth + 1) fields ++
        newline depth ++ ['\x7d'] := rfl
    rw [written, renderFields_eq, body, renderField]
    simp only [List.cons_append, List.append_assoc, List.nil_append]

/-- What holds of a document if it holds of its parts. -/
@[induction_eliminator]
theorem induct {motive : Json → Prop} (null : motive null) (bool : ∀ b, motive (bool b))
    (number : ∀ n, motive (number n)) (string : ∀ s, motive (string s))
    (array : ∀ xs, (∀ x ∈ xs, motive x) → motive (array xs))
    (object : ∀ fields, (∀ field ∈ fields, motive field.2) → motive (object fields)) (x : Json) :
    motive x :=
  @Json.rec motive (fun xs => ∀ x ∈ xs, motive x) (fun fields => ∀ field ∈ fields, motive field.2)
    (fun field => motive field.2) null bool number string array object
    (List.forall_mem_nil _) (fun _ _ first more => List.forall_mem_cons.mpr ⟨first, more⟩)
    (List.forall_mem_nil _) (fun _ _ first more => List.forall_mem_cons.mpr ⟨first, more⟩)
    (fun _ _ value => value) x

/-- No document begins with a blank or a closing mark. -/
theorem exists_renderAt (depth : Nat) (x : Json) :
    ∃ c cs, renderAt depth x = c :: cs ∧ isGap c = false ∧ c ≠ ']' := by
  cases x with
  | null => exact ⟨_, _, rfl, by decide, by decide⟩
  | bool b => cases b <;> exact ⟨_, _, rfl, by decide, by decide⟩
  | string s => exact ⟨_, _, rfl, by decide, by decide⟩
  | array xs => exact ⟨_, _, renderAt_array depth xs, by decide, by decide⟩
  | object fields => exact ⟨_, _, renderAt_object depth fields, by decide, by decide⟩
  | number n =>
    obtain ⟨c, cs, written, first⟩ := exists_toString n
    refine ⟨c, cs, written, ?_, first ']' (by decide) (by decide)⟩
    simp [isGap, first]

theorem value?_scalar {c : Char} {cs : List Char} (n : Nat) (visible : isGap c = false)
    (other : c ≠ '"' ∧ c ≠ '[' ∧ c ≠ '\x7b') : value? (n + 1) (c :: cs) = scalar? (c :: cs) := by
  simp only [value?, skip_cons _ visible, if_neg other.1, if_neg other.2.1, if_neg other.2.2]

theorem length_escape_pos (c : Char) : 0 < (escape c).length := by
  simp only [escape]
  split_ifs <;> simp

theorem length_le_quote (s : String) : s.toList.length + 2 ≤ (quote s).length := by
  have escaped (cs : List Char) : cs.length ≤ (cs.flatMap escape).length := by
    induction cs with
    | nil => exact Nat.zero_le _
    | cons c cs ih =>
      have first := length_escape_pos c
      rw [List.flatMap_cons, List.length_append, List.length_cons]
      omega
  have inner := escaped s.toList
  rw [quote, List.cons_append, List.length_cons, List.length_append, List.length_singleton]
  omega

theorem field?_renderField {value : List Char → Option (Json × List Char)} {n depth : Nat}
    {field : String × Json} (yields : Yields value (' ' :: renderAt depth field.2) field.2)
    (enough : (quote field.1).length ≤ n) :
    Yields (field? value n) (renderField depth field) field := by
  intro rest follows
  have room := length_le_quote field.1
  have name := text?_flatMap_escape (show field.1.toList.length < n by omega)
    (':' :: ' ' :: (renderAt depth field.2 ++ rest))
  have quoted : renderField depth field ++ rest = '"' :: (field.1.toList.flatMap escape ++
      '"' :: ':' :: ' ' :: (renderAt depth field.2 ++ rest)) := by
    simp only [renderField, quote, List.cons_append, List.append_assoc, List.nil_append]
  have opened (cs : List Char) : dropStart? ['"'] ('"' :: cs) = some cs := rfl
  have colon (cs : List Char) : dropStart? [':'] (':' :: cs) = some cs := rfl
  have value := yields rest follows
  rw [List.cons_append] at value
  rw [quoted, field?, skip_cons _ (by decide), opened]
  simp only [Option.bind_eq_bind, Option.bind_some, name, skip_cons _ (show isGap ':' = false by decide),
    colon, value, String.ofList_toList, Option.pure_def]

theorem yields_string {s : String} {n : Nat} (enough : (quote s).length ≤ n) :
    Yields (value? n) (quote s) (string s) := by
  intro rest _
  have room := length_le_quote s
  obtain ⟨n, rfl⟩ := Nat.exists_eq_succ_of_ne_zero (show n ≠ 0 by omega)
  have inner := text?_flatMap_escape (show s.toList.length < n by omega) rest
  rw [quote, List.cons_append, List.cons_append, List.append_assoc, List.singleton_append, value?,
    skip_cons _ (by decide)]
  simp only [if_true, inner, Option.map_some, String.ofList_toList]

theorem yields_number {m : Int} {n : Nat} (enough : (toString m).toList.length ≤ n) :
    Yields (value? n) (toString m).toList (number m) := by
  intro rest follows
  obtain ⟨c, cs, written, first⟩ := exists_toString m
  rw [written] at enough
  obtain ⟨n, rfl⟩ := Nat.exists_eq_succ_of_ne_zero (Nat.ne_zero_of_lt enough)
  rw [← scalar?_toString follows m, written]
  refine value?_scalar n ?_ ?_ <;> simp [isGap, first]

theorem yields_array {xs : List Json} {n depth : Nat}
    (each : ∀ x ∈ xs, ∀ m, (renderAt (depth + 1) x).length ≤ m →
      Yields (value? m) (renderAt (depth + 1) x) x)
    (enough : (renderAt depth (array xs)).length ≤ n) :
    Yields (value? n) (renderAt depth (array xs)) (array xs) := by
  intro rest _
  rw [renderAt_array, List.length_cons, List.length_append, List.length_singleton] at enough
  obtain ⟨n, rfl⟩ := Nat.exists_eq_succ_of_ne_zero (show n ≠ 0 by omega)
  have yields : ∀ x ∈ xs, Yields (value? n) (newline (depth + 1) ++ renderAt (depth + 1) x) x := by
    intro x among cs follows
    have part := (sublist_body depth (renderAt (depth + 1)) among).length_le
    rw [List.append_assoc, value?_of_skip n (skip_newline _ _)]
    exact each x among n (by omega) cs follows
  have count := length_le_body depth (renderAt (depth + 1)) xs
  have parts := enclosed?_body (renderAt (depth + 1)) (show isGap ']' = false by decide) (by decide)
    (fun x _ => exists_renderAt (depth + 1) x) yields (show xs.length ≤ n by omega) rest
  rw [renderAt_array, List.cons_append, List.append_assoc, List.singleton_append, value?,
    skip_cons _ (by decide)]
  simp only [Char.reduceEq, if_false, if_true, parts, Option.map_some]

theorem yields_object {fields : List (String × Json)} {n depth : Nat}
    (each : ∀ field ∈ fields, ∀ m, (renderAt (depth + 1) field.2).length ≤ m →
      Yields (value? m) (renderAt (depth + 1) field.2) field.2)
    (enough : (renderAt depth (object fields)).length ≤ n) :
    Yields (value? n) (renderAt depth (object fields)) (object fields) := by
  intro rest _
  rw [renderAt_object, List.length_cons, List.length_append, List.length_singleton] at enough
  obtain ⟨n, rfl⟩ := Nat.exists_eq_succ_of_ne_zero (show n ≠ 0 by omega)
  have yields : ∀ field ∈ fields, Yields (field? (value? n) n)
      (newline (depth + 1) ++ renderField (depth + 1) field) field := by
    intro field among cs follows
    have part := (sublist_body depth (renderField (depth + 1)) among).length_le
    rw [renderField, List.length_append, List.length_cons, List.length_cons] at part
    have name : (quote field.1).length ≤ n := by omega
    have room : (renderAt (depth + 1) field.2).length ≤ n := by omega
    have value : Yields (value? n) (' ' :: renderAt (depth + 1) field.2) field.2 := by
      intro cs follows
      rw [List.cons_append, value?_of_skip n (skip_space _)]
      exact each field among n room cs follows
    rw [List.append_assoc, field?_of_skip _ n (skip_newline _ _)]
    exact field?_renderField value name cs follows
  have count := length_le_body depth (renderField (depth + 1)) fields
  have parts := enclosed?_body (renderField (depth + 1)) (show isGap '\x7d' = false by decide) (by decide)
    (fun field _ => ⟨'"', _, rfl, by decide, by decide⟩) yields (show fields.length ≤ n by omega) rest
  rw [renderAt_object, List.cons_append, List.append_assoc, List.singleton_append, value?,
    skip_cons _ (by decide)]
  simp only [Char.reduceEq, if_false, if_true, parts, Option.map_some]

/-- What is written for a document is read as it, in no more steps than it has characters. -/
theorem value?_renderAt {x : Json} {n depth : Nat} (enough : (renderAt depth x).length ≤ n) :
    Yields (value? n) (renderAt depth x) x := by
  -- What is written for a part is within what is written for the whole, so that the steps suffice.
  induction x generalizing n depth with
  | null =>
    intro rest _
    obtain ⟨n, rfl⟩ := Nat.exists_eq_succ_of_ne_zero (Nat.ne_zero_of_lt enough)
    rfl
  | bool b =>
    intro rest _
    cases b <;> obtain ⟨n, rfl⟩ := Nat.exists_eq_succ_of_ne_zero (Nat.ne_zero_of_lt enough) <;> rfl
  | number m => exact yields_number enough
  | string s => exact yields_string enough
  | array xs ih => exact yields_array (fun x among _ room => ih x among room) enough
  | object fields ih => exact yields_object (fun field among _ room => ih field among room) enough

/-- Reading gives back what was written. -/
theorem read_render (x : Json) : read (render x).toList = some x := by
  have whole := value?_renderAt (Nat.le_refl (renderAt 0 x).length) [] (by rintro c ⟨⟩)
  rw [List.append_nil] at whole
  rw [render, String.toList_ofList, read, whole]
  rfl

/-- Documents are read however they are laid out and escaped. -/
example : read "[ \"\\/\\uD83D\\ude00\",\t-10\n]".toList = some (array [string "/😀", number (-10)]) := by
  rfl

/-- A new line or visible ASCII. -/
def IsShown (c : Char) : Prop :=
  c = '\n' ∨ 0x20 ≤ c.toNat ∧ c.toNat < 0x7F

instance : DecidablePred IsShown := fun c => inferInstanceAs (Decidable (c = '\n' ∨ _))

theorem isShown_hexDigits {width n : Nat} {c : Char} (inside : c ∈ Quoted.hexDigits width n) :
    IsShown c := by
  have digit : ∀ d < 16, IsShown (Quoted.hexDigit d) := by decide
  induction width generalizing n with
  | zero => cases inside
  | succ width ih =>
    obtain earlier | last := List.mem_append.mp inside
    · exact ih earlier
    · rw [List.mem_singleton.mp last]
      exact digit _ (Nat.mod_lt n (by decide))

theorem isShown_escape {c d : Char} (inside : d ∈ escape c) : IsShown d := by
  have short {e : Char} (letter : IsShown e) (inside : d ∈ ['\\', e]) : IsShown d := by
    obtain rfl | rfl := List.mem_pair.mp inside
    · decide
    · exact letter
  have long {n : Nat} (inside : d ∈ ['\\', 'u'] ++ Quoted.hexDigits 4 n) : IsShown d :=
    (List.mem_append.mp inside).elim (short (by decide)) isShown_hexDigits
  simp only [escape] at inside
  split_ifs at inside with marked feed ret tab back form shown plane
  · exact short (by obtain rfl | rfl := marked <;> decide) inside
  · exact short (by decide) inside
  · exact short (by decide) inside
  · exact short (by decide) inside
  · exact short (by decide) inside
  · exact short (by decide) inside
  · rw [List.mem_singleton.mp inside]
    exact .inr shown
  · exact long inside
  · rw [List.append_assoc, List.append_assoc, ← List.append_assoc] at inside
    exact (List.mem_append.mp inside).elim long long

theorem isShown_quote {s : String} {c : Char} (inside : c ∈ quote s) : IsShown c := by
  simp only [quote, List.cons_append, List.mem_cons, List.mem_append, List.mem_flatMap, List.not_mem_nil,
    or_false] at inside
  obtain rfl | ⟨d, -, inside⟩ | rfl := inside
  · decide
  · exact isShown_escape inside
  · decide

theorem isShown_toString {n : Int} {c : Char} (inside : c ∈ (toString n).toList) : IsShown c := by
  have digits (m : Nat) (inside : c ∈ Nat.toDigits 10 m) : IsShown c := by
    have digit := Nat.isDigit_of_mem_toDigits (by decide) (by decide) inside
    obtain ⟨above, below⟩ := Char.isDigit_iff_toNat.mp digit
    exact .inr ⟨Nat.le_trans (by decide) above, Nat.lt_of_le_of_lt below (by decide)⟩
  by_cases negative : n < 0
  · rw [toList_toString_of_neg negative] at inside
    obtain rfl | inside := List.mem_cons.mp inside
    · decide
    · exact digits _ inside
  · rw [toList_toString_of_nonneg (Int.not_lt.mp negative)] at inside
    exact digits _ inside

theorem isShown_body {α : Type} {shown : α → List Char} {depth : Nat} {xs : List α} {c : Char}
    (each : ∀ x ∈ xs, ∀ c ∈ shown x, IsShown c) (inside : c ∈ body depth shown xs) : IsShown c := by
  have marks : ∀ c ∈ [',', '\n', ' '], IsShown c := by simp [IsShown]
  obtain mark | ⟨x, among, inside⟩ := mem_body inside
  · exact marks c mark
  · exact each x among c inside

/-- Documents are written in lines of visible ASCII. -/
theorem isShown_renderAt {x : Json} {depth : Nat} {c : Char} (inside : c ∈ renderAt depth x) :
    IsShown c := by
  induction x generalizing depth c with
  | null =>
    have word : ∀ c ∈ "null".toList, IsShown c := by simp [IsShown]
    exact word c inside
  | bool b =>
    have words : (∀ c ∈ "false".toList, IsShown c) ∧ ∀ c ∈ "true".toList, IsShown c := by simp [IsShown]
    cases b
    · exact words.1 c inside
    · exact words.2 c inside
  | number n => exact isShown_toString inside
  | string s => exact isShown_quote inside
  | array xs ih =>
    rw [renderAt_array, List.mem_cons, List.mem_append, List.mem_singleton] at inside
    obtain rfl | inside | rfl := inside
    · decide
    · exact isShown_body (fun x among c inside => ih x among inside) inside
    · decide
  | object fields ih =>
    rw [renderAt_object, List.mem_cons, List.mem_append, List.mem_singleton] at inside
    obtain rfl | inside | rfl := inside
    · decide
    · refine isShown_body (fun field among c inside => ?_) inside
      rw [renderField, List.mem_append, List.mem_cons, List.mem_cons] at inside
      obtain name | rfl | rfl | value := inside
      · exact isShown_quote name
      · decide
      · decide
      · exact ih field among value
    · decide

end TexBuild.Json
