namespace TexBuild.Charset

/-- The character in a place of a row. A blank is a place without one. -/
def at? (rows : Array String) (row place : Nat) : Option Char := do
  let c ← (← rows[row]?).toList[place]?
  if c = ' ' then none else some c

/-- The character of two numbers that count rows and places from a number on. -/
def from? (first : Nat) (rows : Array String) (row place : Nat) : Option Char :=
  if first ≤ row ∧ first ≤ place ∧ place < first + 94 then at? rows (row - first) (place - first) else none

/-- The character of two octets without their highest bit. -/
def low? (rows : Array String) (row place : Nat) : Option Char :=
  from? 0x21 rows row place

/-- The character of two octets with their highest bit. -/
def high? (rows : Array String) (row place : Nat) : Option Char :=
  from? 0xA1 rows row place

/-- The numbers of an ascending list that another one does not hold. -/
def without : List Nat → List Nat → List Nat
  | [], _ => []
  | x :: xs, [] => x :: xs
  | x :: xs, y :: ys =>
    if x < y then x :: without xs (y :: ys)
    else if x = y then without xs ys
    else without (x :: xs) ys
termination_by xs ys => xs.length + ys.length

/-- The characters with numbers from a first one on that rows do not hold, in
order. -/
def absent (first count : Nat) (rows : Array String) : Array Char :=
  let held := (rows.toList.flatMap fun r => r.toList.map Char.toNat).filter fun n =>
    first ≤ n && n < first + count
  ((without (List.range' first count) held.mergeSort).map Char.ofNat).toArray

end TexBuild.Charset
