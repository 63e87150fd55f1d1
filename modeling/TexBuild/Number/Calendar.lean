namespace TexBuild.Calendar

/-- The year has a day more in February. -/
def isLeap (year : Nat) : Bool :=
  year % 4 == 0 && (year % 100 != 0 || year % 400 == 0)

/-- The days of a month. -/
def daysIn (year month : Nat) : Nat :=
  if month = 2 then (if isLeap year then 29 else 28)
  else if [4, 6, 9, 11].contains month then 30
  else 31

/-- The number of a day in its year, from one on. -/
def dayOfYear (year month day : Nat) : Nat :=
  ((List.range' 1 (month - 1)).foldl (fun n m => n + daysIn year m) 0) + day

/-- The number of a day, counted from the first one of the first year. -/
def ordinal (year month day : Nat) : Nat :=
  let past := year - 1
  365 * past + past / 4 - past / 100 + past / 400 + dayOfYear year month day

/-- The day of the week, from zero for Monday on. -/
def weekday (year month day : Nat) : Nat :=
  (ordinal year month day + 6) % 7

/-- The number of the day from which clocks count. -/
def epoch : Nat := ordinal 1970 1 1

def monthNames : List String :=
  ["January", "February", "March", "April", "May", "June", "July", "August", "September", "October",
    "November", "December"]

def dayNames : List String :=
  ["Monday", "Tuesday", "Wednesday", "Thursday", "Friday", "Saturday", "Sunday"]

end TexBuild.Calendar
