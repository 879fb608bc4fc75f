import NotebookSim.Text.Digits
/-!
Dates, times and their combinations in TOML. Seconds may be left out of a time, and a blank may
stand for the letter between a date and a time.
-/
namespace NotebookSim.Toml.Moment

/-- The number of two digits. -/
def two? (a b : Char) : Option Nat := Text.natural? [a, b]

def isLeapYear (year : Nat) : Bool := (year % 4 == 0 && year % 100 != 0) || year % 400 == 0

def daysInMonth (year month : Nat) : Nat :=
  if month = 2 then (if isLeapYear year then 29 else 28)
  else if month = 4 ∨ month = 6 ∨ month = 9 ∨ month = 11 then 30
  else 31

/-- The text after a calendar date. -/
def afterDate? : List Char → Option (List Char)
  | a :: b :: c :: d :: '-' :: m :: m' :: '-' :: e :: e' :: rest => do
    let year ← Text.natural? [a, b, c, d]
    let month ← two? m m'
    let day ← two? e e'
    if 1 ≤ month ∧ month ≤ 12 ∧ 1 ≤ day ∧ day ≤ daysInMonth year month then some rest else none
  | _ => none

/-- The text after the fraction of a second, if there is one. -/
def afterFraction? : List Char → Option (List Char)
  | '.' :: cs =>
    if (cs.takeWhile Char.isDigit).isEmpty then none else some (cs.dropWhile Char.isDigit)
  | cs => some cs

/-- The text after the seconds of a time, if there are any. A leap second counts as 60. -/
def afterSeconds? : List Char → Option (List Char)
  | ':' :: s :: s' :: rest => do
    let second ← two? s s'
    if second ≤ 60 then afterFraction? rest else none
  | ':' :: _ => none
  | cs => some cs

/-- The text after a time of day. -/
def afterTime? : List Char → Option (List Char)
  | h :: h' :: ':' :: m :: m' :: rest => do
    let hour ← two? h h'
    let minute ← two? m m'
    if hour ≤ 23 ∧ minute ≤ 59 then afterSeconds? rest else none
  | _ => none

/-- Whether the text is nothing, or an offset from universal time. -/
def isOffset : List Char → Bool
  | [] => true
  | ['Z'] => true
  | ['z'] => true
  | [sign, h, h', ':', m, m'] =>
    (sign == '+' || sign == '-') &&
      match two? h h', two? m m' with
      | some hour, some minute => decide (hour ≤ 23) && decide (minute ≤ 59)
      | _, _ => false
  | _ => false

def isDate (cs : List Char) : Bool := afterDate? cs == some []

/-- Whether the text is a date, a time, or a date and time with or without an offset. -/
def isValid (cs : List Char) : Bool :=
  match afterDate? cs with
  | some [] => true
  | some (sep :: rest) =>
    (sep == 'T' || sep == 't' || sep == ' ') &&
      match afterTime? rest with
      | some rest => isOffset rest
      | none => false
  | none => afterTime? cs == some []

end NotebookSim.Toml.Moment
