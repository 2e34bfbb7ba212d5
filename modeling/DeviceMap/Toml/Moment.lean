import DeviceMap.Datum
import DeviceMap.Decimal
import DeviceMap.Toml.Lexical

/-! Dates and times of TOML. Their values are of no use to the records of the
map, but they have to be valid. -/
namespace DeviceMap.Toml

/-- A number of exactly so many digits within some range. -/
def bounded (count low high : Nat) (cs : List Char) : Option (Nat × List Char) := do
  let (found, rest) ← fixedDigits count cs
  let n := Decimal.ofDigits found
  if low ≤ n ∧ n ≤ high then return (n, rest) else none

/-- What follows a certain character. -/
def after? (c : Char) (cs : List Char) : Option (List Char) :=
  match cs with
  | first :: rest => if first = c then some rest else none
  | [] => none

def isLeapYear (year : Nat) : Bool := year % 4 = 0 && (year % 100 ≠ 0 || year % 400 = 0)

def daysInMonth (year month : Nat) : Nat :=
  if month = 2 then if isLeapYear year then 29 else 28
  else if month = 4 ∨ month = 6 ∨ month = 9 ∨ month = 11 then 30
  else 31

/-- What follows a date. -/
def date? (cs : List Char) : Option (List Char) := do
  let (year, cs) ← bounded 4 0 9999 cs
  let cs ← after? '-' cs
  let (month, cs) ← bounded 2 1 12 cs
  let cs ← after? '-' cs
  let (_, cs) ← bounded 2 1 (daysInMonth year month) cs
  return cs

/-- What follows the fraction of a second, if there is one. -/
def skipFraction (cs : List Char) : List Char :=
  match cs with
  | '.' :: c :: rest => if c.isDigit then rest.dropWhile Char.isDigit else cs
  | _ => cs

/-- What follows a time of day. A minute may have a leap second. -/
def time? (cs : List Char) : Option (List Char) := do
  let (_, cs) ← bounded 2 0 23 cs
  let cs ← after? ':' cs
  let (_, cs) ← bounded 2 0 59 cs
  let cs ← after? ':' cs
  let (_, cs) ← bounded 2 0 60 cs
  return skipFraction cs

/-- What follows the distance from the reference time, if there is one. -/
def skipOffset (cs : List Char) : List Char :=
  match cs with
  | 'Z' :: rest | 'z' :: rest => rest
  | '+' :: rest | '-' :: rest =>
    let found := do
      let (_, rest) ← bounded 2 0 23 rest
      let rest ← after? ':' rest
      let (_, rest) ← bounded 2 0 59 rest
      return rest
    found.getD cs
  | _ => cs

/-- What follows the time of day after a date, if there is one. -/
def skipTime (cs : List Char) : List Char :=
  match cs with
  | 'T' :: rest | 't' :: rest | ' ' :: rest => ((time? rest).map skipOffset).getD cs
  | _ => cs

/-- A date with or without a time, or a time. Among data it is a record of its
text, whose field no record of the map declares. -/
def moment? (cs : List Char) : Option (Datum × List Char) := do
  let rest ← ((date? cs).map skipTime).or (time? cs)
  let text := cs.take (cs.length - rest.length)
  return (.record [("datetime", .text (String.ofList text))], rest)

end DeviceMap.Toml
