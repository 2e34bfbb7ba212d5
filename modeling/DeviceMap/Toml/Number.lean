import DeviceMap.Datum
import DeviceMap.Decimal
import DeviceMap.Hexadecimal
import DeviceMap.Toml.Lexical

/-! Numbers of TOML. Single underscores may stand between digits. Whole numbers
fit into a signed word of 64 bits; doubles have a point or a power of ten, or
are one of the names of what is no number. -/
namespace DeviceMap.Toml

/-- The digits of some kind in front, without the underscores between them. -/
def moreDigits (isDigit : Char → Bool) : List Char → List Char × List Char
  | '_' :: c :: rest =>
    if isDigit c then
      let (found, rest) := moreDigits isDigit rest
      (c :: found, rest)
    else ([], '_' :: c :: rest)
  | c :: rest =>
    if isDigit c then
      let (found, rest) := moreDigits isDigit rest
      (c :: found, rest)
    else ([], c :: rest)
  | [] => ([], [])

/-- Digits of some kind, of which there has to be one. -/
def someDigits (isDigit : Char → Bool) (cs : List Char) : Option (List Char × List Char) :=
  match cs with
  | c :: rest =>
    if isDigit c then
      let (found, rest) := moreDigits isDigit rest
      some (c :: found, rest)
    else none
  | [] => none

/-- Digits that do not start with a zero, or a single zero. -/
def wholeDigits (cs : List Char) : Option (List Char × List Char) :=
  match cs with
  | '0' :: rest => some (['0'], rest)
  | _ => someDigits Char.isDigit cs

/-- Whether a sign in front is negative, and what follows it. -/
def sign : List Char → Bool × List Char
  | '-' :: rest => (true, rest)
  | '+' :: rest => (false, rest)
  | cs => (false, cs)

/-- The digits after a point, if there is a point. -/
def fraction (cs : List Char) : Option (Option (List Char) × List Char) :=
  match cs with
  | '.' :: rest => (someDigits Char.isDigit rest).map fun (found, rest) => (some found, rest)
  | _ => some (none, cs)

/-- The power of ten, if one is written. -/
def power (cs : List Char) : Option (Option Int × List Char) :=
  match cs with
  | c :: rest =>
    if c = 'e' ∨ c = 'E' then
      let (negative, rest) := sign rest
      (someDigits Char.isDigit rest).map fun (found, rest) =>
        let size : Int := Decimal.ofDigits found
        (some (if negative then -size else size), rest)
    else some (none, cs)
  | [] => some (none, [])

/-- A whole number, if it fits into a word. -/
def word? (n : Int) : Option Datum :=
  if -0x8000000000000000 ≤ n ∧ n < 0x8000000000000000 then some (.int n) else none

/-- A number in base ten. A double that is too large is refused; one that is
too small below zero is the negative infinity. -/
def decimal? (cs : List Char) : Option (Datum × List Char) := do
  let (negative, cs) := sign cs
  let (whole, cs) ← wholeDigits cs
  let (fraction, cs) ← fraction cs
  let (power, cs) ← power cs
  match fraction, power with
  | none, none =>
    let size : Int := Decimal.ofDigits whole
    return (← word? (if negative then -size else size), cs)
  | _, _ =>
    let d : Decimal := .ofParts negative whole (fraction.getD []) (power.getD 0)
    let x := d.toFloat
    if x.isFinite || negative then return (.float x, cs) else none

/-- A double by its name. -/
def named? (cs : List Char) : Option (Datum × List Char) :=
  let (negative, cs) := sign cs
  let signed (x : Float) : Datum := .float (if negative then -x else x)
  match cs with
  | 'i' :: 'n' :: 'f' :: rest => some (signed (1.0 / 0.0), rest)
  | 'n' :: 'a' :: 'n' :: rest => some (signed (0.0 / 0.0), rest)
  | _ => none

def isHexDigit (c : Char) : Bool := (Hexadecimal.value? c).isSome

def isOctalDigit (c : Char) : Bool := '0' ≤ c && c ≤ '7'

def isBinaryDigit (c : Char) : Bool := c = '0' || c = '1'

/-- A whole number in a base other than ten, whose digits are hexadecimal ones
as well. It has no sign. -/
def based? (base : Nat) (isDigit : Char → Bool) (cs : List Char) : Option (Datum × List Char) := do
  let (found, rest) ← someDigits isDigit cs
  let n := found.foldl (fun n c => base * n + (Hexadecimal.value? c).getD 0) 0
  return (← word? n, rest)

/-- A number of any kind. -/
def number? (cs : List Char) : Option (Datum × List Char) :=
  match cs with
  | '0' :: 'x' :: rest => based? 16 isHexDigit rest
  | '0' :: 'o' :: rest => based? 8 isOctalDigit rest
  | '0' :: 'b' :: rest => based? 2 isBinaryDigit rest
  | _ => (named? cs).or (decimal? cs)

end DeviceMap.Toml
