import DeviceMap.Datum
import DeviceMap.Decimal
import DeviceMap.Hexadecimal

/-! The reading of JSON. A text that is no JSON is refused. What is well formed
but has no value, such as a number beyond all doubles, half of a character or
a container that is nested too deeply, is read as unreadable data, so that only
those who need it have to refuse it. -/
namespace DeviceMap.Json.Reader

def isBlank (c : Char) : Bool := c = ' ' || c = '\n' || c = '\t' || c = '\r'

def skipBlanks (cs : List Char) : List Char := cs.dropWhile isBlank

/-- What the letter of a short escape stands for. -/
def escape? (c : Char) : Option Char :=
  if c = '"' ∨ c = '\\' ∨ c = '/' then some c
  else if c = 'b' then some '\x08'
  else if c = 'f' then some '\x0c'
  else if c = 'n' then some '\n'
  else if c = 'r' then some '\r'
  else if c = 't' then some '\t'
  else none

/-- The code units of a string after its opening quote, and what follows the
closing one. Control characters have to be escaped. -/
def codeUnits : List Char → Option (List Nat × List Char)
  | '"' :: rest => some ([], rest)
  | '\\' :: 'u' :: a :: b :: c :: d :: rest => do
    let unit ← Hexadecimal.number? [a, b, c, d]
    let (units, rest) ← codeUnits rest
    return (unit :: units, rest)
  | '\\' :: c :: rest => do
    let c ← escape? c
    let (units, rest) ← codeUnits rest
    return (c.toNat :: units, rest)
  | c :: rest =>
    if c.toNat < 32 then none
    else do
      let (units, rest) ← codeUnits rest
      return (c.toNat :: units, rest)
  | [] => none

def isHighSurrogate (unit : Nat) : Bool := 0xD800 ≤ unit && unit < 0xDC00

def isLowSurrogate (unit : Nat) : Bool := 0xDC00 ≤ unit && unit < 0xE000

/-- The characters that code units stand for. Two surrogates make a character
when they stand in the right order, and none otherwise. -/
def ofCodeUnits? : List Nat → Option (List Char)
  | [] => some []
  | unit :: rest =>
    if isLowSurrogate unit then none
    else if isHighSurrogate unit then
      match rest with
      | [] => none
      | low :: rest =>
        if isLowSurrogate low then
          (ofCodeUnits? rest).map
            (Char.ofNat (0x10000 + (unit - 0xD800) * 0x400 + (low - 0xDC00)) :: ·)
        else none
    else (ofCodeUnits? rest).map (Char.ofNat unit :: ·)

/-- A string after its opening quote: its text, if it has one, and what follows. -/
def string (cs : List Char) : Option (Option String × List Char) :=
  (codeUnits cs).map fun (units, rest) => ((ofCodeUnits? units).map String.ofList, rest)

/-- The digits in front, of which there has to be one. -/
def digits (cs : List Char) : Option (List Char × List Char) :=
  match cs.takeWhile Char.isDigit with
  | [] => none
  | found => some (found, cs.dropWhile Char.isDigit)

/-- The whole part of a number. No digit may follow a leading zero. -/
def wholePart (cs : List Char) : Option (List Char × List Char) := do
  let (found, rest) ← digits cs
  match found with
  | '0' :: _ :: _ => none
  | _ => return (found, rest)

/-- The part of a number after the point, if there is a point. -/
def fractionPart (cs : List Char) : Option (Option (List Char) × List Char) :=
  match cs with
  | '.' :: rest => (digits rest).map fun (found, rest) => (some found, rest)
  | _ => some (none, cs)

/-- The power of ten of a number, if one is written. -/
def exponentPart (cs : List Char) : Option (Option Int × List Char) :=
  match cs with
  | c :: rest =>
    if c = 'e' ∨ c = 'E' then
      match rest with
      | '-' :: rest =>
        (digits rest).map fun (found, rest) => (some (-(Decimal.ofDigits found : Int)), rest)
      | '+' :: rest =>
        (digits rest).map fun (found, rest) => (some (Decimal.ofDigits found : Int), rest)
      | rest => (digits rest).map fun (found, rest) => (some (Decimal.ofDigits found : Int), rest)
    else some (none, cs)
  | [] => some (none, [])

/-- The double that a decimal is read as: the nearest one. What is too large has none.
This is an assumption about the JSON library, on which rests that printed doubles are read
back exactly. One that rounds the digits and the power of ten apart may miss the nearest
double by a last place. -/
def double (d : Decimal) : Datum :=
  let x := d.toFloat
  if x.isFinite then .float x else .unreadable

/-- The value of a number without point and exponent: a whole number where it
fits into a word with or without a sign, and a double otherwise. A negative
zero is a double. -/
def wholeValue (negative : Bool) (found : List Char) : Datum :=
  let n := Decimal.ofDigits found
  if negative then
    if 0 < n ∧ n ≤ 0x8000000000000000 then .int (-n) else double ⟨true, n, 0⟩
  else if n < UInt64.size then .int n else double ⟨false, n, 0⟩

/-- A number. -/
def number (cs : List Char) : Option (Datum × List Char) := do
  let (negative, cs) := match cs with
    | '-' :: rest => (true, rest)
    | _ => (false, cs)
  let (found, cs) ← wholePart cs
  let (fraction, cs) ← fractionPart cs
  let (power, cs) ← exponentPart cs
  match fraction, power with
  | none, none => return (wholeValue negative found, cs)
  | _, _ => return (double (.ofParts negative found (fraction.getD []) (power.getD 0)), cs)

/-- How many containers may lie inside each other. -/
def nestingLimit : Nat := 127

/-- A container at some depth, unless it is too deep. -/
def nested (depth : Nat) (d : Datum) : Datum := if depth < nestingLimit then d else .unreadable

mutual

/-- A value that lies inside `depth` containers. -/
def value (fuel depth : Nat) (cs : List Char) : Option (Datum × List Char) :=
  match fuel with
  | 0 => none
  | fuel + 1 =>
    match skipBlanks cs with
    | '"' :: rest => (string rest).map fun (s, rest) => ((s.map .text).getD .unreadable, rest)
    | '[' :: rest =>
      match skipBlanks rest with
      | ']' :: rest => some (nested depth (.list []), rest)
      | rest => (items fuel (depth + 1) rest).map fun (found, rest) =>
          (nested depth (.list found), rest)
    | '{' :: rest =>
      match skipBlanks rest with
      | '}' :: rest => some (nested depth (.record []), rest)
      | rest => (fields fuel (depth + 1) rest).map fun (found, rest) =>
          (nested depth ((found.map .record).getD .unreadable), rest)
    | 'n' :: 'u' :: 'l' :: 'l' :: rest => some (.null, rest)
    | 't' :: 'r' :: 'u' :: 'e' :: rest => some (.bool true, rest)
    | 'f' :: 'a' :: 'l' :: 's' :: 'e' :: rest => some (.bool false, rest)
    | rest => number rest

/-- The items of a list up to its closing bracket. -/
def items (fuel depth : Nat) (cs : List Char) : Option (List Datum × List Char) :=
  match fuel with
  | 0 => none
  | fuel + 1 => do
    let (item, rest) ← value fuel depth cs
    match skipBlanks rest with
    | ']' :: rest => return ([item], rest)
    | ',' :: rest =>
      let (more, rest) ← items fuel depth rest
      return (item :: more, rest)
    | _ => none

/-- The fields of a record up to its closing brace. They are none where a name
is no text. -/
def fields (fuel depth : Nat) (cs : List Char) :
    Option (Option (List (String × Datum)) × List Char) :=
  match fuel with
  | 0 => none
  | fuel + 1 =>
    match skipBlanks cs with
    | '"' :: rest => do
      let (name, rest) ← string rest
      match skipBlanks rest with
      | ':' :: rest =>
        let (found, rest) ← value fuel depth rest
        let field := name.map (·, found)
        match skipBlanks rest with
        | '}' :: rest => return (field.map ([·]), rest)
        | ',' :: rest =>
          let (more, rest) ← fields fuel depth rest
          return (field.bind fun field => more.map (field :: ·), rest)
        | _ => none
      | _ => none
    | _ => none

end

end Reader

open Reader in
/-- The value that a whole text stands for. Each step of the reader takes a
character or descends once for one that was taken, so twice the length of the
text is enough. -/
def read (text : String) : Option Datum := do
  let cs := text.toList
  let (found, rest) ← value (2 * cs.length + 2) 0 cs
  if (skipBlanks rest).isEmpty then return found else none

end DeviceMap.Json
