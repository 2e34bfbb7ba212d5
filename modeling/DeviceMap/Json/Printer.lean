import DeviceMap.Datum
import DeviceMap.Decimal.Notation
import DeviceMap.Hexadecimal

/-! The writing of data as JSON, on one line or laid out on several. -/
namespace DeviceMap.Json

/-- A character inside a string. Quotes, backslashes and control characters are
escaped, with a letter where there is one. -/
def escaped (c : Char) : List Char :=
  if c = '"' then ['\\', '"']
  else if c = '\\' then ['\\', '\\']
  else if c = '\n' then ['\\', 'n']
  else if c = '\r' then ['\\', 'r']
  else if c = '\t' then ['\\', 't']
  else if c = '\x08' then ['\\', 'b']
  else if c = '\x0c' then ['\\', 'f']
  else if c.toNat < 32 then
    ['\\', 'u', '0', '0', Hexadecimal.lower (c.toNat / 16), Hexadecimal.lower (c.toNat % 16)]
  else [c]

/-- A string with its quotes. -/
def quoted (s : String) : List Char := '"' :: s.toList.flatMap escaped ++ ['"']

/-- A number with a fraction or an exponent, in the fewest digits that read
back; of two equally near ones the even. The first digit of a number written by
position stands at most five places after the point or sixteen before it. What
is not finite has no number. -/
def number (x : Float) : List Char :=
  match Decimal.shortest? .even x with
  | some d => if -5 ≤ d.firstPower ∧ d.firstPower ≤ 15 then d.fractional else d.scientific
  | none => "null".toList

/-- A whole number. -/
def integer (n : Int) : List Char := Decimal.signed (n < 0) (Decimal.digits n.natAbs)

/-- The text of data without parts. -/
def leaf : Datum → List Char
  | .bool true => "true".toList
  | .bool false => "false".toList
  | .int n => integer n
  | .float x => number x
  | .text s => quoted s
  | _ => "null".toList

mutual

/-- The data on one line without blanks. -/
def compact : Datum → List Char
  | .list items => '[' :: compactItems items
  | .record fields => '{' :: compactFields fields
  | other => leaf other

def compactItems : List Datum → List Char
  | [] => [']']
  | [item] => compact item ++ [']']
  | item :: rest => compact item ++ ',' :: compactItems rest

def compactFields : List (String × Datum) → List Char
  | [] => ['}']
  | [(name, value)] => quoted name ++ ':' :: compact value ++ ['}']
  | (name, value) :: rest => quoted name ++ ':' :: compact value ++ ',' :: compactFields rest

end

/-- A new line at some depth: two blanks for each level. -/
def newline (depth : Nat) : List Char := '\n' :: List.replicate (2 * depth) ' '

mutual

/-- The data with every item and field on a line of its own. What is empty
stays on one line. -/
def pretty (depth : Nat) : Datum → List Char
  | .list [] => ['[', ']']
  | .list items => '[' :: prettyItems (depth + 1) items ++ newline depth ++ [']']
  | .record [] => ['{', '}']
  | .record fields => '{' :: prettyFields (depth + 1) fields ++ newline depth ++ ['}']
  | other => leaf other

def prettyItems (depth : Nat) : List Datum → List Char
  | [] => []
  | [item] => newline depth ++ pretty depth item
  | item :: rest => newline depth ++ pretty depth item ++ ',' :: prettyItems depth rest

def prettyFields (depth : Nat) : List (String × Datum) → List Char
  | [] => []
  | [(name, value)] => newline depth ++ quoted name ++ ':' :: ' ' :: pretty depth value
  | (name, value) :: rest =>
    newline depth ++ quoted name ++ ':' :: ' ' :: pretty depth value ++
      ',' :: prettyFields depth rest

end

/-- The text of data on one line. -/
def text (d : Datum) : String := String.ofList (compact d)

/-- The text of data laid out on several lines. -/
def layout (d : Datum) : String := String.ofList (pretty 0 d)

end DeviceMap.Json
