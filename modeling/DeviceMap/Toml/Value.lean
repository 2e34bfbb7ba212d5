import DeviceMap.Toml.Moment
import DeviceMap.Toml.Number
import DeviceMap.Toml.Quoted
import DeviceMap.Toml.Table

/-! Keys and values of TOML. -/
namespace DeviceMap.Toml

/-- How many parts a key may have and how many containers may lie inside each
other is less than this. -/
def nestingBound : Nat := 80

def isKeyCharacter (c : Char) : Bool := c.isAlphanum || c = '_' || c = '-'

/-- A part of a key: a bare word or a quoted string on one line. -/
def keyPart? (cs : List Char) : Option (String × List Char) :=
  match cs with
  | '"' :: rest => (basic rest).map fun (found, rest) => (String.ofList found, rest)
  | '\'' :: rest => (literal rest).map fun (found, rest) => (String.ofList found, rest)
  | cs =>
    match cs.takeWhile isKeyCharacter with
    | [] => none
    | found => some (String.ofList found, cs.dropWhile isKeyCharacter)

/-- The parts of a key with points between them, and what follows them. Blanks
may stand around each part. -/
def keyParts (fuel : Nat) (cs : List Char) : Option (List String × List Char) :=
  match fuel with
  | 0 => none
  | fuel + 1 => do
    let (part, rest) ← keyPart? (skipBlanks cs)
    match skipBlanks rest with
    | '.' :: rest =>
      let (more, rest) ← keyParts fuel rest
      return (part :: more, rest)
    | rest => return ([part], rest)

/-- A key as a path and a last name. It has fewer parts than the bound. -/
def key? (cs : List Char) : Option ((List String × String) × List Char) := do
  let (parts, rest) ← keyParts (nestingBound - 1) cs
  return ((parts.dropLast, ← parts.getLast?), rest)

/-- A value without parts. -/
def leaf? (cs : List Char) : Option (Datum × List Char) :=
  match cs with
  | 't' :: 'r' :: 'u' :: 'e' :: rest => some (.bool true, rest)
  | 'f' :: 'a' :: 'l' :: 's' :: 'e' :: rest => some (.bool false, rest)
  | '"' :: _ | '\'' :: _ =>
    (string? cs).map fun (found, rest) => (.text (String.ofList found), rest)
  | cs => (moment? cs).or (number? cs)

mutual

/-- A value that lies inside `depth` containers. -/
def value (fuel depth : Nat) (cs : List Char) : Option (Datum × List Char) :=
  match fuel with
  | 0 => none
  | fuel + 1 =>
    match cs with
    | '[' :: rest =>
      if depth + 1 < nestingBound then
        (items fuel (depth + 1) rest).map fun (found, rest) => (.list found, rest)
      else none
    | '{' :: rest =>
      if depth + 1 < nestingBound then
        match skipBlanks rest with
        | '}' :: rest => some (.record [], rest)
        | rest => do
          let (found, rest) ← assignments fuel (depth + 1) rest
          return ((← Table.ofAssignments? found).datum, rest)
      else none
    | cs => leaf? cs

/-- The items of a list up to its closing bracket, over any number of lines. A
comma may follow the last one. -/
def items (fuel depth : Nat) (cs : List Char) : Option (List Datum × List Char) :=
  match fuel with
  | 0 => none
  | fuel + 1 =>
    match skipFiller cs with
    | ']' :: rest => some ([], rest)
    | cs => do
      let (item, rest) ← value fuel depth cs
      match skipFiller rest with
      | ',' :: rest =>
        let (more, rest) ← items fuel depth rest
        return (item :: more, rest)
      | ']' :: rest => return ([item], rest)
      | _ => none

/-- The assignments of a table up to its closing brace, on one line. -/
def assignments (fuel depth : Nat) (cs : List Char) : Option (List Assignment × List Char) :=
  match fuel with
  | 0 => none
  | fuel + 1 => do
    let ((path, name), rest) ← key? cs
    match rest with
    | '=' :: rest =>
      let (found, rest) ← value fuel depth (skipBlanks rest)
      match skipBlanks rest with
      | ',' :: rest =>
        let (more, rest) ← assignments fuel depth rest
        return (⟨path, name, found⟩ :: more, rest)
      | '}' :: rest => return ([⟨path, name, found⟩], rest)
      | _ => none
    | _ => none

end

/-- A value that lies inside no container. Each step of the reader takes a
character or descends once for one that was taken. -/
def value? (cs : List Char) : Option (Datum × List Char) := value (2 * cs.length + 2) 0 cs

end DeviceMap.Toml
