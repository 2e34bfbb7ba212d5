import DeviceMap.Hexadecimal
import DeviceMap.Toml.Lexical

/-! Quoted strings of TOML: with escapes between double quotes, and as they
stand between single quotes; on one line, or over several lines between three
quotes. Each reader starts after the opening quotes. -/
namespace DeviceMap.Toml

/-- What the letter of a short escape stands for. -/
def escape? (c : Char) : Option Char :=
  if c = '"' ∨ c = '\\' then some c
  else if c = 'b' then some '\x08'
  else if c = 'f' then some '\x0c'
  else if c = 'n' then some '\n'
  else if c = 'r' then some '\r'
  else if c = 't' then some '\t'
  else none

/-- The character with the number that hexadecimal digits give. -/
def numbered? (digits : List Char) : Option Char := do
  let n ← Hexadecimal.number? digits
  if n.isValidChar then return Char.ofNat n else none

/-- A string between double quotes on one line. -/
def basic : List Char → Option (List Char × List Char)
  | '"' :: rest => some ([], rest)
  | '\\' :: 'u' :: a :: b :: c :: d :: rest => do
    let c ← numbered? [a, b, c, d]
    let (found, rest) ← basic rest
    return (c :: found, rest)
  | '\\' :: 'U' :: a :: b :: c :: d :: e :: f :: g :: h :: rest => do
    let c ← numbered? [a, b, c, d, e, f, g, h]
    let (found, rest) ← basic rest
    return (c :: found, rest)
  | '\\' :: c :: rest => do
    let c ← escape? c
    let (found, rest) ← basic rest
    return (c :: found, rest)
  | c :: rest =>
    if isPlain c && c ≠ '\\' then do
      let (found, rest) ← basic rest
      return (c :: found, rest)
    else none
  | [] => none

/-- A string between single quotes on one line. -/
def literal : List Char → Option (List Char × List Char)
  | '\'' :: rest => some ([], rest)
  | c :: rest =>
    if isPlain c then do
      let (found, rest) ← literal rest
      return (c :: found, rest)
    else none
  | [] => none

/-- Up to two quotes more than the three that close a string belong to it. -/
def closing (quote : Char) (cs : List Char) : List Char × List Char :=
  let more := (cs.take 2).takeWhile (· = quote)
  (more, cs.drop more.length)

/-- A string between three double quotes. A backslash at the end of a line
removes the blanks and line ends that follow; `trimming` is set among them. -/
def multiBasic (trimming : Bool) : List Char → Option (List Char × List Char)
  | '"' :: '"' :: '"' :: rest => some (closing '"' rest)
  | '\\' :: 'u' :: a :: b :: c :: d :: rest => do
    let c ← numbered? [a, b, c, d]
    let (found, rest) ← multiBasic false rest
    return (c :: found, rest)
  | '\\' :: 'U' :: a :: b :: c :: d :: e :: f :: g :: h :: rest => do
    let c ← numbered? [a, b, c, d, e, f, g, h]
    let (found, rest) ← multiBasic false rest
    return (c :: found, rest)
  | '\r' :: '\n' :: rest =>
    if trimming then multiBasic true rest
    else do
      let (found, rest) ← multiBasic false rest
      return ('\n' :: found, rest)
  | c :: rest =>
    if c = '\\' ∧ (newline? (skipBlanks rest)).isSome then multiBasic true rest
    else if c = '\\' then
      match rest with
      | [] => none
      | letter :: rest => do
        let c ← escape? letter
        let (found, rest) ← multiBasic false rest
        return (c :: found, rest)
    else if c = '\n' || isPlain c then
      if trimming && (c = '\n' || isBlank c) then multiBasic true rest
      else do
        let (found, rest) ← multiBasic false rest
        return (c :: found, rest)
    else none
  | [] => none

/-- A string between three single quotes. -/
def multiLiteral : List Char → Option (List Char × List Char)
  | '\'' :: '\'' :: '\'' :: rest => some (closing '\'' rest)
  | '\r' :: '\n' :: rest => do
    let (found, rest) ← multiLiteral rest
    return ('\n' :: found, rest)
  | c :: rest =>
    if c = '\n' || isPlain c then do
      let (found, rest) ← multiLiteral rest
      return (c :: found, rest)
    else none
  | [] => none

/-- A line end right after the opening quotes does not count. -/
def skipFirstNewline (cs : List Char) : List Char := (newline? cs).getD cs

/-- A quoted string of any kind with its opening quotes. -/
def string? (cs : List Char) : Option (List Char × List Char) :=
  match cs with
  | '"' :: '"' :: '"' :: rest => multiBasic false (skipFirstNewline rest)
  | '"' :: rest => basic rest
  | '\'' :: '\'' :: '\'' :: rest => multiLiteral (skipFirstNewline rest)
  | '\'' :: rest => literal rest
  | _ => none

end DeviceMap.Toml
