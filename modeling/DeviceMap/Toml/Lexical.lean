/-! What stands between the parts of a TOML document: blanks, line ends and
comments. Readers take the characters that are left and give back what they
found together with the rest. -/
namespace DeviceMap.Toml

/-- The digits in front, of which there has to be a certain number. -/
def fixedDigits (count : Nat) (cs : List Char) : Option (List Char × List Char) :=
  let found := cs.take count
  if found.length = count ∧ found.all Char.isDigit then some (found, cs.drop count) else none

def isBlank (c : Char) : Bool := c = ' ' || c = '\t'

def skipBlanks (cs : List Char) : List Char := cs.dropWhile isBlank

/-- What may stand in a comment or a string without a special meaning:
anything but control characters other than the tabulator. -/
def isPlain (c : Char) : Bool := c = '\t' || (32 ≤ c.toNat && c.toNat ≠ 127)

/-- What follows a line end. A carriage return only counts before a line feed. -/
def newline? : List Char → Option (List Char)
  | '\n' :: rest => some rest
  | '\r' :: '\n' :: rest => some rest
  | _ => none

/-- What follows a comment, if there is one. -/
def skipComment : List Char → List Char
  | '#' :: rest => rest.dropWhile isPlain
  | cs => cs

/-- What follows the end of a line or of the document, after blanks and a
comment. -/
def lineEnd? (cs : List Char) : Option (List Char) :=
  match skipComment (skipBlanks cs) with
  | [] => some []
  | cs => newline? cs

/-- What follows blanks, line ends and comments, in a comment or outside. -/
def skipFillerFrom (inComment : Bool) : List Char → List Char
  | [] => []
  | c :: rest =>
    if inComment && isPlain c then skipFillerFrom true rest
    else if isBlank c || c = '\n' then skipFillerFrom false rest
    else if c = '#' then skipFillerFrom true rest
    else if c = '\r' then
      match rest with
      | '\n' :: rest => skipFillerFrom false rest
      | rest => '\r' :: rest
    else c :: rest

/-- What follows any number of blanks, line ends and comments. -/
def skipFiller (cs : List Char) : List Char := skipFillerFrom false cs

end DeviceMap.Toml
