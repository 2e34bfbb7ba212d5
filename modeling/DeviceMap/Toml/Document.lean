import DeviceMap.Toml.Value

/-! Documents of TOML: lines that assign values or head a table, and the tables
that they fill. -/
namespace DeviceMap.Toml

/-- A line of a document that is not empty. -/
inductive Line where
  | assignment (a : Assignment)
  /-- A table at a path. -/
  | table (path : List String) (name : String)
  /-- Another table in a list of tables at a path. -/
  | element (path : List String) (name : String)

/-- A line after the blanks in front of it, up to its end. -/
def line? (cs : List Char) : Option (Line × List Char) :=
  match cs with
  | '[' :: '[' :: rest => do
    let ((path, name), rest) ← key? rest
    match rest with
    | ']' :: ']' :: rest => return (.element path name, ← lineEnd? rest)
    | _ => none
  | '[' :: rest => do
    let ((path, name), rest) ← key? rest
    match rest with
    | ']' :: rest => return (.table path name, ← lineEnd? rest)
    | _ => none
  | cs => do
    let ((path, name), rest) ← key? cs
    match rest with
    | '=' :: rest =>
      let (found, rest) ← value? (skipBlanks rest)
      return (.assignment ⟨path, name, found⟩, ← lineEnd? rest)
    | _ => none

/-- The lines of a document. -/
def linesFrom (fuel : Nat) (cs : List Char) : Option (List Line) :=
  match fuel with
  | 0 => none
  | fuel + 1 =>
    match skipBlanks cs with
    | [] => some []
    | '#' :: rest => (lineEnd? ('#' :: rest)).bind (linesFrom fuel)
    | cs =>
      match newline? cs with
      | some rest => linesFrom fuel rest
      | none => do
        let (line, rest) ← line? cs
        return line :: (← linesFrom fuel rest)

/-- The lines of a text. A byte order mark in front does not count. -/
def lines? (text : String) : Option (List Line) :=
  let cs := match text.toList with
    | '\uFEFF' :: rest => rest
    | cs => cs
  linesFrom (cs.length + 1) cs

/-- What heads a part of a document. -/
inductive Heading where
  | document
  | table (path : List String) (name : String)
  | element (path : List String) (name : String)

/-- A part of a document: its heading and the values assigned below it. -/
structure Section where
  heading : Heading
  assignments : List Assignment

/-- The part of a document under a heading, and the parts after it. -/
def sectionsUnder (heading : Heading) : List Line → Section × List Section
  | [] => (⟨heading, []⟩, [])
  | .assignment a :: rest =>
    let (first, more) := sectionsUnder heading rest
    ({ first with assignments := a :: first.assignments }, more)
  | .table path name :: rest =>
    let (first, more) := sectionsUnder (.table path name) rest
    (⟨heading, []⟩, first :: more)
  | .element path name :: rest =>
    let (first, more) := sectionsUnder (.element path name) rest
    (⟨heading, []⟩, first :: more)

/-- Adds a part to the tables of a document. A table may be headed once, after
others may have implied it; a list of tables grows by an element. -/
def Table.add? (root : Table) (part : Section) : Option Table :=
  match part.heading with
  | .document => root.fill? part.assignments
  | .table path name =>
    root.change? .implied (fun parent =>
      match parent.find? name with
      | none => (fill? ⟨.declared, []⟩ part.assignments).map fun made =>
          parent.put name (.table .declared made.entries)
      | some (.table .implied entries) =>
        (fill? ⟨.declared, entries⟩ part.assignments).map fun made =>
          parent.put name (.table .declared made.entries)
      | some _ => none) path
  | .element path name =>
    root.change? .implied (fun parent =>
      match parent.find? name with
      | none => (fill? ⟨.declared, []⟩ part.assignments).map fun made =>
          parent.put name (.tables [] made.entries)
      | some (.tables earlier last) =>
        (fill? ⟨.declared, []⟩ part.assignments).map fun made =>
          parent.put name (.tables (earlier ++ [.record (entriesData last)]) made.entries)
      | some _ => none) path

/-- The data of a document. -/
def read (text : String) : Option Datum := do
  let (first, more) := sectionsUnder .document (← lines? text)
  let root ← (first :: more).foldlM Table.add? ⟨.declared, []⟩
  return root.datum

end DeviceMap.Toml
