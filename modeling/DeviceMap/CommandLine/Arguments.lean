import DeviceMap.Decimal
import DeviceMap.Scalar.Double

/-! The arguments of the command line: options that every command takes, the
name of a command, and the options and operands of that command. Arguments are
looked at one after the other, and the first one that is wrong, or asks for the
version, decides. Help is left out, so whoever asks for it is taken to be wrong. -/
namespace DeviceMap.CommandLine

/-- What the program is asked to do. -/
inductive Command where
  | projection
  | dial (bearing tilt : Float)
  | replay (scene gestures : String)
  | ranging (scene : String)

/-- A complete request. -/
structure Request where
  settings : String
  logLevel : String
  command : Command

/-- What arguments come to when they are right. -/
inductive Arguments where
  | version
  | request (r : Request)

/-- An option by its long name and its letter. Its value may only stand in an
argument of its own that starts with a hyphen if `hyphens` is set. -/
structure OptionName where
  name : String
  letter : Option Char
  hyphens : Bool

/-- The options that may stand before and after the name of a command. -/
def commonOptions : List OptionName := [⟨"config", some 'c', false⟩, ⟨"log-level", some 'l', false⟩]

/-- The options of the dial. -/
def dialOptions : List OptionName := [⟨"bearing", none, true⟩, ⟨"tilt", none, true⟩]

/-- What an argument is. -/
inductive Item where
  | option (name value : String)
  | version
  | operand (text : String)
  /-- All further arguments are operands. -/
  | separator

/-- Whether an argument is taken for options: a hyphen alone is not. -/
def isHyphenated : List Char → Bool
  | '-' :: _ :: _ => true
  | _ => false

/-- The value of an option that stands in the argument after it. -/
def followingValue (o : OptionName) : List String → Option (Item × List String)
  | [] => none
  | value :: rest =>
    if o.hyphens || !isHyphenated value.toList then some (.option o.name value, rest) else none

/-- An argument with a long name, after its two hyphens. A value may follow an
equals sign. -/
def longItem (options : List OptionName) (version : Bool) (cs : List Char) (rest : List String) :
    Option (Item × List String) :=
  let name := String.ofList (cs.takeWhile (· ≠ '='))
  let attached := cs.dropWhile (· ≠ '=')
  match options.find? (·.name = name), attached with
  | some o, [] => followingValue o rest
  | some o, _ :: value => some (.option o.name (String.ofList value), rest)
  | none, [] => if version ∧ name = "version" then some (.version, rest) else none
  | none, _ => none

/-- An argument with a letter, after its hyphen. The value may follow the
letter, with or without an equals sign. -/
def shortItem (options : List OptionName) (version : Bool) (letter : Char) (attached : List Char)
    (rest : List String) : Option (Item × List String) :=
  match options.find? (·.letter = some letter), attached with
  | some o, [] => followingValue o rest
  | some o, '=' :: value | some o, value => some (.option o.name (String.ofList value), rest)
  | none, _ => if version ∧ letter = 'V' then some (.version, rest) else none

/-- What the first argument is, and the arguments after it and its value. -/
def item? (options : List OptionName) (version : Bool) (argument : String) (rest : List String) :
    Option (Item × List String) :=
  match argument.toList with
  | ['-', '-'] => some (.separator, rest)
  | '-' :: '-' :: cs => longItem options version cs rest
  | '-' :: letter :: attached => shortItem options version letter attached rest
  | _ => some (.operand argument, rest)

/-- The values of options by their names. -/
abbrev Values := List (String × String)

/-- The value given for an option. -/
def Values.get? (values : Values) (name : String) : Option String :=
  (values.find? (·.1 = name)).map (·.2)

/-- Adds the value of an option, which may be given once. The settings need the
name of a file. -/
def Values.add? (values : Values) (name value : String) : Option Values :=
  if (values.get? name).isSome ∨ (name = "config" ∧ value = "") then none
  else some ((name, value) :: values)

/-- The options and operands after the name of a command. -/
def parts (options : List OptionName) (fuel : Nat) (values : Values) (args : List String) :
    Option (Values × List String) :=
  match fuel, args with
  | 0, _ => none
  | _, [] => some (values, [])
  | fuel + 1, argument :: rest => do
    let (item, rest) ← item? options false argument rest
    match item with
    | .option name value => parts options fuel (← values.add? name value) rest
    | .operand text =>
      let (values, operands) ← parts options fuel values rest
      return (values, text :: operands)
    | .separator => return (values, rest)
    | .version => none

/-- A number among arguments: digits with an optional point and an optional
power of ten, or a name for what is infinite or no number, in either case. -/
def number? (text : String) : Option Float :=
  let (negative, cs) := match text.toList with
    | '-' :: rest => (true, rest)
    | '+' :: rest => (false, rest)
    | cs => (false, cs)
  let signed (x : Float) : Float := if negative then -x else x
  let name := String.ofList (cs.map Char.toLower)
  if name = "inf" ∨ name = "infinity" then some (signed (1.0 / 0.0))
  else if name = "nan" then some (signed (0.0 / 0.0))
  else
    let whole := cs.takeWhile Char.isDigit
    let (fraction, rest) := match cs.dropWhile Char.isDigit with
      | '.' :: rest => (rest.takeWhile Char.isDigit, rest.dropWhile Char.isDigit)
      | rest => ([], rest)
    let power? : Option Int := match rest with
      | [] => some 0
      | mark :: rest =>
        let (down, found) := match rest with
          | '-' :: rest => (true, rest)
          | '+' :: rest => (false, rest)
          | rest => (false, rest)
        if (mark = 'e' ∨ mark = 'E') ∧ found ≠ [] ∧ found.all Char.isDigit then
          let size : Int := Decimal.ofDigits found
          some (if down then -size else size)
        else none
    if whole.isEmpty && fraction.isEmpty then none
    else power?.map fun power => (Decimal.ofParts negative whole fraction power).toFloat

/-- The name of a file, which is not empty. -/
def fileName? (text : String) : Option String := if text = "" then none else some text

/-- A command by its name, from the arguments after it, and the values of the
common options among them. -/
def command? (name : String) (args : List String) : Option (Command × Values) := do
  let read (options : List OptionName) := parts options (args.length + 1) [] args
  match name with
  | "projection" =>
    let (values, []) ← read commonOptions | none
    return (.projection, values)
  | "dial" =>
    let (values, []) ← read (commonOptions ++ dialOptions) | none
    return (.dial (← number? (← values.get? "bearing")) (← number? (← values.get? "tilt")), values)
  | "replay" =>
    let (values, [scene, gestures]) ← read commonOptions | none
    return (.replay (← fileName? scene) (← fileName? gestures), values)
  | "ranging" =>
    let (values, [scene]) ← read commonOptions | none
    return (.ranging (← fileName? scene), values)
  | _ => none

/-- The name of the settings file when none is given. -/
def defaultSettings : String := "isomap.toml"

/-- Reads arguments that stand before the name of a command, and then the
command. A common option after the name of the command counts before one in
front of it. -/
def argumentsFrom (fuel : Nat) (outer : Values) (args : List String) : Option Arguments :=
  match fuel, args with
  | 0, _ | _, [] => none
  | fuel + 1, argument :: rest => do
    let (item, rest) ← item? commonOptions true argument rest
    match item with
    | .option name value => argumentsFrom fuel (← outer.add? name value) rest
    | .version => return .version
    | .separator => none
    | .operand name =>
      let (command, inner) ← command? name rest
      let common (name default : String) := ((inner.get? name).or (outer.get? name)).getD default
      return .request ⟨common "config" defaultSettings, common "log-level" "info", command⟩

/-- What arguments come to, if they are right. The ways to ask for help, which are
the options `--help` and `-h` and the command `help`, are left out: they come to
nothing here, as wrong arguments do. -/
def Arguments.ofList? (args : List String) : Option Arguments :=
  argumentsFrom (args.length + 1) [] args

end DeviceMap.CommandLine
