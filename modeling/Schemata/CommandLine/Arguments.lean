import Schemata.File.Load
import Schemata.Report.Export
import Schemata.Text.Digit

/-! # Command-line arguments

Options are read by their full spelling or by a prefix that fits no other option; a value stands after
an equals sign or as the next argument. Two dashes after an equals sign take the value away. Short
options, of which none has a value, may be written together. Everything after `--`, and whatever does
not start with a dash, is an operand; no operand is accepted. Of an option that is given repeatedly the
last one counts.
-/

namespace Schemata.CommandLine

inductive Switch where
  | help
  | schema
  | format
  | out
  | verbose
deriving DecidableEq, Repr

namespace Switch

/-- All spellings, in the order in which messages list them. -/
def spellings : List (Text × Switch) :=
  [("-h", .help), ("--help", .help), ("--schema", .schema), ("--format", .format), ("--out", .out),
   ("--verbose", .verbose), ("-v", .verbose)]

def takesValue : Switch → Bool
  | schema | format | out => true
  | help | verbose => false

/-- All spellings of one switch, as messages name it. -/
def title (switch : Switch) : Text :=
  Text.join "/" ((spellings.filter (·.2 = switch)).map (·.1))

end Switch

/-- What an argument is by its form alone. An option may have a value attached to it, after an equals
sign or, if it is a short option, right after it. -/
inductive Argument where
  | operand (written : Text)
  | unknown (written : Text)
  | switch (switch : Switch) (spelling : Text) (attached : Option Text)
deriving DecidableEq, Repr

/-- Why the arguments are refused. -/
inductive UsageError where
  | ambiguous (written : Text) (candidates : List Text)
  | missingValue (switch : Switch)
  | needlessValue (switch : Switch) (value : Text)
  | invalidFormat (value : Text)
  | unrecognized (arguments : List Text)
deriving DecidableEq, Repr

namespace UsageError

def message : UsageError → Text
  | ambiguous written candidates =>
    text "ambiguous option: " ++ written ++ text " could match " ++ Text.join ", " candidates
  | missingValue switch => text "argument " ++ switch.title ++ text ": expected one argument"
  | needlessValue switch value =>
    text "argument " ++ switch.title ++ text ": ignored explicit argument " ++ Text.quoted value
  | invalidFormat value =>
    text "argument " ++ Switch.format.title ++ text ": invalid choice: " ++ Text.quoted value
      ++ text " (choose from "
      ++ Text.join ", " (OutputFormat.all.map fun format => Text.quoted format.name) ++ text ")"
  | unrecognized arguments =>
    text "unrecognized arguments: " ++ Text.join " " arguments

/-- What a program prints when it refuses its arguments. -/
def report (program : Text) (e : UsageError) : Text :=
  program ++ text ": error: " ++ e.message

/-- The last line of the report; refused arguments may hold line ends of their own. -/
def summary (program : Text) (e : UsageError) : Text := Text.lastLine (e.report program)

end UsageError

/-- The name before the first equals sign and the value after it, if there is one. -/
def splitEquals (t : Text) : Text × Option Text :=
  let name := Text.before '=' t
  if name.length < t.length then (name, some (t.drop (name.length + 1))) else (t, none)

/-- The options that an argument may mean without spelling one in full. -/
def candidates (written : Text) : List (Switch × Text × Option Text) :=
  if (text "--").isPrefixOf written then
    let (start, attached) := splitEquals written
    (Switch.spellings.filter fun (spelling, _) => start.isPrefixOf spelling).map
      fun (spelling, switch) => (switch, spelling, attached)
  else
    Switch.spellings.filterMap fun (spelling, switch) =>
      if spelling = written.take 2 then some (switch, spelling, some (written.drop 2))
      else if written.isPrefixOf spelling then some (switch, spelling, none)
      else none

/-- Whether an argument reads as a negative number, with or without a decimal point; a line feed may
end it. -/
def isNegativeNumber (written : Text) : Bool :=
  match written with
  | [] => false
  | dash :: rest =>
    let number := if rest.getLast? = some (CodePoint.ofChar '\n') then rest.dropLast else rest
    let whole := number.takeWhile CodePoint.isDigit
    let fraction := number.drop whole.length
    dash = '-' &&
      match fraction with
      | [] => !whole.isEmpty
      | point :: digits => point = '.' && !digits.isEmpty && digits.all CodePoint.isDigit

def classify (written : Text) : Except UsageError Argument :=
  let (name, attached) := splitEquals written
  if written.head? ≠ some (CodePoint.ofChar '-') then .ok (.operand written)
  else
    match Switch.spellings.lookup written, written, Switch.spellings.lookup name, attached with
    | some switch, _, _, _ => .ok (.switch switch written none)
    | none, [_], _, _ => .ok (.operand written)
    | none, _, some switch, some value => .ok (.switch switch name (some value))
    | none, _, _, _ =>
      match candidates written with
      | [] =>
        if isNegativeNumber written || written.contains (CodePoint.ofChar ' ') then
          .ok (.operand written)
        else .ok (.unknown written)
      | [(switch, spelling, value)] => .ok (.switch switch spelling value)
      | several => .error (.ambiguous written (several.map (·.2.1)))

/-- The forms of all arguments, up to and after `--`. -/
def classifyAll : List Text → Except UsageError (List Argument)
  | [] => .ok []
  | written :: rest =>
    if written = text "--" then .ok ((written :: rest).map Argument.operand)
    else do
      let first ← classify written
      let others ← classifyAll rest
      return first :: others

/-- What the options amount to. -/
structure Settings where
  schema : Option Text
  format : OutputFormat
  out : Option Text
  verbose : Bool
deriving DecidableEq, Repr

def Settings.standard : Settings := ⟨some defaultSchemaPath, .json, none, false⟩

/-- What is asked for: a run with settings, or help. -/
inductive Request where
  | run (settings : Settings)
  | help
deriving DecidableEq, Repr

/-- The switch of a short option and those of the letters written right after it. -/
def bundle (switch : Switch) : Text → Except UsageError (List Switch)
  | [] => .ok [switch]
  | c :: rest =>
    match Switch.spellings.lookup (text "-" ++ [c]) with
    | some next => (switch :: ·) <$> bundle next rest
    | none => .error (.needlessValue switch (c :: rest))

/-- The switches that an option without a value stands for. -/
def switches (switch : Switch) (spelling : Text) :
    (attached : Option Text) → Except UsageError (List Switch)
  | none => .ok [switch]
  | some value =>
    if value.isEmpty || (text "--").isPrefixOf spelling then .error (.needlessValue switch value)
    else bundle switch value

/-- Carries out a switch with a value, or with none if it was taken away. -/
def Settings.assign (settings : Settings) (switch : Switch) (value : Option Text) :
    Except UsageError Settings :=
  match switch, value with
  | .schema, value => .ok { settings with schema := value }
  | .format, none => .ok { settings with format := .json }
  | .format, some value =>
    match OutputFormat.all.find? (·.name = value) with
    | some format => .ok { settings with format := format }
    | none => .error (.invalidFormat value)
  | .out, value => .ok { settings with out := value }
  | .help, _ | .verbose, _ => .ok settings

/-- Goes through the arguments in order, with what is left over so far. -/
def interpret (settings : Settings) (left : List Text) :
    List Argument → Except UsageError Request
  | [] => if left.isEmpty then .ok (.run settings) else .error (.unrecognized left)
  | .operand written :: rest => interpret settings (left ++ [written]) rest
  | .unknown written :: rest => interpret settings (left ++ [written]) rest
  | .switch switch spelling attached :: rest =>
    if switch.takesValue then
      match attached, rest with
      | some value, rest => do
        interpret (← settings.assign switch ((some value).filter (· ≠ text "--"))) left rest
      | none, .operand value :: rest =>
        if value = text "--" then .error (.missingValue switch)
        else do interpret (← settings.assign switch (some value)) left rest
      | none, _ => .error (.missingValue switch)
    else
      match switches switch spelling attached with
      | .error e => .error e
      | .ok several =>
        if several.contains .help then .ok .help
        else interpret { settings with verbose := true } left rest

/-- Reads the arguments of a program. -/
def readArguments (arguments : List Text) : Except UsageError Request := do
  interpret .standard [] (← classifyAll arguments)

end Schemata.CommandLine
