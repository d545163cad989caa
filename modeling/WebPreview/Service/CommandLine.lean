import WebPreview.Decimal.Read
import WebPreview.Text.Find
import WebPreview.Text.Quoted

/-! # The command line of the service

Where the service is to listen. An option may be shortened as long as only one is meant, and its
value may stand after an equals sign or be the next argument. Anything that is no option and no
value is an error, but only after every option has been seen.
-/

namespace WebPreview.CommandLine

/-- The options of the service. -/
inductive Flag where
  | help
  | host
  | port
deriving DecidableEq, Repr

/-- The spellings of the options, in the order in which they are offered. -/
def spellings : List (String × Flag) :=
  [("-h", .help), ("--help", .help), ("--host", .host), ("--port", .port)]

/-- What an option is called in messages. -/
def Flag.shown : Flag → String
  | help => "-h/--help"
  | host => "--host"
  | port => "--port"

/-- Where the service listens. -/
structure Options where
  host : String := "127.0.0.1"
  port : Int := 8000
deriving DecidableEq, Repr

/-- How a run ends that does not serve. -/
structure Exit where
  code : Nat
  output : String
  errors : String
deriving DecidableEq, Repr

/-- The name of the program. -/
def program : String := "previewkit.service"

/-- How the program is called. -/
def usage : String := "usage: " ++ program ++ " [-h] [--host HOST] [--port PORT]\n"

/-- What the program is for. -/
def description : String := "previewkit compile service"

/-- The help text. -/
def helpText : String :=
  usage ++ "\n" ++ description ++ "\n\noptions:\n"
    ++ "  -h, --help   show this help message and exit\n  --host HOST\n  --port PORT\n"

/-- The end of a run that was asked for help. -/
def helpExit : Exit := ⟨0, helpText, ""⟩

/-- The end of a run that was called wrongly. -/
def failure (message : String) : Exit := ⟨2, "", usage ++ program ++ ": error: " ++ message ++ "\n"⟩

/-- The end of a run with an option used wrongly. -/
def misuse (flag : Flag) (message : String) : Exit :=
  failure ("argument " ++ flag.shown ++ ": " ++ message)

/-- What stands in the argument of an option after its name. -/
inductive Attached where
  | nothing
  | afterEquals (value : String)
  /-- Letters that follow a short option. -/
  | letters (value : List Char)
deriving DecidableEq, Repr

/-- What an argument is taken for. -/
inductive Role where
  /-- A value, or something that has no place. -/
  | plain
  /-- The mark after which nothing is an option. -/
  | terminator
  /-- An option that the program does not have. -/
  | unknown
  | option (flag : Flag) (attached : Attached)
deriving DecidableEq, Repr

/-- A name and what stands after its first equals sign. -/
def splitEquals (argument : String) : String × Attached :=
  match Text.splitFirst? ['='] argument.toList with
  | some (name, value) => (String.ofList name, .afterEquals (String.ofList value))
  | none => (argument, .nothing)

/-- The options an argument with two dashes may be short for. -/
def longCandidates (argument : String) : List (String × Flag × Attached) :=
  let (name, attached) := splitEquals argument
  (spellings.filter fun s => Text.startsWith s.1 name).map fun (n, flag) => (n, flag, attached)

/-- The options an argument with one dash may be short for. -/
def shortCandidates (argument : String) : List (String × Flag × Attached) :=
  let short := Text.takeFirst 2 argument
  spellings.filterMap fun (name, flag) =>
    if name = short then some (name, flag, .letters (argument.toList.drop 2))
    else if Text.startsWith name argument then some (name, flag, .nothing)
    else none

/-- The options an argument may be short for. -/
def candidates (argument : String) : List (String × Flag × Attached) :=
  if Text.startsWith argument "--" then longCandidates argument else shortCandidates argument

/-- Whether an argument is a number below zero. -/
def isNegativeNumber (argument : String) : Bool :=
  match argument.toList with
  | '-' :: cs =>
    let cs := if cs.getLast? = some '\n' then cs.dropLast else cs
    let isDigit := fun c => (Text.digitValue? c).isSome
    match cs.span isDigit with
    | (whole, []) => !whole.isEmpty
    | (_, '.' :: places) => !places.isEmpty && places.all isDigit
    | _ => false
  | _ => false

/-- What an argument before the terminator is taken for. -/
def role (argument : String) : Except Exit Role :=
  let (name, attached) := splitEquals argument
  if !Text.startsWith argument "-" then .ok .plain
  else if let some flag := spellings.lookup argument then .ok (.option flag .nothing)
  else if argument = "-" then .ok .plain
  else if let (some flag, true) := (spellings.lookup name, attached != .nothing) then
    .ok (.option flag attached)
  else match candidates argument with
    | [(_, flag, attached)] => .ok (.option flag attached)
    | [] =>
      if isNegativeNumber argument || argument.toList.contains ' ' then .ok .plain
      else .ok .unknown
    | several => .error (failure ("ambiguous option: " ++ argument ++ " could match "
        ++ String.intercalate ", " (several.map Prod.fst)))

/-- What each argument is taken for. -/
def roles : List String → Except Exit (List (String × Role))
  | [] => .ok []
  | "--" :: rest => .ok (("--", .terminator) :: rest.map fun a => (a, .plain))
  | argument :: rest => do
    let r ← role argument
    return (argument, r) :: (← roles rest)

/-- The refusal of a value where none belongs. -/
def ignored (value : String) : Exit :=
  misuse .help ("ignored explicit argument " ++ Text.quoted value)

/-- How a request for help ends. Letters after it have to be options that take no value either. -/
def helpEnd : List Char → Exit
  | [] => helpExit
  | 'h' :: '=' :: value => ignored (String.ofList value)
  | 'h' :: cs => helpEnd cs
  | '-' :: cs => ignored (String.ofList ('-' :: cs))
  | _ => helpExit

/-- Takes the value of an option. -/
def Options.set (o : Options) (flag : Flag) (value : String) : Except Exit Options :=
  match flag with
  | .help => .error helpExit
  | .host => .ok { o with host := value }
  | .port =>
    match Decimal.readWhole? value with
    | some port => .ok { o with port }
    | none => .error (misuse .port ("invalid int value: " ++ Text.quoted value))

/-- Goes through the arguments in order; also gives those that have no place. -/
def consume (o : Options) : List (String × Role) → Except Exit (Options × List String)
  | [] => .ok (o, [])
  | (_, .option .help .nothing) :: _ => .error helpExit
  | (_, .option .help (.afterEquals value)) :: _ => .error (ignored value)
  | (_, .option .help (.letters cs)) :: _ => .error (helpEnd cs)
  | (_, .option flag (.afterEquals value)) :: rest => do consume (← o.set flag value) rest
  | (_, .option flag (.letters cs)) :: rest => do consume (← o.set flag (String.ofList cs)) rest
  | (_, .option flag .nothing) :: (value, .plain) :: rest => do consume (← o.set flag value) rest
  | (_, .option flag .nothing) :: _ => .error (misuse flag "expected one argument")
  | (argument, _) :: rest => do
    let (o, extras) ← consume o rest
    return (o, argument :: extras)

/-- The options that the arguments give. -/
def parse (arguments : List String) : Except Exit Options := do
  let (options, extras) ← consume {} (← roles arguments)
  if extras.isEmpty then return options
  else throw (failure ("unrecognized arguments: " ++ String.intercalate " " extras))

end WebPreview.CommandLine
