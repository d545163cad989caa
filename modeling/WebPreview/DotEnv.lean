import WebPreview.Environment
import WebPreview.Text.Classes
import WebPreview.Text.Find

/-! # Settings files

A settings file holds one binding per line: a name, an equals sign and a value, with `export` in
front if one likes. A value in quotes may go over several lines and hold escapes; a value without
quotes ends at the line or at a comment, which a blank and a `#` start. A line that is none of
this is passed over. `${NAME}` and `${NAME:-fallback}` in a value stand for other variables.
-/

namespace WebPreview

namespace DotEnv

open Text

/-- Line ends of every kind as line feeds. -/
def plainLines : List Char → List Char
  | '\r' :: '\n' :: cs => '\n' :: plainLines cs
  | c :: cs => (if c = '\r' then '\n' else c) :: plainLines cs
  | [] => []

/-- A blank that does not end the line. -/
def isInlineBlank (c : Char) : Bool := isBlank c && c != '\n'

/-- What is left after blanks on the line. -/
def skipInline (cs : List Char) : List Char := cs.dropWhile isInlineBlank

/-- What is left from the end of the line on. -/
def restOfLine (cs : List Char) : List Char :=
  match cs.dropWhile (· != '\n') with
  | '\n' :: r => r
  | r => r

/-- A value up to its closing quote, and what follows. A quote after a backslash does not close,
unless no other quote does. -/
def quotedValue? (quote : Char) : List Char → Option (List Char × List Char)
  | [] => none
  | '\\' :: c :: cs =>
    if c = quote then
      match quotedValue? quote cs with
      | some (value, rest) => some ('\\' :: c :: value, rest)
      | none => some (['\\'], cs)
    else (quotedValue? quote (c :: cs)).map fun (value, rest) => ('\\' :: value, rest)
  | c :: cs =>
    if c = quote then some ([], cs)
    else (quotedValue? quote cs).map fun (value, rest) => (c :: value, rest)

/-- What an escape in double quotes stands for. -/
def doubleEscape? : Char → Option Char
  | '\\' => some '\\'
  | '\'' => some '\''
  | '"' => some '"'
  | 'a' => some '\x07'
  | 'b' => some '\x08'
  | 'f' => some '\x0c'
  | 'n' => some '\n'
  | 'r' => some '\r'
  | 't' => some '\t'
  | 'v' => some '\x0b'
  | _ => none

/-- What an escape in single quotes stands for. -/
def singleEscape? : Char → Option Char
  | '\\' => some '\\'
  | '\'' => some '\''
  | _ => none

/-- The value with its escapes resolved; a backslash before anything else stays. -/
def unescape (escape? : Char → Option Char) : List Char → List Char
  | '\\' :: c :: cs =>
    match escape? c with
    | some decoded => decoded :: unescape escape? cs
    | none => '\\' :: unescape escape? (c :: cs)
  | c :: cs => c :: unescape escape? cs
  | [] => []

/-- The part of a line before a comment that a blank starts. -/
def beforeComment : List Char → List Char
  | [] => []
  | c :: cs =>
    if isBlank c && (cs.dropWhile isBlank).head? == some '#' then []
    else c :: beforeComment cs

/-- A value at the front, after blanks, and what follows it. The blanks count as a start of a
comment, so a comment right after them leaves an empty value. -/
def value? (cs : List Char) : Option (List Char × List Char) :=
  match skipInline cs with
  | '\'' :: r => (quotedValue? '\'' r).map fun (v, rest) => (unescape singleEscape? v, rest)
  | '"' :: r => (quotedValue? '"' r).map fun (v, rest) => (unescape doubleEscape? v, rest)
  | _ =>
    let line := cs.takeWhile (· != '\n')
    some (trimChars (beforeComment line), cs.dropWhile (· != '\n'))

/-- What is left after the end of the line, with a comment before it or not. -/
def endOfLine? (cs : List Char) : Option (List Char) :=
  match skipInline cs with
  | [] => some []
  | '\n' :: r => some r
  | '#' :: r => some (restOfLine r)
  | _ => none

/-- What is left after the word that marks a binding for export. -/
def skipExport (cs : List Char) : List Char :=
  match after? "export".toList cs with
  | some (c :: r) => if isInlineBlank c then skipInline r else cs
  | _ => cs

/-- A name at the front, and what follows it. A comment has no name. -/
def key? (cs : List Char) : Option (Option (List Char) × List Char) :=
  match cs with
  | '#' :: _ => some (none, cs)
  | '\'' :: r =>
    match r.span (· != '\'') with
    | ([], _) => none
    | (_, []) => none
    | (name, _ :: rest) => some (some name, rest)
  | _ =>
    match cs.span fun c => c != '=' && c != '#' && !isBlank c with
    | ([], _) => none
    | (name, rest) => some (some name, rest)

/-- A binding at the front: its name and value, as far as it has them, and what follows. Where the
binding is faulty, the rest from the fault on. -/
def binding (cs : List Char) :
    Except (List Char) (Option (List Char) × Option (List Char) × List Char) :=
  let cs := skipExport cs
  match key? cs with
  | none => .error cs
  | some (name, rest) =>
    match skipInline rest with
    | '=' :: r =>
      match value? r with
      | none => .error r
      | some (value, rest) =>
        match endOfLine? rest with
        | some rest => .ok (name, some value, rest)
        | none => .error (skipInline rest)
    | r =>
      match endOfLine? r with
      | some rest => .ok (name, none, rest)
      | none => .error (skipInline r)

/-- The bindings of a file, in order; some have a name only. `bound` is at least the number of
characters. -/
def bindings : (bound : Nat) → List Char → List (String × Option String)
  | 0, _ => []
  | bound + 1, cs =>
    match cs.dropWhile isBlank with
    | [] => []
    | cs =>
      match binding cs with
      | .ok (some name, value, rest) =>
        (String.ofList name, value.map String.ofList) :: bindings bound rest
      | .ok (none, _, rest) => bindings bound rest
      | .error rest => bindings bound (restOfLine rest)

/-- A variable that a value refers to: its name, its fallback, and what follows the reference. -/
def reference? (cs : List Char) : Option (List Char × List Char × List Char) :=
  match cs with
  | '$' :: '\x7b' :: r =>
    match r.span fun c => c != '\x7d' && c != ':' with
    | (name, '\x7d' :: rest) => some (name, [], rest)
    | (name, ':' :: '-' :: r) =>
      match r.span (· != '\x7d') with
      | (fallback, '\x7d' :: rest) => some (name, fallback, rest)
      | _ => none
    | _ => none
  | _ => none

/-- The value with its references replaced. `bound` is at least its length. -/
def interpolate (env : String → Option String) : (bound : Nat) → List Char → List Char
  | 0, _ => []
  | _, [] => []
  | bound + 1, c :: cs =>
    match reference? (c :: cs) with
    | some (name, fallback, rest) =>
      ((env (String.ofList name)).map String.toList).getD fallback ++ interpolate env bound rest
    | none => c :: interpolate env bound cs

/-- The values of a file in an environment: a binding may refer to those before it, where a name
without a value counts as empty, and the environment wins over them. -/
def values (text : String) (env : Environment) : Keyed (Option String) :=
  let cs := plainLines text.toList
  (bindings (cs.length + 1) cs).foldl
    (fun (known : Keyed (Option String)) (name, value) =>
      let find (n : String) := (env.get? n).or ((known.get? n).map (·.getD ""))
      known.put name (value.map fun v =>
        String.ofList (interpolate find (v.length + 1) v.toList)))
    .empty

/-- Sets the variables that have a value and are not there yet, up to the first that cannot be
set. -/
def setMissing : List (String × Option String) → Environment →
    Environment × Except VariableFault Unit
  | [], env => (env, .ok ())
  | (_, none) :: rest, env => setMissing rest env
  | (name, some value) :: rest, env =>
    if env.contains name then setMissing rest env
    else
      match Environment.set env name value with
      | .ok env => setMissing rest env
      | .error e => (env, .error e)

/-- The environment after the file is loaded: variables that are already there stay. -/
def load (text : String) (env : Environment) : Environment × Except VariableFault Unit :=
  setMissing (values text env).entries env

end DotEnv

end WebPreview
