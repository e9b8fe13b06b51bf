import ImageWorkflow.Text.Blank

/-!
# Files of variables

A file of variables has one binding a line: a name, `=`, and a value that is bare or in quotes;
comments start with `#`.  A value in quotes may go over several lines and has escapes.
* `EnvFile.bindings` : the bindings of a text in order; a line that is none is passed over;
* `EnvFile.resolve` : the values, with the variables that they mention (`$` and a name in braces)
  replaced by their values.
-/

namespace ImageWorkflow.EnvFile

/-- A name and its value; a name alone has none. -/
structure Binding where
  name : String
  value : Option String
  deriving DecidableEq, Repr

/-- Whether `c` is blank and does not end a line. -/
def isInlineBlank (c : Char) : Bool := Text.isBlank c && c != '\n' && c != '\r'

/-- What is left without the blank characters of the line. -/
def skipInline (cs : List Char) : List Char := cs.dropWhile isInlineBlank

/-- The text up to the closing quote, and what follows it; a backslash takes the character behind it
along. -/
def splitQuoted (mark : Char) : List Char → Option (List Char × List Char)
  | [] => none
  | ['\\'] => none
  | '\\' :: c :: rest =>
    (splitQuoted mark rest).map fun (inside, after) => ('\\' :: c :: inside, after)
  | c :: rest =>
    if c = mark then some ([], rest)
    else (splitQuoted mark rest).map fun (inside, after) => (c :: inside, after)

/-- The character that a backslash and `c` stand for in a value between the quotes `mark`. -/
def escape? (mark c : Char) : Option Char :=
  if c = '\\' then some '\\'
  else if c = '\'' then some '\''
  else if mark = '"' then
    match c with
    | '"' => some '"'
    | 'a' => some '\x07'
    | 'b' => some '\x08'
    | 'f' => some '\x0c'
    | 'n' => some '\n'
    | 'r' => some '\r'
    | 't' => some '\t'
    | 'v' => some '\x0b'
    | _ => none
  else none

/-- A quoted value with its escapes resolved. -/
def unescape (mark : Char) : List Char → List Char
  | [] => []
  | '\\' :: c :: rest =>
    match escape? mark c with
    | some d => d :: unescape mark rest
    | none => '\\' :: unescape mark (c :: rest)
  | c :: rest => c :: unescape mark rest

/-- A bare value without the comment behind it: a comment starts at a `#` after a blank. -/
def withoutComment (blanks : List Char) : List Char → List Char
  | [] => []
  | c :: rest =>
    if Text.isBlank c then withoutComment (c :: blanks) rest
    else if c = '#' ∧ blanks ≠ [] then []
    else blanks.reverse ++ c :: withoutComment [] rest

/-- The rest of the line, and what follows it. -/
def restOfLine (cs : List Char) : List Char × List Char :=
  let (line, after) := cs.span fun c => c != '\n' && c != '\r'
  (line, after.drop 1)

/-- A value and what follows it, from the blank characters before it on; `none` when a quote is not
closed. -/
def readValue (cs : List Char) : Option (List Char × List Char) :=
  let blanks := cs.takeWhile isInlineBlank
  match cs.dropWhile isInlineBlank with
  | '\'' :: rest => (splitQuoted '\'' rest).map fun (inside, after) => (unescape '\'' inside, after)
  | '"' :: rest => (splitQuoted '"' rest).map fun (inside, after) => (unescape '"' inside, after)
  | cs =>
    let (bare, after) := cs.span fun c => c != '\n' && c != '\r'
    some (skipInline (withoutComment blanks bare), after)

/-- What follows a comment and the end of the line; `none` when there is something else on the
line. -/
def endLine (cs : List Char) : Option (List Char) :=
  let cs := skipInline cs
  let cs := match cs with
    | '#' :: _ => cs.dropWhile fun c => c != '\n' && c != '\r'
    | cs => cs
  match skipInline cs with
  | [] => some []
  | '\r' :: '\n' :: rest | '\n' :: rest | '\r' :: rest => some rest
  | _ => none

/-- What follows the word `export` and a blank, if that is how the line starts. -/
def skipExport (cs : List Char) : List Char :=
  match cs with
  | 'e' :: 'x' :: 'p' :: 'o' :: 'r' :: 't' :: c :: rest =>
    if isInlineBlank c then skipInline rest else cs
  | cs => cs

/-- The name at the start of a line, and what follows it; without a name when the line is a
comment. -/
def readName (cs : List Char) : Except (List Char) (Option String × List Char) :=
  match cs with
  | '#' :: _ => .ok (none, cs)
  | '\'' :: rest =>
    match rest.span (· ≠ '\'') with
    | (c :: name, _ :: after) => .ok (some (String.ofList (c :: name)), after)
    | _ => .error cs
  | cs =>
    match cs.span fun c => !(c == '=' || c == '#' || Text.isBlank c) with
    | ([], _) => .error cs
    | (name, after) => .ok (some (String.ofList name), after)

/-- One binding from the start of its line on, or where reading failed. -/
def readBinding (cs : List Char) : Except (List Char) (Option Binding × List Char) := do
  let (name, rest) ← readName (skipExport cs)
  let rest := skipInline rest
  let (value, rest) ← match rest with
    | '=' :: rest =>
      match readValue rest with
      | some (value, rest) => pure (some (String.ofList value), rest)
      | none => .error (skipInline rest)
    | rest => pure (none, rest)
  match endLine rest with
  | some rest => return (name.map (⟨·, value⟩), rest)
  | none => .error rest

/-- The bindings of a text with at most `fuel` lines. -/
def readBindings : (fuel : Nat) → List Char → List Binding
  | 0, _ => []
  | fuel + 1, cs =>
    match cs.dropWhile Text.isBlank with
    | [] => []
    | cs =>
      match readBinding cs with
      | .ok (binding, rest) => binding.toList ++ readBindings fuel rest
      | .error rest => readBindings fuel (restOfLine rest).2

/-- The mark that some editors put at the start of a text. -/
def byteOrderMark : Char := '\ufeff'

/-- A text without a byte order mark at its start. -/
def withoutMark : List Char → List Char
  | c :: rest => if c = byteOrderMark then rest else c :: rest
  | [] => []

/-- The bindings of a text. -/
def bindings (text : String) : List Binding :=
  readBindings (text.length + 1) (withoutMark text.toList)

/-! ## Variables in values -/

/-- The name of a mentioned variable, what stands for it when it has no value, and what follows. -/
def readMention (cs : List Char) : Option (String × String × List Char) :=
  let (name, rest) := cs.span fun c => c != '}' && c != ':'
  match rest with
  | '}' :: after => some (String.ofList name, "", after)
  | ':' :: '-' :: rest =>
    match rest.span (· ≠ '}') with
    | (fallback, '}' :: after) => some (String.ofList name, String.ofList fallback, after)
    | _ => none
  | _ => none

/-- A value with the variables it mentions replaced; `fuel` bounds the length of the value. -/
def expand (lookup : String → Option String) : (fuel : Nat) → List Char → List Char
  | 0, cs => cs
  | _ + 1, [] => []
  | fuel + 1, '$' :: '{' :: rest =>
    match readMention rest with
    | some (name, fallback, after) =>
      ((lookup name).getD fallback).toList ++ expand lookup fuel after
    | none => '$' :: expand lookup fuel ('{' :: rest)
  | fuel + 1, c :: rest => c :: expand lookup fuel rest

/-- Set the value of a name: in place if there is one already, else at the end. -/
def assign (values : List (String × Option String)) (name : String) (value : Option String) :
    List (String × Option String) :=
  if values.any (·.1 == name) then
    values.map fun entry => if entry.1 == name then (name, value) else entry
  else values ++ [(name, value)]

/-- The values of bindings, each name once.  A variable that a value mentions has the value of an
earlier binding or of the environment. -/
def resolve (environment : String → Option String) (bindings : List Binding) :
    List (String × Option String) :=
  bindings.foldl (fun values binding =>
    let lookup (name : String) : Option String :=
      match values.lookup name with
      | some value => some (value.getD "")
      | none => environment name
    let value := binding.value.map fun text =>
      String.ofList (expand lookup (text.length + 1) text.toList)
    assign values binding.name value) []

end ImageWorkflow.EnvFile
