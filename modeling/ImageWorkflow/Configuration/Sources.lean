import ImageWorkflow.Configuration.Basic
import ImageWorkflow.Configuration.EnvFile
import ImageWorkflow.Files.Tree
import ImageWorkflow.Text.Lines
import ImageWorkflow.Text.LowerCase

/-!
# Where the configuration comes from

A setting is given by the caller, by an environment variable or by a file of variables, and the
first of these wins.  Variables have the name of the setting behind `STORYFLOW_`, in any case.
Environment variables of other names are no concern of the configuration; names in the file are.
A caller may give options for the sources as well (`SourceOptions`).
* `Configuration.gather` : the settings that the three give;
* `Configuration.prepare` : the directories that a configuration needs are made.
-/

namespace ImageWorkflow.Configuration

/-! ## Options for the sources -/

/-- How the sources are read. -/
structure SourceOptions where
  /-- The files of variables; of two values for a name the later file's counts. -/
  files : List String := [".env"]
  /-- The start of the names of variables. -/
  front : String := "STORYFLOW_"
  distinguishesCase : Bool := false
  /-- Whether a variable with an empty value counts as none. -/
  skipsEmpty : Bool := false
  /-- The value that stands for no value. -/
  nothingWord : Option String := none
  deriving DecidableEq, Repr

namespace SourceOptions

/-- The names of options that concern other kinds of sources and values, of which there are none. -/
def idleNames : List String := [
  "_nested_model_default_partial_update", "_env_file_encoding", "_env_nested_delimiter",
  "_env_nested_max_split", "_env_parse_enums", "_cli_prog_name", "_cli_parse_args",
  "_cli_settings_source", "_cli_parse_none_str", "_cli_hide_none_type", "_cli_avoid_json",
  "_cli_enforce_required", "_cli_use_class_docs_for_groups", "_cli_exit_on_error", "_cli_prefix",
  "_cli_flag_prefix_char", "_cli_implicit_flags", "_cli_ignore_unknown_args", "_cli_kebab_case",
  "_cli_shortcuts", "_secrets_dir"]

/-- The options with the one of a name set, if the name is that of an option; an option without a
value stays as it is, but for the files, of which there are none then. -/
def setNamed? (o : SourceOptions) (name : String) (value : Json) : Option SourceOptions :=
  match name, value with
  | "_env_file", .str file => some { o with files := [file] }
  | "_env_file", .array files => some { o with files := files.filterMap Json.str? }
  | "_env_file", _ => some { o with files := [] }
  | "_env_prefix", value => some { o with front := value.str?.getD o.front }
  | "_case_sensitive", .null => some o
  | "_case_sensitive", value => some { o with distinguishesCase := value.isTruthy }
  | "_env_ignore_empty", .null => some o
  | "_env_ignore_empty", value => some { o with skipsEmpty := value.isTruthy }
  | "_env_parse_none_str", value => some { o with nothingWord := value.str?.or o.nothingWord }
  | name, _ => if idleNames.contains name then some o else none

/-- The options among named values, and the other values. -/
def split (given : Members) : SourceOptions × Members :=
  given.foldl (fun (o, others) member =>
    match o.setNamed? member.1 member.2 with
    | some o => (o, others)
    | none => (o, others ++ [member])) ({}, [])

/-- A name as names are compared. -/
def fold (o : SourceOptions) (name : String) : String :=
  if o.distinguishesCase then name else Text.lowerCase name

/-- The variable of a setting. -/
def variableOf (o : SourceOptions) (setting : String) : String := o.fold (o.front ++ setting)

/-- The value of a variable, unless it stands for none. -/
def valueOf (o : SourceOptions) (text : String) : Json :=
  if o.nothingWord = some text then .null else .str text

/-- Variables by their names as they are compared; of two that are the same, the later one
counts. -/
def foldNames (o : SourceOptions) (entries : List (String × Option String)) :
    List (String × Option String) :=
  let counted := entries.filter fun entry => !(o.skipsEmpty && entry.2 == some "")
  counted.foldl (fun acc entry => EnvFile.assign acc (o.fold entry.1) entry.2) []

/-- The settings among variables, in the order of the settings. -/
def settingsOf (o : SourceOptions) (entries : List (String × Option String)) : Members :=
  names.filterMap fun name =>
    match entries.lookup (o.variableOf name) with
    | some (some value) => some (name, o.valueOf value)
    | _ => none

/-- The variables of a file that are no settings; those without a value are passed over. -/
def othersOf (o : SourceOptions) (entries : List (String × Option String)) : Members :=
  entries.filterMap fun (name, value) =>
    let isBare := o.front ≠ "" && names.contains name
    if isBare || names.any fun setting => o.variableOf setting == name then none
    else match value with
      | some "" | none => none
      | some value => some (name, o.valueOf value)

end SourceOptions

/-- A path with the home directory in place of a tilde at its front; none for the home directory of
another user. -/
def expandHome? (home path : String) : Option String :=
  if path = "~" then some (FilePath.plainSpelling home)
  else if "~/".toList.isPrefixOf path.toList then
    some (FilePath.plainSpelling (home ++ "/" ++ String.ofList (path.toList.drop 2)))
  else if "~".toList.isPrefixOf path.toList then none
  else some path

/-- The text of the file with a name, as it is seen from `here`; empty when there is none. -/
def textOfFile (files : FileTree) (here : FilePath) (home name : String) : String :=
  match (expandHome? home name).map fun name => files.read (here.join name) with
  | some (.ok (.text text)) => Text.unixLines text
  | _ => ""

/-- The settings that a caller, the environment and files of variables give; the names of files are
seen from `here`. -/
def gather (given : Members) (environment : List (String × String)) (files : FileTree)
    (here : FilePath) (home : String) : Members :=
  let (o, given) := SourceOptions.split given
  let lookup (name : String) : Option String := environment.reverse.lookup name
  let read (name : String) : List (String × Option String) :=
    o.foldNames (EnvFile.resolve lookup (EnvFile.bindings (textOfFile files here home name)))
  let fromFiles := (o.files.flatMap read).foldl (fun acc e => EnvFile.assign acc e.1 e.2) []
  let fromEnvironment := o.foldNames (environment.map fun entry => (entry.1, some entry.2))
  ((o.settingsOf fromFiles ++ o.othersOf fromFiles : Members).update
    (o.settingsOf fromEnvironment)).update given

/-! ## Directories -/

/-- Why the directories cannot be made. -/
inductive SetupError where
  /-- A path starts with the home directory of a user who has none. -/
  | noHome
  /-- Something is in the way of a directory; `name` is its name in the message. -/
  | directory (fault : FileFault) (name : String)
  | nullInPath
  deriving DecidableEq, Repr

/-- The wording of a set-up error. -/
def SetupError.message : SetupError → String
  | .noHome => "Could not determine home directory."
  | .directory fault name => s!"{fault.words}: {Text.quote name}"
  | .nullInPath => nullInPathMessage

/-- The name of a path as it is seen from a directory, when the path was given by such a name. -/
def nameFrom (here : FilePath) (isAbsolute : Bool) (path : FilePath) : String :=
  if isAbsolute then path.text
  else FilePath.plainSpelling ("/".intercalate (path.parts.drop here.parts.length))

/-- Make the directory of a name and those above it. -/
def makeNamed (files : FileTree) (here : FilePath) (name : String) (wanted : FilePath) :
    FileTree × Except SetupError Unit :=
  match files.makeDirectories wanted with
  | (files, .ok ()) => (files, .ok ())
  | (files, .error .nullInPath) => (files, .error .nullInPath)
  | (files, .error (.fault fault path)) =>
    (files, .error (.directory fault (nameFrom here (FilePath.isAbsolute name) path)))

/-- Make the directories that the configuration needs; names are seen from `here`. -/
def prepare (c : Configuration) (files : FileTree) (here : FilePath) (home : String) :
    FileTree × Except SetupError Configuration :=
  match expandHome? home c.workingDirectory with
  | none => (files, .error .noHome)
  | some directory =>
    match makeNamed files here directory (here.join directory) with
    | (files, .error error) => (files, .error error)
    | (files, .ok ()) =>
      let c := { c with workingDirectory := directory }
      if c.logsRequests then
        match makeNamed files here c.requestLogPath (here.join c.requestLogPath).parent with
        | (files, .error error) => (files, .error error)
        | (files, .ok ()) => (files, .ok c)
      else (files, .ok c)

end ImageWorkflow.Configuration
