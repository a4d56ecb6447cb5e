import PublicPath.Script

/-!
# Arguments

An option stands once at most, with its value behind it or after an equals sign. What follows two
dashes alone is never an option.
-/

namespace PublicPath

inductive OptionKind where
  | flag
  /-- Any value. -/
  | text
  /-- A value that is not empty. -/
  | path
deriving DecidableEq, Repr

structure OptionSpec where
  name : String
  letter : Option Char
  kind : OptionKind
deriving DecidableEq, Repr

/-- Options with their values, and the arguments that are no options. -/
structure Arguments where
  options : List (String × String)
  operands : List String
deriving DecidableEq, Repr

/-- Why arguments make no command. -/
inductive Refusal where
  | help
  | usage
deriving DecidableEq, Repr

namespace Arguments

def empty : Arguments := ⟨[], []⟩

def value? (a : Arguments) (name : String) : Option String := a.options.lookup name

def has (a : Arguments) (name : String) : Bool := (a.value? name).isSome

/-- Notes an option, unless it stood before or its value may not be empty. -/
def add (a : Arguments) (spec : OptionSpec) (value : String) : Except Refusal Arguments :=
  if a.has spec.name || (spec.kind = .path && value = "") then .error .usage
  else .ok { a with options := a.options ++ [(spec.name, value)] }

/-- Whether an argument can be the value of the option in front of it. -/
def isValue (s : String) : Bool := s = "-" || s.toList.head? ≠ some '-'

/-- What an argument that begins with dashes asks for. -/
inductive Request where
  | done (a : Arguments)
  /-- The next argument is the value. -/
  | awaits (a : Arguments) (spec : OptionSpec)

/-- An argument that begins with two dashes, without them. -/
def long (specs : List OptionSpec) (a : Arguments) (cs : List Char) : Except Refusal Request :=
  let name := String.ofList (cs.takeWhile (· ≠ '='))
  let attached := cs.dropWhile (· ≠ '=')
  match specs.find? fun s => s.name = name with
  | none => .error (if name = "help" && attached = [] then .help else .usage)
  | some spec =>
    match spec.kind, attached with
    | .flag, [] => (a.add spec "").map .done
    | .flag, _ => .error .usage
    | _, [] => .ok (.awaits a spec)
    | _, _ :: value => (a.add spec (String.ofList value)).map .done

/-- The letters behind a single dash. -/
def short (specs : List OptionSpec) (a : Arguments) : List Char → Except Refusal Request
  | [] => .ok (.done a)
  | c :: rest =>
    match specs.find? fun s => s.letter = some c with
    | none => .error (if c = 'h' then .help else .usage)
    | some spec =>
      match spec.kind, rest with
      | .flag, rest =>
        match a.add spec "" with
        | .error e => .error e
        | .ok a => short specs a rest
      | _, [] => .ok (.awaits a spec)
      | _, '=' :: value => (a.add spec (String.ofList value)).map .done
      | _, value => (a.add spec (String.ofList value)).map .done

/-- Reads arguments from left to right. -/
def read (specs : List OptionSpec) (a : Arguments) : List String → Except Refusal Arguments
  | [] => .ok a
  | s :: rest =>
    if s = "--" then .ok { a with operands := a.operands ++ rest }
    else
      let request := match s.toList with
        | '-' :: '-' :: cs => long specs a cs
        | '-' :: c :: cs => short specs a (c :: cs)
        | _ => .ok (.done { a with operands := a.operands ++ [s] })
      match request, rest with
      | .error e, _ => .error e
      | .ok (.done a), rest => read specs a rest
      | .ok (.awaits _ _), [] => .error .usage
      | .ok (.awaits a spec), value :: rest =>
        if !isValue value then .error .usage
        else match a.add spec value with
          | .error e => .error e
          | .ok a => read specs a rest

end Arguments

/-! ## Commands -/

structure ReplaceArguments where
  files : List String
  project : Option String
  initializer : Option String
  entryName : Option String
  outDir : Option String
  plain : Bool
  watch : Bool
deriving DecidableEq, Repr

/-- Where the runtime map comes from. -/
inductive MapSource where
  | globals (file : String)
  | map (file environment : String)
deriving DecidableEq, Repr

inductive Command where
  | replace (a : ReplaceArguments)
  | resolve (entry : String) (source : Option MapSource)
  | init
  | script (name : String)
  | module
  | version
deriving DecidableEq, Repr

namespace Command

def replaceOptions : List OptionSpec :=
  [⟨"project", some 'p', .path⟩, ⟨"initializer", none, .text⟩, ⟨"entry-name", none, .text⟩,
    ⟨"out-dir", none, .path⟩, ⟨"no-pretty", none, .flag⟩, ⟨"watch", some 'w', .flag⟩]

def resolveOptions : List OptionSpec :=
  [⟨"map", none, .path⟩, ⟨"environment", none, .text⟩, ⟨"globals", none, .path⟩]

def scriptOptions : List OptionSpec :=
  [⟨"name", none, .text⟩, ⟨"commonjs", none, .flag⟩]

/-- At least one file, and no file without a name. -/
def ofReplace (a : Arguments) : Except Refusal Command :=
  if a.operands = [] || a.operands.contains "" then .error .usage
  else .ok <| .replace
    { files := a.operands
      project := a.value? "project"
      initializer := a.value? "initializer"
      entryName := a.value? "entry-name"
      outDir := a.value? "out-dir"
      plain := a.has "no-pretty"
      watch := a.has "watch" }

/-- One entry; a map and an environment only together, and globals only without them. -/
def ofResolve (a : Arguments) : Except Refusal Command :=
  match a.operands with
  | [entry] =>
    match a.value? "globals", a.value? "map", a.value? "environment" with
    | none, none, none => .ok (.resolve entry none)
    | some file, none, none => .ok (.resolve entry (some (.globals file)))
    | none, some file, some environment => .ok (.resolve entry (some (.map file environment)))
    | _, _, _ => .error .usage
  | _ => .error .usage

def ofInit (a : Arguments) : Except Refusal Command :=
  if a.operands = [] then .ok .init else .error .usage

/-- A name is for the function alone. -/
def ofScript (a : Arguments) : Except Refusal Command :=
  if a.operands ≠ [] then .error .usage
  else match a.has "commonjs", a.value? "name" with
    | true, none => .ok .module
    | true, some _ => .error .usage
    | false, name => .ok (.script (name.getD Script.defaultInitializer))

def parse : List String → Except Refusal Command
  | [] => .error .usage
  | word :: rest =>
    let read (specs : List OptionSpec) (command : Arguments → Except Refusal Command) :=
      match Arguments.read specs .empty rest with
      | .error e => .error e
      | .ok a => command a
    match word with
    | "rewrite" => read replaceOptions ofReplace
    | "resolve" => read resolveOptions ofResolve
    | "init" => read [] ofInit
    | "runtime" => read scriptOptions ofScript
    | "--version" | "-V" => .ok .version
    | "help" | "--help" | "-h" => .error .help
    | _ => .error .usage

end Command

end PublicPath
