import PublicPath.Config.Project
import PublicPath.Files.Path
import PublicPath.Json.Reader
import PublicPath.Yaml.Value
import PublicPath.Yaml.Writer

/-!
# Configuration files

The extension of a file decides how its text is read. A project is written as YAML.
-/

namespace PublicPath

/-- The generic value of a configuration file. -/
def readDocument (path content : String) : Except ConfigError Json :=
  match Path.extension? path with
  | some "json" =>
    match Json.parse content with
    | .ok value => .ok value
    | .error fault => .error (.unreadable fault.kind (fault.message content.toList))
  | some "yaml" | some "yml" =>
    match Yaml.parse content with
    | .ok value => .ok value
    | .error detail => .error (.yaml detail)
  | _ => .error (.unsupportedFormat path)

/-- The call whose options are in a file, whose content may be out of reach. -/
def InitializerCall.ofFile (path : String) (content : Except FileFault String) :
    Except ConfigError InitializerCall :=
  match content with
  | .error fault => .error (.file fault)
  | .ok content =>
    match readDocument path content with
    | .error e => .error e
    | .ok value =>
      match ofJson value with
      | .ok o => .ok o
      | .error violations => .error (.options violations)

/-- The project in a file, whose content may be out of reach. -/
def ProjectConfig.ofFile (path : String) (content : Except FileFault String) :
    Except ConfigError ProjectConfig :=
  match content with
  | .error fault => .error (.file fault)
  | .ok content =>
    match readDocument path content with
    | .error e => .error e
    | .ok value =>
      match ofJson value with
      | .ok p => .ok p
      | .error cause => .error (.mismatch cause)

/-! ## Writing -/

open Yaml

def InitializerCall.written (c : InitializerCall) : Written :=
  .mapping [("initializer", .text c.initializer), ("entryName", .text c.entryName)]

/-- The members of a configuration file; what the project leaves open is left out. -/
def ProjectConfig.written (p : ProjectConfig) : List (String × Written) :=
  (p.call.map fun c => ("rewrite", c.written)).toList ++
  (p.outDir.map fun s => ("outDir", Written.text s)).toList ++
  [("pretty", .flag p.pretty)]

/-- The text of a configuration file. -/
def ProjectConfig.toYaml (p : ProjectConfig) : String :=
  String.ofList (writeMembers 0 p.written)

end PublicPath
