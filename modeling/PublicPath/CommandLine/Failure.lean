import PublicPath.Config.Error

/-!
# Failures of a command

A failure has a message and a chain of causes, the nearest one first.
-/

namespace PublicPath

structure Failure where
  message : String
  causes : List String
deriving DecidableEq, Repr

namespace Failure

def ofMessage (message : String) : Failure := ⟨message, []⟩

def ofConfig (e : ConfigError) : Failure := ⟨e.message, e.detail?.toList⟩

def ofFault (fault : FileFault) : Failure := ⟨fault.message, []⟩

/-- The failure as the cause of another one. -/
def within (f : Failure) (message : String) : Failure := ⟨message, f.message :: f.causes⟩

/-- On one line. -/
def line (f : Failure) : String := ": ".intercalate (f.message :: f.causes)

/-- A text whose lines after the first are indented. -/
def hanging (width : Nat) (s : String) : String :=
  ("\n" ++ String.ofList (List.replicate width ' ')).intercalate
    ((Text.pieces '\n' s.toList).map String.ofList)

def numbered (causes : List String) : List String :=
  causes.zipIdx.map fun (cause, i) =>
    let number := toString i
    String.ofList (List.replicate (5 - number.length) ' ') ++ number ++ ": " ++ hanging 7 cause

/-- With all causes below; several ones are numbered. -/
def report (f : Failure) : String :=
  "Error: " ++ f.message ++ "\n" ++
    match f.causes with
    | [] => ""
    | [cause] => "\nCaused by:\n    " ++ hanging 4 cause ++ "\n"
    | causes => "\nCaused by:\n" ++ String.join ((numbered causes).map (· ++ "\n"))

end Failure

end PublicPath
