import PublicPath.Build.RuntimeModule

/-!
# Diagnostics

A handler keeps every diagnostic that it is given, in order. A console prints each one as well.
-/

namespace PublicPath

inductive Severity where
  | error
  | warning
  | info
deriving DecidableEq, Repr

namespace Severity

def name : Severity → String
  | error => "error"
  | warning => "warning"
  | info => "info"

/-- The terminal's number of the colour. -/
def colour : Severity → String
  | error => "31"
  | warning => "33"
  | info => "34"

end Severity

inductive Location where
  | build
  | chunk (c : Chunk)
deriving DecidableEq, Repr

def Location.text : Location → String
  | build => "build"
  | chunk c => "chunk " ++ c.label

structure Diagnostic where
  severity : Severity
  location : Location
  message : String
deriving DecidableEq, Repr

/-- What becomes of a diagnostic besides being kept. -/
inductive Outlet where
  | silent
  | console (coloured : Bool)
deriving DecidableEq, Repr

/-- The line that an outlet prints. -/
def Outlet.print (o : Outlet) (d : Diagnostic) : String :=
  let tail := " [" ++ d.location.text ++ "]: " ++ d.message ++ "\n"
  match o with
  | silent => ""
  | console false => d.severity.name ++ tail
  | console true => "\x1b[1;" ++ d.severity.colour ++ "m" ++ d.severity.name ++ "\x1b[0m" ++ tail

/-- The diagnostics that were reported, in order. -/
structure Handler where
  diagnostics : List Diagnostic
deriving DecidableEq, Repr

namespace Handler

def empty : Handler := ⟨[]⟩

def report (h : Handler) (d : Diagnostic) : Handler := ⟨h.diagnostics ++ [d]⟩

def count (h : Handler) (s : Severity) : Nat :=
  h.diagnostics.countP fun d => d.severity = s

def errorCount (h : Handler) : Nat := h.count .error

def warningCount (h : Handler) : Nat := h.count .warning

def hasErrors (h : Handler) : Bool := 0 < h.errorCount

end Handler

end PublicPath
