/-!
# Log lines
-/

namespace PublicPath

/-- How much a log line matters, least first. -/
inductive LogLevel where
  | trace
  | debug
  | info
  | warn
  | error
deriving DecidableEq, Repr

namespace LogLevel

def name : LogLevel → String
  | trace => "TRACE"
  | debug => "DEBUG"
  | info => "INFO"
  | warn => "WARN"
  | error => "ERROR"

def rank : LogLevel → Nat
  | trace => 0
  | debug => 1
  | info => 2
  | warn => 3
  | error => 4

end LogLevel

structure LogLine where
  level : LogLevel
  message : String
deriving DecidableEq, Repr

def LogLine.text (l : LogLine) : String := l.level.name ++ " " ++ l.message

/-- Which lines are shown: those of a least level and above, or none. -/
structure LogFilter where
  least : Option LogLevel
deriving DecidableEq, Repr

namespace LogFilter

def default : LogFilter := ⟨some .info⟩

/-- The filter of a level's name; an unknown name gives the default. -/
def ofName (name : String) : LogFilter :=
  match name.toLower with
  | "off" => ⟨none⟩
  | "error" | "" => ⟨some .error⟩
  | "warn" => ⟨some .warn⟩
  | "info" => ⟨some .info⟩
  | "debug" => ⟨some .debug⟩
  | "trace" => ⟨some .trace⟩
  | _ => default

def admits (f : LogFilter) (l : LogLine) : Bool :=
  f.least.any fun least => least.rank ≤ l.level.rank

end LogFilter

end PublicPath
