import PublicPath.Build.InitializerCall
import PublicPath.Build.RuntimeModule
import PublicPath.Report.Diagnostic
import PublicPath.Report.Log

/-!
# Taps

A tap is shown runtime modules one by one. It may leave a module as it is, change it, or fail; the
taps after it see the module as it left it in each of these cases.
-/

namespace PublicPath

/-- What happened to a module. -/
inductive Observation where
  | untouched
  | mutated
deriving DecidableEq, Repr

/-- What a build tells while it runs. -/
inductive BuildEvent where
  | log (line : LogLine)
  | report (diagnostic : Diagnostic)
deriving DecidableEq, Repr

namespace BuildEvent

def line? : BuildEvent → Option LogLine
  | log line => some line
  | report _ => none

def diagnostic? : BuildEvent → Option Diagnostic
  | log _ => none
  | report diagnostic => some diagnostic

end BuildEvent

/-- The diagnostic of a module that could not be changed. -/
def ShapeError.diagnostic (e : ShapeError) : Diagnostic :=
  ⟨.error, .chunk e.chunk, e.message⟩

/-- A tap's answer to one module. -/
structure Reaction where
  /-- The module as the tap leaves it. -/
  module : RuntimeModule
  outcome : Except ShapeError Observation
  log : List LogLine

structure Tap where
  name : String
  react : RuntimeModule → Chunk → Reaction

/-- What showing a module to some taps has led to. -/
structure Showing where
  module : RuntimeModule
  mutated : List Chunk
  errors : List ShapeError
  events : List BuildEvent
deriving DecidableEq, Repr

/-- Nothing was shown yet. -/
def Showing.start (m : RuntimeModule) : Showing := ⟨m, [], [], []⟩

/-- Shows the module of a chunk to one more tap. -/
def Showing.next (chunk : Chunk) (s : Showing) (tap : Tap) : Showing :=
  let r := tap.react s.module chunk
  let told := s.events ++ r.log.map .log
  match r.outcome with
  | .ok .untouched => { s with module := r.module, events := told }
  | .ok .mutated => { s with module := r.module, mutated := s.mutated ++ [chunk], events := told }
  | .error e =>
    { s with
      module := r.module
      errors := s.errors ++ [e]
      events := told ++ [.report e.diagnostic] }

/-- Shows a module to every tap, in order. -/
def showAll (taps : List Tap) (chunk : Chunk) (m : RuntimeModule) : Showing :=
  taps.foldl (Showing.next chunk) (.start m)

end PublicPath
