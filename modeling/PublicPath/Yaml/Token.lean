import PublicPath.Yaml.Cursor

/-!
# Tokens

A configuration text is a sequence of tokens. The start and the end of a collection that is marked
by indentation alone are tokens too, and so is every key, marked or not.
-/

namespace PublicPath.Yaml

inductive TokenKind where
  | streamEnd
  /-- The text cannot be read from here on. -/
  | broken (fault : Fault)
  | version (major minor : Nat)
  /-- A tag handle and what it stands for. -/
  | handle (name expansion : String)
  | documentStart
  | documentEnd
  | blockSequence
  | blockMapping
  | blockEnd
  | flowSequence
  | flowSequenceEnd
  | flowMapping
  | flowMappingEnd
  | entry
  | comma
  | key
  | value
  | anchor (name : String)
  | reference (name : String)
  | tag (handle suffix : String)
  | scalar (text : String) (plain : Bool)
deriving DecidableEq, Repr

structure Token where
  kind : TokenKind
  mark : Mark
deriving DecidableEq, Repr

end PublicPath.Yaml
