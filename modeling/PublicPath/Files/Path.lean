import PublicPath.Text.Basic

/-!
# File paths

A path is a text of segments between slashes. Empty segments and dots count for nothing, except for
a slash or a dot in front; two paths are alike if their components are.
-/

namespace PublicPath.Path

inductive Component where
  | root
  | current
  | parent
  | name (s : String)
deriving DecidableEq, Repr

def isAbsolute (path : String) : Bool := path.toList.head? = some '/'

/-- The text between slashes. -/
def segments (path : String) : List String :=
  (Text.pieces '/' path.toList).map String.ofList

/-- The component of a segment, if it counts; `first` tells that no slash stands before it. -/
def component? (first : Bool) (segment : String) : Option Component :=
  if segment = "" then none
  else if segment = "." then if first then some .current else none
  else if segment = ".." then some .parent
  else some (.name segment)

def components (path : String) : List Component :=
  match segments path with
  | [] => []
  | first :: rest =>
    (if isAbsolute path then [.root] else (component? true first).toList) ++
      rest.filterMap (component? false)

/-- The last segment, unless the path ends in a root or in dots. -/
def fileName? (path : String) : Option String :=
  match (components path).getLast? with
  | some (.name s) => some s
  | _ => none

/-- A name cut at its last dot; a dot in front cuts nothing. -/
def splitName (name : String) : String × Option String :=
  let back := name.toList.reverse
  let after := back.takeWhile (· ≠ '.')
  match back.drop after.length with
  | [] | ['.'] => (name, none)
  | _ :: before => (String.ofList before.reverse, some (String.ofList after.reverse))

def fileStem? (path : String) : Option String := (fileName? path).map fun n => (splitName n).1

def extension? (path : String) : Option String := (fileName? path).bind fun n => (splitName n).2

/-- Drops segments that count for nothing, from the end; `back` is reversed. -/
def dropIdle : List String → List String
  | [] => []
  | [first] => [first]
  | segment :: more => if (component? false segment).isNone then dropIdle more else segment :: more

/-- The text of segments in reverse order. -/
def ofReversed (back : List String) : String :=
  if back = [""] then "/" else "/".intercalate back.reverse

/-- The path without its last component; none for a root and for the empty path. -/
def parent? (path : String) : Option String :=
  match (components path).getLast? with
  | none | some .root => none
  | some _ => some (ofReversed (dropIdle ((dropIdle (segments path).reverse).drop 1)))

/-- A name inside a directory. -/
def join (directory name : String) : String :=
  if isAbsolute name then name
  else if directory = "" || directory.toList.getLast? = some '/' then directory ++ name
  else directory ++ "/" ++ name

/-- Another name in the place of the last component. -/
def withFileName (path name : String) : String :=
  match fileName? path with
  | some _ => join ((parent? path).getD "") name
  | none => join path name

end PublicPath.Path
