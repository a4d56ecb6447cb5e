import PublicPath.Build.RuntimeModule
import PublicPath.Statement.Assignment
import PublicPath.Text.Quoted

/-!
# Initializer calls

The value of a public path assignment gives way to a call of the initializer with the name of the
entry. The target stays as it was written.
-/

namespace PublicPath

/-- The initializer and the name of the entry that it is called with. -/
structure InitializerCall where
  initializer : String
  entryName : String
deriving DecidableEq, Repr

namespace InitializerCall

/-- The call as an expression. -/
def text (c : InitializerCall) : String :=
  c.initializer ++ "(" ++ Text.singleQuoted c.entryName ++ ")"

/-- The statement that assigns the call to a target. -/
def assignTo (c : InitializerCall) (target : String) : String :=
  target ++ " = " ++ c.text ++ ";"

/-- The statement that takes the place of a public path assignment. -/
def replace (c : InitializerCall) (code : String) : Except StatementError String :=
  (Assignment.parse code).map fun a => c.assignTo a.target

end InitializerCall

/-- The code of a chunk's public path module is not a single assignment. -/
structure ShapeError where
  chunk : Chunk
  cause : StatementError
deriving DecidableEq, Repr

def ShapeError.message (e : ShapeError) : String :=
  s!"Cannot rewrite publicPath for chunk {e.chunk.label}: {e.cause.message}"

end PublicPath
