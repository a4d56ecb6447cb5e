/-!
# The initializer script

The start-up code that an initializer call runs. It reads the runtime map of the host page.
-/

namespace PublicPath.Script

/-- The initializer's name when none is chosen. -/
def defaultInitializer : String := "setPath"

/-- The lines of the function's body. -/
def body : String :=
  "(entry) \x7b\n" ++
  "  const \x7b __MAP__, __ENVIRONMENT__ \x7d = window;\n" ++
  "  const \x7b href \x7d = __MAP__[entry][__ENVIRONMENT__];\n" ++
  "  return href + \"/\";\n" ++
  "\x7d"

/-- A global function, to be included in the host page. -/
def function (name : String) : String := "function " ++ name ++ body ++ "\n"

/-- The same function as the export of a module. -/
def module : String := "module.exports = function " ++ body ++ ";\n"

end PublicPath.Script
