import PublicPath.Build.Compiler

/-!
# Initializer calls as a plugin

The plugin changes the module of the static public path and no other. A module that is not a single
assignment keeps its code.
-/

namespace PublicPath.InitializerCall

/-- The plugin's answer to one module. -/
def observe (c : InitializerCall) (m : RuntimeModule) (chunk : Chunk) : Reaction :=
  if m.kind.isPublicPath then
    match c.replace m.code with
    | .ok code =>
      { module := { m with code := code }
        outcome := .ok .mutated
        log := [⟨.info, "Changing static publicPath for chunk: " ++ chunk.label⟩] }
    | .error cause => { module := m, outcome := .error ⟨chunk, cause⟩, log := [] }
  else
    { module := m
      outcome := .ok .untouched
      log := [⟨.debug, s!"Skipping {m.kind.title} in chunk {chunk.label}"⟩] }

/-- The name under which the plugin is registered. -/
def pluginName : String := "MutateRuntime"

def plugin (c : InitializerCall) : Plugin := ⟨pluginName, fun _ => [], c.observe⟩

end PublicPath.InitializerCall
