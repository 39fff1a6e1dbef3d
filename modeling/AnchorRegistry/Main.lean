import AnchorRegistry.Json.Writer
import AnchorRegistry.Settings

/-! The command. It loads the settings from the environment and prints, as one line of JSON, how the
service is to be served; settings that cannot be used are reported on the error stream. -/

namespace AnchorRegistry.Command

/-- The variables that are set, in upper or in lower case. -/
def environment : IO (List (Text × Text)) := do
  let spellings := Settings.names.flatMap fun name => [name.upperAscii, name]
  spellings.filterMapM fun name => do
    let value ← IO.getEnv name.toString
    return value.map fun t => (name, Text.ofString t)

end AnchorRegistry.Command

open AnchorRegistry in
def main : IO UInt32 := do
  match Settings.load (← Command.environment) [] with
  | .ok settings =>
    IO.println (settings.launch.toJson.write .line).toString
    return 0
  | .error e =>
    for line in e.lines do
      IO.eprintln line.toString
    return 1
