import BoostZones.CommandLine.Reply

/-!
The program: arguments, environment and the settings file in, texts and a code out.
-/

open BoostZones

/-- What a file holds, if it is there and is a text. -/
def readText? (path : String) : IO (Option String) := do
  try
    return some (← IO.FS.readFile path)
  catch _ =>
    return none

def main (args : List String) : IO UInt32 := do
  let reply ←
    match CommandLine.parse args with
    | .error stop => pure (CommandLine.Reply.ofStop stop)
    | .ok request =>
      let content ←
        match request.file with
        | some path => readText? path
        | none => pure none
      let keys := [Settings.zoneKey, Settings.objectiveKey, Settings.fallbackKey]
      let values ← keys.mapM fun key => return (key, ← IO.getEnv key)
      pure (request.reply content fun key => (values.lookup key).join)
  (← IO.getStdout).putStr reply.output
  unless reply.complaint.isEmpty do
    (← IO.getStderr).putStrLn ("error: " ++ reply.complaint)
  return reply.code.toUInt32
