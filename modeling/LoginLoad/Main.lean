import LoginLoad.Network.Load

/-! # The command line

Reads the arguments and the environment, runs the program over the network, and prints. -/

open LoginLoad

/-- Prints a text, as far as the stream accepts it. -/
def printIfPossible (stream : IO.FS.Stream) (text : String) : IO Unit := do
  try
    stream.putStr text
    stream.flush
  catch _ => pure ()

def main (arguments : List String) : IO UInt32 := do
  let environment : Environment := {
    noColor := ← IO.getEnv "NO_COLOR"
    clicolorForce := ← IO.getEnv "CLICOLOR_FORCE"
    logFilter := ← IO.getEnv "RUST_LOG" }
  match Program.order environment (arguments.map fun a => Utf8.encode a.toList) with
  | .error report =>
    printIfPossible (← IO.getStdout) report.notice
    printIfPossible (← IO.getStderr) report.errors
    return report.exitCode.toUInt32
  | .ok config =>
    let (exitCode, text) := Program.verdict (← Network.load environment config)
    printIfPossible (← IO.getStderr) text
    return exitCode.toUInt32
