import CompilerDriver.Invocation

/-!
The command line program: it gathers the arguments and the surroundings of the process, and prints
what the run leaves behind.
-/

open CompilerDriver in
/-- Runs the driver on the arguments of the process. -/
def main (arguments : List String) : IO UInt32 := do
  let program ← IO.appPath
  let outcome := Invocation.run
    { arguments := (program.toString :: arguments).map Utf8.encode
      logSetting := ← IO.getEnv "RUST_LOG" }
  IO.eprint outcome.stderr
  try
    let stdout ← IO.getStdout
    stdout.write outcome.stdout.toByteArray
    stdout.flush
    return outcome.exitCode.toUInt32
  catch fault =>
    match fault with
    | .resourceExhausted .. => IO.eprint (Invocation.writeFailure .noSpace)
    | _ => IO.eprintln s!"failed to write configuration: {fault}"
    return 1
