import Alerting.CommandLine

/-!
# Monitor compiler

Reads request lines from standard input up to its end, and writes the answer to each.
-/

open Alerting

/-- Handles the lines of a stream, and writes at once what each of them adds. -/
partial def serve (session : CommandLine.Session) (input output : IO.FS.Stream) : IO Unit := do
  let line ← input.getLine
  if line.isEmpty then return ()
  let session := session.step line
  output.putStr session.written
  output.flush
  serve { session with written := "" } input output

/-- Handles the lines of standard input. -/
def main : IO Unit := do
  serve .start (← IO.getStdin) (← IO.getStdout)
