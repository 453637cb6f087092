import GoMetrics.CommandLine.Run
import GoMetrics.Snapshot

/-!
The command. Its arguments are the options and targets; the snapshot that it works on comes from
standard input.
-/

namespace GoMetrics.CommandLine

/-- All of standard input. -/
def readInput : IO String := do
  let stdin ← IO.getStdin
  let mut text := ""
  repeat
    let line ← stdin.getLine
    if line.isEmpty then break
    text := text ++ line
  return text

/-- Write what a run gives: the report, the log and what the command says itself. -/
def Exit.write (e : Exit) : IO UInt32 := do
  (← IO.getStdout).putStr e.stdout
  let stderr ← IO.getStderr
  for r in e.log do
    stderr.putStrLn (r.level.name ++ " " ++ r.message)
  stderr.putStr e.console
  return e.status.toUInt32

end GoMetrics.CommandLine

/-- Run on the snapshot; one that cannot be read counts as a wrong use. -/
def main (args : List String) : IO UInt32 := do
  match GoMetrics.Snapshot.read? (← GoMetrics.CommandLine.readInput) with
  | some s => (GoMetrics.CommandLine.run s.fs s.env args).write
  | none =>
    (← IO.getStderr).putStrLn "Error: the snapshot is not well formed"
    return 2
