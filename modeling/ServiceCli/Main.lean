import ServiceCli.Plugin

/-!
The program. It reads a request from standard input, writes the response to standard output and the
log to standard error, and takes the log filter from the environment if the request has none.
-/

open ServiceCli

/-- All bytes of a stream. -/
partial def readAll (stream : IO.FS.Stream) (sofar : ByteArray) : IO ByteArray := do
  let chunk ← stream.read 65536
  if chunk.isEmpty then return sofar else readAll stream (sofar ++ chunk)

def main : IO UInt32 := do
  let request ← readAll (← IO.getStdin) .empty
  let ending := Plugin.run request.data.toList (← IO.getEnv "RUST_LOG")
  let stderr ← IO.getStderr
  match ending with
  | .answered stdout log =>
    for line in log do stderr.putStrLn line
    (← IO.getStdout).write ⟨stdout.toArray⟩
  | .crashed log =>
    for line in log do stderr.putStrLn line
  return ending.exitCode.toUInt32
