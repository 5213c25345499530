import StreamCatalog.Hash.Text
import StreamCatalog.Walkthrough

def main (arguments : List String) : IO UInt32 := do
  let started ← IO.monoMsNow
  let outcome := StreamCatalog.Walkthrough.command StreamCatalog.textHash arguments
  outcome.output.dropLast.forM fun line => IO.println line
  let finished ← IO.monoMsNow
  outcome.output.getLast?.forM fun line =>
    IO.println (line ++ " in " ++ toString (finished - started) ++ "ms")
  outcome.errors.forM fun line => IO.eprintln line
  return UInt32.ofNat outcome.code
