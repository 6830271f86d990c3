import ApprovalWatch.CommandLine.Serve
import ApprovalWatch.CommandLine.Watch

/-!
# The program

Runs one session against an authority whose responses are given on the standard input, a line for
the body of each, the last of which is repeated. The report is printed, and the exit status tells
how the session ended. With `serve` as the first argument the program answers status checks instead,
a method and a target on each line.
-/

namespace ApprovalWatch

/-- The lines of a stream up to its end. -/
partial def readLines (stream : IO.FS.Stream) : IO (List String) := do
  let line ← stream.getLine
  if line.isEmpty then return []
  return (line.trimAsciiEnd).toString :: (← readLines stream)

/-- The contents of the file that the arguments name, if it is there. -/
def readSettings (args : List String) : IO (Option (List UInt8)) := do
  match (CommandLine.Watch.ofArgs args).toOption.bind (·.file) with
  | none => return none
  | some name =>
    try
      return some (← IO.FS.readBinFile name).toList
    catch _ => return none

/-- Where the endpoint that the arguments ask for is to be found. -/
def peerOf (args : List String) (file : Option (List UInt8)) (bodies : List String) :
    Http.Peer :=
  let url := do
    let w ← (CommandLine.Watch.ofArgs args).toOption
    let s ← (w.settings fun _ => file).toOption
    s.endpoint.url.toOption
  { host := (url.bind (·.host?)).getD (.name [])
    port := (url.bind (·.effectivePort?)).getD 80
    conducts := bodies.map fun b => .respond { body := Utf8.ofString b } }

/-- What is said to someone who gives other options than those of the names. -/
def usage (names : List String) : String :=
  "options:" ++ String.join (names.map (" --" ++ ·))

/-- Runs one session (`main`). -/
def watch (args : List String) : IO UInt32 := do
  let file ← readSettings args
  let bodies ← readLines (← IO.getStdin)
  let world : CommandLine.Watch.World := { files := fun _ => file, peer := peerOf args file bodies }
  match CommandLine.Watch.run world args with
  | none =>
    IO.eprintln "the session has no end"
    return 1
  | some ending =>
    match ending with
    | .finished report _ => IO.println ((report.toJson true).pretty "")
    | .misconfigured (.invalid faults) => IO.eprintln (LoadError.message faults)
    | .misconfigured e => IO.eprintln e.kind
    | .refused _ => IO.eprintln (usage (CommandLine.Watch.grammar.options.map (·.name)))
    return ending.exitCode.toUInt32

/-- Answers status checks (`main` of the authority). -/
def serve (args : List String) : IO UInt32 := do
  match CommandLine.Serve.run args with
  | .error refusal =>
    IO.eprintln (usage (CommandLine.Serve.grammar.options.map (·.name)))
    return refusal.exitCode.toUInt32
  | .ok authority =>
    let requests := (← readLines (← IO.getStdin)).map fun line =>
      match line.splitOn " " with
      | method :: target => (method, " ".intercalate target)
      | [] => ("", "")
    for a in authority.answers requests do
      IO.println (toString a.status ++ " " ++ a.body)
    return 0

end ApprovalWatch

/-- The entry point. -/
def main (args : List String) : IO UInt32 :=
  match args with
  | "serve" :: rest => ApprovalWatch.serve rest
  | _ => ApprovalWatch.watch args
