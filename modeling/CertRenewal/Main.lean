import CertRenewal.Application
import CertRenewal.Json.Printer
import CertRenewal.Rsa.Generate

/-
  The command line. The settings come from the environment; a bad one, or a start that fails,
  ends the program with the reason. Otherwise the program says what it was launched with and
  answers requests, one JSON object on each line with the fields method, path, content_type, body
  and now, until there are no more. Keys are made from random bytes of the system.
-/

namespace CertRenewal.Main

/-- The environment's values for the settings, by their names in upper and in lower case. -/
def environment : IO (List (String × String)) := do
  let spelled := Settings.names.flatMap fun name => [Text.lower name, name]
  let found ← spelled.mapM fun name => do
    let value ← IO.getEnv name
    pure (value.map (name, ·))
  pure (found.filterMap id)

/-- The request on a line, and what the clock shows when it is answered. -/
def request? (line : String) : Option (Api.Request × Moment) :=
  match Json.ofBytes (Utf8.ofString line) with
  | .error _ => none
  | .ok v => do
    let field := fun name => (v.field? name).bind Json.text?
    let path ← field "path"
    let clock ← (field "now").bind Moment.ofIsoText?
    some
      (⟨(field "method").getD "POST", path,
        some ((field "content_type").getD "application/json"),
        Utf8.ofString ((field "body").getD "")⟩, clock)

/-- A source of a new key for requests that may need one. -/
def source (bits : Int) (r : Api.Request) : IO Rsa.KeySource := do
  match Api.route r with
  | .endpoint .renewal =>
    let seed ← IO.getRandomBytes 32
    pure (.ofSeed seed.toList bits)
  | _ => pure (.ready none)

/-- The text of the answer to a line. -/
def answer (a : Application) (s : Settings) (line : String) : IO String := do
  match request? line with
  | none => pure "not a request"
  | some (r, clock) =>
    let keys ← source s.keySize r
    match (a.respond s keys clock r).outcome with
    | .ok response => pure response.toJson.print
    | .error e => pure e.message

/-- Answers lines until there are no more. -/
partial def serve (a : Application) (s : Settings) (input output : IO.FS.Stream) : IO Unit := do
  let line ← input.getLine
  if line ≠ "" then
    output.putStrLn (← answer a s line)
    output.flush
    serve a s input output

/-- The text of a problem with a setting. -/
def problemText (e : Validation.FieldError) : String :=
  ".".intercalate e.place ++ ": " ++ e.problem.message

/-- Starts under settings and answers requests. -/
def run (s : Settings) : IO UInt32 := do
  match Application.initial.start s with
  | (_, .error e) =>
    IO.eprintln e.message
    pure 1
  | (a, .ok _) =>
    IO.println s.launch.toJson.print
    serve a s (← IO.getStdin) (← IO.getStdout)
    pure 0

end CertRenewal.Main

/-- Reads the settings and runs. -/
def main : IO UInt32 := do
  match CertRenewal.Settings.load ⟨[], ← CertRenewal.Main.environment⟩ with
  | .bad es =>
    for e in es do
      IO.eprintln (CertRenewal.Main.problemText e)
    pure 1
  | .good s => CertRenewal.Main.run s
