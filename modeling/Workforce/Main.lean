import Workforce.Program
/-!
# The command line program

Gathers what the program is called with, and writes what it says.

An environment file is looked for in the working directory and in the directories above it. The job
runs on the clock of its scene, so that its log is written as soon as it is known.
-/

open Workforce

/-- The environment file nearest to the working directory, if there is one. -/
def readEnvFile : IO (Option RawText) := do
  for depth in List.range 64 do
    let up := String.join (List.replicate depth "../")
    try
      let bytes ← IO.FS.readBinFile (up ++ ".env")
      return some (RawText.ofBytes bytes.toList)
    catch _ => pure ()
  return none

/-- The variables of some names that are set. -/
def readEnvironment (names : List String) : IO Environment := do
  let mut found := []
  for name in names do
    if let some value ← IO.getEnv name then
      found := (name, RawText.ofString value) :: found
  return found

/-- How many processors the machine has, as far as it tells. -/
def countProcessors : IO Nat := do
  try
    let lines ← IO.FS.lines "/proc/cpuinfo"
    return max 1 (lines.filter (·.startsWith "processor")).size
  catch _ => return 1

/-- A number drawn at random. -/
def drawSeed : IO UInt64 := do
  let bytes ← IO.getRandomBytes 8
  return bytes.toList.foldl (fun n b => n * 256 + b.toUInt64) 0

/-- Runs the program. -/
def main (arguments : List String) : IO UInt32 := do
  let envFile ← readEnvFile
  let names := Setting.all.map Setting.variableName ++ [LogFilter.variableName] ++
    (envFile.map EnvFile.mentioned).getD []
  let invocation : Invocation := {
    arguments := arguments.map RawText.ofString
    environment := ← readEnvironment names
    envFile := envFile
    processors := ← countProcessors
    seed := ← drawSeed }
  let session := invocation.session Text.timespan none
  for record in session.log do
    IO.println record.line
  IO.print session.output
  unless session.complaint.isEmpty do
    IO.eprintln session.complaint
  return UInt32.ofNat session.exitCode
