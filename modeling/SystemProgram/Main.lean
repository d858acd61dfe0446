import SystemProgram.Command

namespace SystemProgram.Main

/-- The files at a path or below it. What cannot be read is left out. -/
partial def filesBelow (path : String) : IO (List (String × Bytes)) := do
  try
    let place ← IO.FS.realPath path
    if ← place.isDir then
      let entries := (← place.readDir).toList
      let files ← entries.mapM fun entry => filesBelow (path ++ "/" ++ entry.fileName)
      return files.flatten
    else
      return [(path, (← IO.FS.readBinFile path).data.toList)]
  catch _ => return []

/-- The files of the working directory, and those where the fixtures are looked for. -/
def readTree (fixtures : String) : IO FileTree := do
  let cwd := Path.names (← IO.currentDir).toString.toList
  let dir := String.ofList (FileTree.splitPattern fixtures.toList).1
  return .ofFiles ((← filesBelow ".") ++ (← filesBelow dir)) cwd

def readEnvironment : IO (List (String × String)) := do
  let names := ["FIXTURE_DIR", "VERBOSE", "STOP_ON_FIRST_FAILURE"]
  names.filterMapM fun name => do return (← IO.getEnv name).map (name, ·)

def usage : String :=
  "usage: [--fixtures PATH] [--verbose] [--stop-on-failure] [--help]"

def printed (t : Text) : String :=
  String.ofList (t.points.flatMap fun
    | .char c => [c]
    | .surrogate s => Quoted.escapeNumber s.number)

def report (r : Command.Report) : IO UInt32 := do
  r.log.forM fun e => IO.eprintln ("[" ++ e.level ++ "] " ++ printed e.text)
  r.failure.forM fun e => IO.eprintln (printed e.text)
  return r.exitCode.toUInt32

end SystemProgram.Main

open SystemProgram in
def main (args : List String) : IO UInt32 := do
  match Options.request args with
  | .run options =>
    let env ← Main.readEnvironment
    let fixtures := ((Settings.ofEnvironment env).override options).fixtureDir
    Main.report (Command.execute (← Main.readTree fixtures) env args)
  | .help | .misuse =>
    IO.eprintln Main.usage
    Main.report (Command.execute (.ofFiles []) [] args)
