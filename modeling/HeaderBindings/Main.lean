import HeaderBindings.Program.Run

/-!
# The command line

`main` reads the words of the command line, runs the command in a world made from
the machine, and carries the outcome over to the machine.

**The world.**  The report of the compiler is taken from the standard input, whatever
the compiler is called.  Of the files only a batch file is read.  The frontend is a
unit store without units: to parse headers, run `World.run` with a frontend that
knows them.
-/

namespace HeaderBindings
namespace Main

section World

/-- A tree that holds nothing but a working directory. -/
def treeAt (working : Location) : FileTree where
  working := working
  entries := (List.range working.length).map fun i => (working.take (i + 1), .directory)

/-- The names in the path of the working directory. -/
def workingLocation : IO Location := do
  let path : Path := ⟨(← IO.currentDir).toString⟩
  return path.components.filterMap fun component =>
    match component with
    | .name text => some text
    | _ => none

/-- A tree with a file of the machine in it, if the file can be read. -/
def withFile (tree : FileTree) (path : Path) : IO FileTree := do
  match ← (IO.FS.readBinFile path.text).toBaseIO with
  | .error _ => return tree
  | .ok content =>
      let prepared := (Writing.prepare tree path).1
      return (prepared.write path content).toOption.getD prepared

/-- The compiler that a command asks. -/
def compilerOf (tree : FileTree) : Command → String
  | .extract options => options.walk.compiler
  | .dump options => options.walk.compiler
  | .includePaths compiler => compiler
  | .batch path =>
      match BatchConfig.load tree path with
      | .ok config => config.compiler
      | .error _ => Compiler.defaultName

/-- The world of a command. -/
def worldOf (command : Command) : IO World := do
  let empty := treeAt (← workingLocation)
  let files ←
    match command with
    | .batch path => withFile empty path
    | _ => pure empty
  let report ← (← IO.getStdin).readToEnd
  return {
    files := files
    toolchain := [{ name := compilerOf files command, report := report.toUTF8 }]
    frontend := UnitStore.toFrontend {} }

end World

section Outcome

/-- The files of a tree that another one does not have. -/
def newFiles (before after : FileTree) : List (Location × ByteArray) :=
  after.entries.filterMap fun (location, entry) =>
    match entry, before.entryAt? location with
    | .file content, none => some (location, content)
    | _, _ => none

/-- Writes a file to the machine. -/
def writeFile (location : Location) (content : ByteArray) : IO Unit := do
  IO.FS.createDirAll ("/" ++ "/".intercalate location.dropLast)
  IO.FS.writeBinFile ("/" ++ "/".intercalate location) content

/-- The level of the log for a number of requests to be talkative. -/
def logLevel (verbosity : Nat) : Level :=
  match verbosity with
  | 0 => .warn
  | 1 => .info
  | _ => .debug

/-- Carries an outcome over to the machine and gives the exit code. -/
def settle (world : World) (verbosity : Nat) (outcome : Outcome) : IO UInt32 := do
  for line in logOf (logLevel verbosity) outcome.events do
    IO.eprintln line
  for (location, content) in newFiles world.files outcome.files do
    writeFile location content
  IO.print outcome.output
  IO.eprint outcome.report
  match outcome.failure with
  | none => return 0
  | some reasons =>
      IO.eprintln (Reason.renderAll reasons)
      return 1

end Outcome

end Main
end HeaderBindings

/-- Runs the command of a command line. -/
def main (args : List String) : IO UInt32 := do
  match HeaderBindings.CommandLine.parse args with
  | .error .help =>
      IO.println "commands: extract, batch, dump, include-paths"
      return 0
  | .error _ =>
      IO.eprintln "error: the command line cannot be read; try --help"
      return 2
  | .ok line =>
      let world ← HeaderBindings.Main.worldOf line.command
      HeaderBindings.Main.settle world line.verbosity (world.run line.command)
