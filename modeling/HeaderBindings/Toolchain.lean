import HeaderBindings.Diagnostic
import HeaderBindings.FileTree.Operations
import HeaderBindings.SearchList
import HeaderBindings.Text.Utf8

/-!
# Compilers

A toolchain is the list of programs that can be run by name.  A name with a slash
is a path in the file tree, where no file is a program.
-/

namespace HeaderBindings

/-- A program that can be asked for its include search list. -/
structure Compiler where
  name : String
  /-- What it writes to standard error. -/
  report : ByteArray
  /-- Whether it also writes its arguments there, one on a line. -/
  echoesArguments : Bool := false
  isExecutable : Bool := true

namespace Compiler

/-- The arguments with which a compiler is asked for its search list. -/
def probeArguments : List String := ["-v", "-E", "-x", "c++", "-"]

/-- What a compiler writes to standard error when it is run with some arguments. -/
def run (compiler : Compiler) (arguments : List String) : ByteArray :=
  if compiler.echoesArguments then
    compiler.report ++ (String.join (arguments.map fun arg => " arg:" ++ arg ++ "\n")).toUTF8
  else compiler.report

/-- The compiler that is used when none is named. -/
def defaultName : String := "clang"

end Compiler

/-- The programs that can be run by name; a later one takes the place of an earlier one. -/
abbrev Toolchain := List Compiler

namespace Toolchain

/-- The program with a given name, found by name or by path. -/
def find (toolchain : Toolchain) (tree : FileTree) (name : String) : Except OsError Compiler :=
  if name.toList.contains '\x00' then .error .nulInProgram
  else if name.isEmpty then .error .notFound
  else if name.toList.contains '/' then
    match tree.place .look ⟨name⟩ with
    | .error e => .error e
    | .ok (.free _ _) => .error .notFound
    | .ok (.taken _ _) => .error .permissionDenied
  else if name = "." || name = ".." then .error .permissionDenied
  else if FileTree.maxName < name.utf8ByteSize then .error .nameTooLong
  else
    match toolchain.reverse.find? fun compiler => compiler.name = name with
    | none => .error .notFound
    | some compiler =>
        if compiler.isExecutable then .ok compiler else .error .permissionDenied

/-- The include directories that a compiler reports. -/
def searchPaths (toolchain : Toolchain) (tree : FileTree) (name : String) :
    Except OsError (List Path) :=
  (toolchain.find tree name).map fun compiler =>
    SearchList.parse
      (String.ofList (Text.decodeLossy (compiler.run Compiler.probeArguments).toList))

/-- What is said about a compiler that reports no include directory. -/
def searchEvents (name : String) (paths : List Path) : List Event :=
  if paths.isEmpty then
    [.remark .warn ("`" ++ name ++ "` reported no system include directories")]
  else []

end Toolchain
end HeaderBindings
