import HeaderBindings.Check
import HeaderBindings.Interface
import HeaderBindings.Pattern
import HeaderBindings.Text.Quoted

/-!
# Listing declarations

A listing shows the public declarations of a list: one line for a declaration, one
for its brief comment, and one for each argument of a constructor or method.
Declarations and arguments are checked on the way.

A listing is a list of *pieces*: the problems that come up, and the text that is
written after them.  A writer can refuse text beyond a number of bytes; then the
pieces after the one that does not fit are not even looked at.

**Results.**
* `pieces_append`: a listing can be made in two parts.
* `writeUpTo_append`: pieces that fit leave the rest of the limit to those after them.
-/

namespace HeaderBindings
namespace Listing

section Pieces

/-- What a listing leaves out. -/
structure Options where
  /-- The first match of this pattern is left out of the names of files. -/
  pathRoot : Option Pattern := none
  /-- Only members of this class are listed. -/
  className : Option String := none

/-- Problems that come up, and the text after them. -/
structure Piece where
  problems : List Diagnostic := []
  text : String := ""

/-- The name of the file of a declaration, as it is shown. -/
def Options.fileName (options : Options) (decl : Decl) : String :=
  match options.pathRoot with
  | some pattern => pattern.removeFirst decl.file.text
  | none => decl.file.text

/-- The name of a parent, or nothing. -/
def parentName (parent : Option Parent) : String :=
  match parent with
  | some parent => parent.name
  | none => ""

/-- Whether a declaration is listed. -/
def Options.shows (options : Options) (decl : Decl) : Bool :=
  decl.access = some .isPublic &&
    match options.className with
    | some name => name = parentName decl.lexicalParent
    | none => true

/-- The line of a declaration: its file, kind and type, and its name with both parents. -/
def Options.declLine (options : Options) (decl : Decl) : String :=
  options.fileName decl ++ " " ++ decl.kind.render ++ " " ++
    (match decl.type with
      | some type => type.spelling
      | none => "") ++
    " `" ++ parentName decl.lexicalParent ++ "::" ++ decl.name ++ "` `" ++
    parentName decl.semanticParent ++ "::" ++ decl.name ++ "`\n"

/-- The line of a brief comment. -/
def briefLines (decl : Decl) : List Piece :=
  match decl.brief with
  | some brief => [{ text := "\tDOC: " ++ brief ++ "\n" }]
  | none => []

/-- The marks of the type of an argument. -/
def marks (type : NativeType) : List String :=
  let pointee := type.pointee
  let marked :=
    [(type.isPlain, "pod"),
      (type.isConst, "const_qualified"),
      (pointee.any TypeFacts.isPlain, "pointee_pod"),
      (pointee.any TypeFacts.isConst, "pointee_const_qualified")]
  (marked.filter fun (isSet, _) => isSet).map fun (_, name) => name

/-- The line of an argument: its type and name, what the type points to, marks, and tokens. -/
def argumentLine (argument : Argument) : String :=
  "\t" ++ argument.type.spelling ++ " " ++ argument.name ++ " ...... " ++
    (match argument.type.pointee with
      | some pointee => pointee.spelling
      | none => "") ++
    " ...... " ++ " ".intercalate (marks argument.type) ++ " ...... " ++
    Text.quotedList argument.tokens ++ "\n"

/-- The pieces of the arguments of a declaration. -/
def argumentPieces (decl : Decl) : List Piece :=
  match MethodKind.ofDecl? decl.kind with
  | some _ =>
      decl.arguments.map fun argument =>
        { problems := argument.problems, text := argumentLine argument }
  | none => []

/-- The pieces of a declaration. -/
def Options.declPieces (options : Options) (decl : Decl) : List Piece :=
  if !decl.kind.isConcerned then []
  else if options.shows decl then
    { problems := decl.problems, text := options.declLine decl } ::
      (briefLines decl ++ argumentPieces decl)
  else [{ problems := decl.problems }]

/-- The pieces of a list of declarations. -/
def Options.pieces (options : Options) (decls : List Decl) : List Piece :=
  decls.flatMap options.declPieces

@[simp] theorem pieces_append (options : Options) (first second : List Decl) :
    options.pieces (first ++ second) = options.pieces first ++ options.pieces second := by
  simp [Options.pieces]

end Pieces

section Writing

/-- The bytes of the text of a piece. -/
def Piece.bytes (piece : Piece) : List UInt8 := piece.text.toUTF8.toList

/-- What a writer took. -/
structure Written where
  bytes : List UInt8 := []
  problems : List Diagnostic := []
  /-- Some text was refused. -/
  isCut : Bool := false
deriving DecidableEq

/-- Puts something in front of what a writer took. -/
def Written.after (problems : List Diagnostic) (bytes : List UInt8) (written : Written) :
    Written :=
  { written with bytes := bytes ++ written.bytes, problems := problems ++ written.problems }

/-- Writes pieces to a writer that takes `limit` bytes. -/
def writeUpTo (limit : Nat) : List Piece → Written
  | [] => {}
  | piece :: pieces =>
      let bytes := piece.bytes
      if bytes.length ≤ limit then
        (writeUpTo (limit - bytes.length) pieces).after piece.problems bytes
      else { bytes := bytes.take limit, problems := piece.problems, isCut := true }

/-- Writes pieces to a writer that takes everything. -/
def writeAll : List Piece → Written
  | [] => {}
  | piece :: pieces => (writeAll pieces).after piece.problems piece.bytes

/-- Writes pieces to a writer that may have a limit. -/
def write (limit : Option Nat) (pieces : List Piece) : Written :=
  match limit with
  | some limit => writeUpTo limit pieces
  | none => writeAll pieces

/-- Writing pieces that fit leaves the rest of the limit to the pieces after them. -/
theorem writeUpTo_append (limit : Nat) (first second : List Piece)
    (h : (writeAll first).bytes.length ≤ limit) :
    writeUpTo limit (first ++ second) =
      (writeUpTo (limit - (writeAll first).bytes.length) second).after
        (writeAll first).problems (writeAll first).bytes := by
  induction first generalizing limit with
  | nil =>
      simp [writeAll, Written.after]
  | cons piece pieces ih =>
      simp only [writeAll, Written.after, List.length_append] at h
      have hpiece : piece.bytes.length ≤ limit := by omega
      have hrest : (writeAll pieces).bytes.length ≤ limit - piece.bytes.length := by omega
      simp only [List.cons_append, writeUpTo, hpiece, if_true, ih _ hrest]
      simp [writeAll, Written.after, Nat.sub_sub]

end Writing

end Listing
end HeaderBindings
