import HeaderBindings.Reason
import HeaderBindings.Schema.File
import HeaderBindings.Survey.Extract

/-!
# Writing the schema of an extracted class

A class is labelled with its target namespace and written to a file.  Unless a file
is named, it is `<TargetName>.json` in the output directory; missing directories
are made.
-/

namespace HeaderBindings

/-- What writing a class did.  The label and new directories stay if the file cannot be
written. -/
structure Writing where
  survey : Survey
  files : FileTree
  events : List Event := []
  outcome : Except (List Reason) Path

namespace Writing

/-- The file of a class. -/
def pathOf (target : String) (output : Option Path) (outputDir : Path) : Path :=
  match output with
  | some path => path
  | none => outputDir.join ⟨target ++ ".json"⟩

/-- The directory of a file, unless it is the working directory. -/
def directoryOf (path : Path) : Option Path :=
  path.parent?.filter fun parent => !parent.text.isEmpty

/-- Makes the directory of a file. -/
def prepare (files : FileTree) (path : Path) : FileTree × Except (List Reason) Unit :=
  match directoryOf path with
  | none => (files, .ok ())
  | some directory =>
      match files.makeDirectories directory with
      | (made, .ok ()) => (made, .ok ())
      | (made, .error cause) =>
          (made, .error [.message ("creating " ++ directory.text), .message cause.message])

/-- Why a class without a record cannot be written. -/
def noMembers (header : Path) (selection : Selection) : List Reason :=
  [.message
    ("no " ++ selection.access.render ++ " members of `" ++ selection.className ++
      "` found in " ++ header.text)]

end Writing

namespace Survey

/-- The first record of a class, labelled with a namespace, and the survey with this label. -/
def labelClass? (survey : Survey) (className space : String) :
    Option (Survey × ClassInterface) :=
  match survey.registry.positionOf? className with
  | none => none
  | some position =>
      match survey.registry.records[position]? with
      | none => none
      | some record =>
          let labelled := { record with space := space }
          let registry := survey.registry.modifyAt position fun _ => labelled
          some ({ survey with registry := registry }, labelled)

/-- Labels an extracted class and writes its schema. -/
def writeClass (survey : Survey) (files : FileTree) (header : Path) (selection : Selection)
    (space : String) (output : Option Path) (outputDir : Path) : Writing :=
  match survey.labelClass? selection.className space with
  | none =>
      { survey := survey, files := files, outcome := .error (Writing.noMembers header selection) }
  | some (labelled, interface) =>
      let path := Writing.pathOf interface.classType.targetName output outputDir
      match Writing.prepare files path with
      | (prepared, .error reasons) =>
          { survey := labelled, files := prepared, outcome := .error reasons }
      | (prepared, .ok ()) =>
          match SchemaFile.write prepared path interface with
          | .error error =>
              { survey := labelled, files := prepared, outcome := .error (Reason.ofError error) }
          | .ok written =>
              { survey := labelled
                files := written
                events := SchemaFile.writeEvents path interface
                outcome := .ok path }

end Survey
end HeaderBindings
