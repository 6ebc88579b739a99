import HeaderBindings.Interface
import HeaderBindings.Schema.Json
import HeaderBindings.Schema.Record

/-!
# The schema of a class

The schema of a class is its interface as nested data with fixed keys, in a fixed
order.  It is written as text with a line feed at the end.

Reading a schema accepts the keys in any order, skips unknown ones, and also takes
lists in place of tables.
-/

namespace HeaderBindings

section ToData

/-- The schema of a parameter type. -/
def ParamType.toJson (type : ParamType) : Json :=
  .table
    [("target", .text type.target), ("native", .text type.native),
      ("from_native_expr", .text type.fromTarget)]

/-- The schema of a return type. -/
def ReturnType.toJson (type : ReturnType) : Json :=
  .table
    [("target", .text type.target), ("native", .text type.native),
      ("to_native_expr", .text type.toTarget)]

/-- The schema of a parameter. -/
def MethodParam.toJson (param : MethodParam) : Json :=
  .table [("name", .text param.name), ("type", param.type.toJson)]

/-- The schema of a method. -/
def Method.toJson (method : Method) : Json :=
  .table
    [("kind", .text method.kind.render), ("target_name", .text method.targetName),
      ("native_name", .text method.nativeName),
      ("params", .list (method.params.map MethodParam.toJson)),
      ("return_type", method.returnType.toJson)]

/-- The schema of a class and its methods. -/
def ClassType.toJson (type : ClassType) : Json :=
  .table
    [("target_name", .text type.targetName), ("native_name", .text type.nativeName),
      ("methods", .list (type.methods.map Method.toJson))]

/-- The schema of a dependency. -/
def Dependency.toJson (dependency : Dependency) : Json :=
  .table [("native", .text dependency.native), ("target", .text dependency.target)]

/-- The schema of a class interface. -/
def ClassInterface.toJson (interface : ClassInterface) : Json :=
  .table
    [("namespace", .text interface.space),
      ("deps", .list (interface.dependencies.map Dependency.toJson)),
      ("type", interface.classType.toJson)]

/-- The text of a schema file. -/
def ClassInterface.schemaText (interface : ClassInterface) : String :=
  interface.toJson.render ++ "\n"

end ToData

section FromText

open Reader

/-- Three texts that are being read. -/
abbrev Texts3 := Option String × Option String × Option String

/-- The fields of a record of three texts with the given names. -/
def textFields3 (first second third : String) : List (RecordField Texts3) :=
  [fieldOf first (fun state => state.1.isSome) text (fun value state => (some value, state.2)),
    fieldOf second (fun state => state.2.1.isSome) text
      (fun value state => (state.1, some value, state.2.2)),
    fieldOf third (fun state => state.2.2.isSome) text
      (fun value state => (state.1, state.2.1, some value))]

/-- The reader of a parameter type. -/
def ParamType.reader : Reader ParamType :=
  record (textFields3 "target" "native" "from_native_expr") (none, none, none) fun
    | (some target, some native, some expr) => some ⟨target, native, expr⟩
    | _ => none

/-- The reader of a return type. -/
def ReturnType.reader : Reader ReturnType :=
  record (textFields3 "target" "native" "to_native_expr") (none, none, none) fun
    | (some target, some native, some expr) => some ⟨target, native, expr⟩
    | _ => none

/-- The fields of a parameter. -/
def MethodParam.fields : List (RecordField (Option String × Option ParamType)) :=
  [fieldOf "name" (fun state => state.1.isSome) text (fun value state => (some value, state.2)),
    fieldOf "type" (fun state => state.2.isSome) ParamType.reader
      (fun value state => (state.1, some value))]

/-- The reader of a parameter. -/
def MethodParam.reader : Reader MethodParam :=
  record MethodParam.fields (none, none) fun
    | (some name, some type) => some ⟨name, type⟩
    | _ => none

/-- A method that is being read. -/
structure PartialMethod where
  kind : Option MethodKind := none
  targetName : Option String := none
  nativeName : Option String := none
  params : Option (List MethodParam) := none
  returnType : Option ReturnType := none

/-- The fields of a method. -/
def Method.fields : List (RecordField PartialMethod) :=
  [fieldOf "kind" (fun state => state.kind.isSome) (choice MethodKind.ofName?)
      (fun value state => { state with kind := some value }),
    fieldOf "target_name" (fun state => state.targetName.isSome) text
      (fun value state => { state with targetName := some value }),
    fieldOf "native_name" (fun state => state.nativeName.isSome) text
      (fun value state => { state with nativeName := some value }),
    fieldOf "params" (fun state => state.params.isSome) (list MethodParam.reader)
      (fun value state => { state with params := some value }),
    fieldOf "return_type" (fun state => state.returnType.isSome) ReturnType.reader
      (fun value state => { state with returnType := some value })]

/-- The reader of a method. -/
def Method.reader : Reader Method :=
  record Method.fields {} fun
    | ⟨some kind, some targetName, some nativeName, some params, some returnType⟩ =>
        some ⟨kind, targetName, nativeName, params, returnType⟩
    | _ => none

/-- The fields of a class and its methods. -/
def ClassType.fields :
    List (RecordField (Option String × Option String × Option (List Method))) :=
  [fieldOf "target_name" (fun state => state.1.isSome) text
      (fun value state => (some value, state.2)),
    fieldOf "native_name" (fun state => state.2.1.isSome) text
      (fun value state => (state.1, some value, state.2.2)),
    fieldOf "methods" (fun state => state.2.2.isSome) (list Method.reader)
      (fun value state => (state.1, state.2.1, some value))]

/-- The reader of a class and its methods. -/
def ClassType.reader : Reader ClassType :=
  record ClassType.fields (none, none, none) fun
    | (some targetName, some nativeName, some methods) => some ⟨targetName, nativeName, methods⟩
    | _ => none

/-- The fields of a dependency. -/
def Dependency.fields : List (RecordField (Option String × Option String)) :=
  [fieldOf "native" (fun state => state.1.isSome) text
      (fun value state => (some value, state.2)),
    fieldOf "target" (fun state => state.2.isSome) text
      (fun value state => (state.1, some value))]

/-- The reader of a dependency. -/
def Dependency.reader : Reader Dependency :=
  record Dependency.fields (none, none) fun
    | (some native, some target) => some ⟨native, target⟩
    | _ => none

/-- The fields of a class interface. -/
def ClassInterface.fields :
    List (RecordField (Option String × Option (List Dependency) × Option ClassType)) :=
  [fieldOf "namespace" (fun state => state.1.isSome) text
      (fun value state => (some value, state.2)),
    fieldOf "deps" (fun state => state.2.1.isSome) (list Dependency.reader)
      (fun value state => (state.1, some value, state.2.2)),
    fieldOf "type" (fun state => state.2.2.isSome) ClassType.reader
      (fun value state => (state.1, state.2.1, some value))]

/-- The reader of a class interface. -/
def ClassInterface.reader : Reader ClassInterface :=
  record ClassInterface.fields (none, none, none) fun
    | (some space, some dependencies, some classType) => some ⟨space, dependencies, classType⟩
    | _ => none

/-- Reads the text of a schema file. -/
def ClassInterface.ofSchemaText (schema : String) : Except ReadFault ClassInterface :=
  readAll ClassInterface.reader schema.toList

end FromText

end HeaderBindings
