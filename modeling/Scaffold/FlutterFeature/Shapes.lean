import Scaffold.Artifact
import Scaffold.Blueprint
import Scaffold.FlutterFeature.Source
import Scaffold.Vocabulary

/-!
# The data of a Flutter feature

The model file, which lists the fields of the entity in its three classes: the entity, the creation
request and the partial update request.
-/

set_option autoImplicit false

namespace Scaffold.FlutterFeature

open Code

/-- The directory of the feature. -/
def featureDir (e : Entity) : String := "lib/features/" ++ e.module

/-! ## Names -/

def createRequest (entity : String) : String := "Create" ++ entity ++ "Request"
def updateRequest (entity : String) : String := "Update" ++ entity ++ "Request"

/-- The identifier of a field. -/
def memberName (f : Field) : String := Naming.camel f.name

/-- The type of a field that may be absent. -/
def nullableType (f : Field) : String := Stack.flutter.nullable f.type

/-! ## Immutable classes -/

/-- A field as a constructor parameter, renamed in JSON when its identifier differs. -/
def fieldParam (f : Field) : Param where
  name := memberName f
  type := if f.required then f.type else nullableType f
  required := f.required
  jsonKey? := if memberName f = f.name then none else some f.name

def entityParams (fields : List Field) : List Param :=
  [⟨"id", "String", true, none⟩] ++ fields.map fieldParam ++
  [⟨"createdAt", "DateTime", true, some "created_at"⟩,
   ⟨"updatedAt", "DateTime", true, some "updated_at"⟩]

/-! ## The update request -/

/-- The JSON entry of a field that is set. -/
def entryLine (f : Field) : String :=
  let encoder := Stack.flutter.typeTable.lookup f.type
  "if (" ++ memberName f ++ " != null) '" ++ f.name ++ "': " ++ memberName f ++
    (if encoder.isEmpty then "" else "!" ++ encoder) ++ ","

/-- A class whose JSON holds only the keys that were set. -/
def updateClass (name : String) (fields : List Field) : Program :=
  classDecl name (
    fields.map (fun f => .line ("final " ++ nullableType f ++ " " ++ memberName f ++ ";")) ++
    Program.when (!fields.isEmpty) [.blank] ++
    [.line ("const " ++ name ++ "(" ++
       (if fields.isEmpty then "" else
         braced (String.intercalate ", " (fields.map fun f => "this." ++ memberName f))) ++ ");"),
     .blank,
     .braces "Map<String, dynamic> toJson() => " (fields.map fun f => .line (entryLine f)) ";"])

/-! ## The file -/

/-- The name of the model file, without its extension. -/
def modelStem (e : Entity) : String := e.module ++ "_model"

def modelFile (b : Blueprint) : SourceFile where
  imports := ["package:freezed_annotation/freezed_annotation.dart"]
  parts := [modelStem b.entity ++ ".freezed.dart", modelStem b.entity ++ ".g.dart"]
  decls :=
    let entity := b.entity.pascal
    [freezedClass entity (entityParams b.fields),
     freezedClass (createRequest entity) (b.fields.map fieldParam),
     updateClass (updateRequest entity) b.fields]

def model (b : Blueprint) : Artifact where
  path := featureDir b.entity ++ "/data/models/" ++ modelStem b.entity ++ ".dart"
  kind := .model
  content := (modelFile b).render

end Scaffold.FlutterFeature
