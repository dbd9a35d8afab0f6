import Scaffold.Artifact
import Scaffold.Blueprint
import Scaffold.ReactFeature.Source
import Scaffold.Vocabulary

/-!
# The data of a React feature

The files that list the fields of the entity: the interfaces of the feature and the form that
creates an entity.
-/

set_option autoImplicit false

namespace Scaffold.ReactFeature

open Code

/-- The directory of the feature. -/
def featureDir (e : Entity) : String := "src/features/" ++ e.module

/-! ## Names -/

def createRequest (entity : String) : String := "Create" ++ entity ++ "Request"
def updateRequest (entity : String) : String := "Update" ++ entity ++ "Request"
def listParams (entity : String) : String := entity ++ "ListParams"
def listResponse (entity : String) : String := entity ++ "ListResponse"
def useCreate (entity : String) : String := "useCreate" ++ entity

/-! ## Types -/

/-- A field as a member, optional when the field is. -/
def fieldMember (f : Field) : Member := ⟨f.name, f.type, !f.required⟩

/-- A field as a member of an update, where all are optional. -/
def updateMember (f : Field) : Member := ⟨f.name, f.type, true⟩

def entityMembers (fields : List Field) : List Member :=
  [⟨"id", "string", false⟩] ++ fields.map fieldMember ++
  [⟨"createdAt", "string", false⟩, ⟨"updatedAt", "string", false⟩]

def typesFile (b : Blueprint) : SourceFile where
  decls :=
    let entity := b.entity.pascal
    [.interface entity (entityMembers b.fields),
     .interface (createRequest entity) (b.fields.map fieldMember),
     .interface (updateRequest entity) (b.fields.map updateMember),
     .interface (listParams entity)
       [⟨"page", "number", true⟩, ⟨"perPage", "number", true⟩, ⟨"search", "string", true⟩],
     .interface (listResponse entity)
       [⟨"items", entity ++ "[]", false⟩, ⟨"page", "number", false⟩, ⟨"perPage", "number", false⟩,
        ⟨"total", "number", false⟩, ⟨"totalPages", "number", false⟩]]

def types (b : Blueprint) : Artifact where
  path := featureDir b.entity ++ "/types.ts"
  kind := .dto
  content := (typesFile b).render

/-! ## The form -/

/-- The input of a field. -/
def inputElement (f : Field) : Program :=
  [.line "<input",
   .indented (
     [.line ("name=" ++ quoted f.name),
      .line ("type=" ++ quoted (Stack.react.typeTable.lookup f.type)),
      .line ("placeholder=" ++ quoted (Naming.pascal f.name))] ++
     Program.when f.required [.line "required"]),
   .line "/>"]

/-- Sends the values of the form as a creation request. -/
def handleSubmit (entity : String) : Op :=
  .braces "const handleSubmit = (e: React.FormEvent<HTMLFormElement>) => " [
    .line "e.preventDefault();",
    .line "const formData = new FormData(e.currentTarget);",
    .line ("const data = Object.fromEntries(formData) as unknown as " ++ createRequest entity ++
      ";"),
    .line "createMutation.mutate(data);"] ";"

def submitButton : Op :=
  element "button"
    [.line (braced "createMutation.isPending ? 'Creating...' : 'Create'")]
    (" type=\"submit\" disabled=" ++ braced "createMutation.isPending")

def formFile (b : Blueprint) : SourceFile where
  imports :=
    [⟨[useCreate b.entity.pascal], "../hooks", false, false⟩,
     ⟨[createRequest b.entity.pascal], "../types", true, false⟩]
  decls :=
    let entity := b.entity.pascal
    [.function (entity ++ "Form") "" [
      .line ("const createMutation = " ++ useCreate entity ++ "();"),
      .blank,
      handleSubmit entity,
      .blank,
      returned (element "form"
        (Program.each b.fields inputElement ++ [submitButton])
        (" onSubmit=" ++ braced "handleSubmit"))]]

def form (b : Blueprint) : Artifact where
  path := featureDir b.entity ++ "/components/" ++ b.entity.pascal ++ "Form.tsx"
  kind := .view
  content := (formFile b).render

end Scaffold.ReactFeature
