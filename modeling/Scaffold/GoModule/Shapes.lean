import Scaffold.Artifact
import Scaffold.Blueprint
import Scaffold.GoModule.Source
import Scaffold.Pagination
import Scaffold.Text.Decimal
import Scaffold.Vocabulary

/-!
# The data types of a Go module

The database model and the request and response types, which list the fields of the entity, and the
converters between them. A member is named by the Pascal case of its field.
-/

set_option autoImplicit false

namespace Scaffold.GoModule

open Code Text

/-- The exported identifier of a field. -/
def memberName (f : Field) : String := Naming.pascal f.name

/-- The directory of every file but the model. -/
def moduleDir (e : Entity) : String := "internal/modules/" ++ e.module

/-- The import path of the database package. -/
def databasePath (project : String) : String := project ++ "/pkg/database"

/-- The import path of a package of the module. -/
def packagePath (b : Blueprint) (package : String) : String :=
  b.project ++ "/" ++ moduleDir b.entity ++ "/" ++ package

/-! ## Names of types and converters -/

def createRequest (entity : String) : String := "Create" ++ entity ++ "Request"
def updateRequest (entity : String) : String := "Update" ++ entity ++ "Request"
def listRequest (entity : String) : String := "List" ++ entity ++ "Request"
def response (entity : String) : String := entity ++ "Response"
def listResponse (entity : String) : String := entity ++ "ListResponse"
def toResponse (entity : String) : String := "To" ++ entity ++ "Response"
def toListResponse (entity : String) : String := "To" ++ entity ++ "ListResponse"

/-! ## Members -/

/-- The column of a field in the database model. -/
def modelMember (f : Field) : Member where
  name := memberName f
  type := f.responseType .go
  tag := "gorm:" ++ quoted ("type:" ++ Stack.go.typeTable.lookup f.type) ++ " " ++ jsonTag f.name

def modelMembers (fields : List Field) : List Member :=
  [⟨"ID", "string", "gorm:\"type:char(36);primaryKey\" " ++ jsonTag "id", 10, 15⟩] ++
  fields.map modelMember ++
  [⟨"CreatedAt", "time.Time", jsonTag "created_at", 10, 15⟩,
   ⟨"UpdatedAt", "time.Time", jsonTag "updated_at", 10, 15⟩,
   ⟨"DeletedAt", "gorm.DeletedAt", "gorm:\"index\" " ++ jsonTag "-", 10, 15⟩]

def createMember (f : Field) : Member where
  name := memberName f
  type := f.type
  tag := jsonTag f.name ++ " binding:" ++ quoted (if f.required then "required" else "omitempty")

/-- Every type is a pointer, which tells an absent key from a zero value. -/
def updateMember (f : Field) : Member where
  name := memberName f
  type := "*" ++ .ofList (f.type.toList.dropWhile (· = '*'))
  tag := jsonTag f.name

def responseMember (f : Field) : Member where
  name := memberName f
  type := f.responseType .go
  tag := jsonTag f.name

def responseMembers (fields : List Field) : List Member :=
  [⟨"ID", "string", jsonTag "id", 10, 0⟩] ++
  fields.map responseMember ++
  [⟨"CreatedAt", "string", jsonTag "created_at", 10, 0⟩]

def listRequestMembers (p : Pagination) : List Member :=
  [⟨"Page", "int", "form:\"page\" binding:\"omitempty,min=1\"", 8, 7⟩,
   ⟨"PerPage", "int", "form:\"per_page\" binding:\"omitempty,min=1,max=" ++
      intDigits p.maxPerPage.toInt ++ "\"", 8, 7⟩,
   ⟨"Search", "string", "form:\"search\"", 8, 7⟩]

def listResponseMembers (entity : String) : List Member :=
  [⟨"Items", "[]*" ++ response entity, jsonTag "items", 11, 0⟩,
   ⟨"Page", "int", jsonTag "page", 11, 0⟩,
   ⟨"PerPage", "int", jsonTag "per_page", 11, 0⟩,
   ⟨"Total", "int64", jsonTag "total", 11, 0⟩,
   ⟨"TotalPages", "int", jsonTag "total_pages", 11, 0⟩]

/-! ## The database model -/

def modelFile (b : Blueprint) : SourceFile where
  package := "database"
  imports := .grouped [["time"], ["github.com/google/uuid", "gorm.io/gorm"]]
  decls :=
    let entity := b.entity.pascal
    [.struct entity (modelMembers b.fields),
     .method "e" entity "BeforeCreate" "(tx *gorm.DB) error" [
       ifThen "e.ID == \"\"" [.line "e.ID = uuid.New().String()"],
       .line "return nil"]]

def model (b : Blueprint) : Artifact where
  path := "pkg/database/" ++ b.entity.module ++ ".go"
  kind := .model
  content := (modelFile b).render

/-! ## Requests and responses -/

/-- The layout of a creation time in a response. -/
def timestampLayout : String := "2006-01-02T15:04:05Z"

/-- Copies one entity into a response. -/
def toResponseDecl (entity : String) (fields : List Field) : Decl :=
  .func (toResponse entity) ("(entity *database." ++ entity ++ ") *" ++ response entity) [
    .braces ("return &" ++ response entity) (
      [.line "ID:        entity.ID,"] ++
      fields.map (fun f => .line (memberName f ++ ": entity." ++ memberName f ++ ",")) ++
      [.line ("CreatedAt: entity.CreatedAt.Format(" ++ quoted timestampLayout ++ "),")])]

/-- Copies one page of entities; the number of pages counts a partial last one. -/
def toListResponseDecl (entity : String) : Decl :=
  .func (toListResponse entity)
    ("(entities []*database." ++ entity ++ ", page, perPage int, total int64) *" ++
      listResponse entity) [
    .line ("items := make([]*" ++ response entity ++ ", len(entities))"),
    .braces "for i, e := range entities " [.line ("items[i] = " ++ toResponse entity ++ "(e)")],
    .line "totalPages := int(total) / perPage",
    ifThen "int(total)%perPage > 0" [.line "totalPages++"],
    .line ("return &" ++ listResponse entity ++ braced
      "Items: items, Page: page, PerPage: perPage, Total: total, TotalPages: totalPages")]

def dtoFile (p : Pagination) (b : Blueprint) : SourceFile where
  package := "dtos"
  imports := .single (databasePath b.project)
  decls :=
    let entity := b.entity.pascal
    [.struct (createRequest entity) (b.fields.map createMember),
     .struct (updateRequest entity) (b.fields.map updateMember),
     .struct (listRequest entity) (listRequestMembers p),
     .struct (response entity) (responseMembers b.fields),
     .struct (listResponse entity) (listResponseMembers entity),
     toResponseDecl entity b.fields,
     toListResponseDecl entity]

def dto (p : Pagination) (b : Blueprint) : Artifact where
  path := moduleDir b.entity ++ "/dtos/" ++ b.entity.module ++ "_dto.go"
  kind := .dto
  content := (dtoFile p b).render

end Scaffold.GoModule
