import Scaffold.GoModule.Shapes
import Scaffold.SearchColumn

/-!
# The behaviour of a Go module

The use case that works on the database, the HTTP controller in front of it, the wiring that mounts
the routes and the optional validator chain.
-/

set_option autoImplicit false

namespace Scaffold.GoModule

open Code Text

/-! ## Names -/

def usecase (entity : String) : String := entity ++ "Usecase"
def newUsecase (entity : String) : String := "New" ++ usecase entity
def controller (entity : String) : String := entity ++ "Controller"
def newController (entity : String) : String := "New" ++ controller entity

/-! ## Statements -/

/-- Replaces a page or a page size below 1 by its default. -/
def clampPages (p : Pagination) : Program :=
  [.line "page, perPage := req.Page, req.PerPage",
   ifThen "page < 1" [.line ("page = " ++ intDigits p.defaultPage.toInt)],
   ifThen "perPage < 1" [.line ("perPage = " ++ intDigits p.defaultPerPage.toInt)]]

/-- Evaluates a call and passes its error on, after `values`. -/
def returnErr (call : String) (values : String := "nil, ") : Op :=
  ifErr call [.line ("return " ++ values ++ "err")]

/-- Loads the row with the requested identifier. -/
def loadById (entity : String) : Program :=
  [.line ("var entity database." ++ entity),
   returnErr "u.db.WithContext(ctx).First(&entity, \"id = ?\", id).Error"]

/-! ## The use case -/

/-- A method of the use case. -/
def usecaseMethod (entity name signature : String) (body : Program) : Decl :=
  .method "u" (usecase entity) name ("(ctx context.Context, " ++ signature) body

def createMethod (entity : String) (fields : List Field) : Decl :=
  usecaseMethod entity "Create"
    ("req *dtos." ++ createRequest entity ++ ") (*database." ++ entity ++ ", error)") [
    .braces ("entity := &database." ++ entity)
      (fields.map fun f => .line (memberName f ++ ": req." ++ memberName f ++ ",")),
    returnErr "u.db.WithContext(ctx).Create(entity).Error",
    .line "return entity, nil"]

def getByIdMethod (entity : String) : Decl :=
  usecaseMethod entity "GetByID" ("id string) (*database." ++ entity ++ ", error)")
    (loadById entity ++ [.line "return &entity, nil"])

/-- Only the members that a request sets are updated. -/
def updateMethod (entity : String) (fields : List Field) : Decl :=
  usecaseMethod entity "Update"
    ("id string, req *dtos." ++ updateRequest entity ++ ") (*database." ++ entity ++ ", error)") (
    loadById entity ++
    [.line ("updates := map[string]interface" ++ braced "" ++ braced "")] ++
    fields.map (fun f =>
      ifThen ("req." ++ memberName f ++ " != nil")
        [.line ("updates[" ++ quoted f.name ++ "] = *req." ++ memberName f)]) ++
    [ifThen "len(updates) > 0"
       [returnErr "u.db.WithContext(ctx).Model(&entity).Updates(updates).Error"],
     .line "return &entity, nil"])

def deleteMethod (entity : String) : Decl :=
  usecaseMethod entity "Delete" "id string) error" [
    .line ("return u.db.WithContext(ctx).Delete(&database." ++ entity ++ braced "" ++
      ", \"id = ?\", id).Error")]

def listMethod (p : Pagination) (entity : String) (fields : List Field) : Decl :=
  usecaseMethod entity "List"
    ("req *dtos." ++ listRequest entity ++ ") ([]*database." ++ entity ++ ", int64, error)") (
    [.line ("var entities []*database." ++ entity),
     .line "var total int64",
     .line ("query := u.db.WithContext(ctx).Model(&database." ++ entity ++ braced "" ++ ")"),
     ifThen "req.Search != \"\""
       [.line ("query = query.Where(\"" ++ searchColumn fields Stack.go.stringType ++
          " LIKE ?\", \"%\"+req.Search+\"%\")")],
     returnErr "query.Count(&total).Error" "nil, 0, "] ++
    clampPages p ++
    [.line "offset := (page - 1) * perPage",
     returnErr
       "query.Offset(offset).Limit(perPage).Order(\"created_at DESC\").Find(&entities).Error"
       "nil, 0, ",
     .line "return entities, total, nil"])

def usecaseFile (p : Pagination) (b : Blueprint) : SourceFile where
  package := "usecases"
  imports := .grouped
    [["context"], ["gorm.io/gorm"], [packagePath b "dtos", databasePath b.project]]
  decls :=
    let entity := b.entity.pascal
    [.shape (usecase entity) "struct" ["db *gorm.DB"],
     .func (newUsecase entity) ("(db *gorm.DB) *" ++ usecase entity)
       [.line ("return &" ++ usecase entity ++ braced "db: db")],
     createMethod entity b.fields,
     getByIdMethod entity,
     updateMethod entity b.fields,
     deleteMethod entity,
     listMethod p entity b.fields]

def usecases (p : Pagination) (b : Blueprint) : Artifact where
  path := moduleDir b.entity ++ "/usecases/" ++ b.entity.module ++ "_usecase.go"
  kind := .useCase
  content := (usecaseFile p b).render

/-! ## The controller -/

/-- Answers with an error and leaves the handler. -/
def fail (status message : String) : Program :=
  [.line ("response.Error(ctx, http.Status" ++ status ++ ", " ++ message ++ ")"), .line "return"]

def internalError : Program := fail "InternalServerError" "err.Error()"

/-- Reads the request into a variable of type `request`. -/
def bindRequest (request binder : String) : Program :=
  [.line ("var req dtos." ++ request),
   ifErr ("ctx." ++ binder ++ "(&req)") (fail "BadRequest" "\"Invalid request: \"+err.Error()")]

/-- Calls the use case and leaves the handler if it fails. -/
def callUsecase (results call : String) (onErr : Program) : Program :=
  [.line (results ++ ", err := c.usecase." ++ call), ifThen "err != nil" onErr]

/-- Answers with one entity. -/
def answer (answerer entity : String) : Op :=
  .line ("response." ++ answerer ++ "(ctx, dtos." ++ toResponse entity ++ "(entity))")

def readId : Op := .line "id := ctx.Param(\"id\")"

/-- The handlers of the controller, with their bodies. -/
def handlers (p : Pagination) (entity : String) : List (String × Program) :=
  [("Create",
      bindRequest (createRequest entity) "ShouldBindJSON" ++
      callUsecase "entity" "Create(ctx, &req)" internalError ++
      [answer "Created" entity]),
   ("GetByID",
      [readId] ++
      callUsecase "entity" "GetByID(ctx, id)"
        (fail "NotFound" (quoted (entity ++ " not found"))) ++
      [answer "Success" entity]),
   ("Update",
      [readId] ++
      bindRequest (updateRequest entity) "ShouldBindJSON" ++
      callUsecase "entity" "Update(ctx, id, &req)" internalError ++
      [answer "Success" entity]),
   ("Delete",
      [readId, ifErr "c.usecase.Delete(ctx, id)" internalError,
       .line ("response.Success(ctx, gin.H" ++ braced "\"deleted\": true" ++ ")")]),
   ("List",
      bindRequest (listRequest entity) "ShouldBindQuery" ++
      callUsecase "entities, total" "List(ctx, &req)" internalError ++
      clampPages p ++
      [.line ("response.Success(ctx, dtos." ++ toListResponse entity ++
        "(entities, page, perPage, total))")])]

def controllerFile (p : Pagination) (b : Blueprint) : SourceFile where
  package := "controllers"
  imports := .grouped
    [["net/http"], ["github.com/gin-gonic/gin"],
     [packagePath b "dtos", packagePath b "usecases", b.project ++ "/pkg/response"]]
  decls :=
    let entity := b.entity.pascal
    [.shape (controller entity) "struct" ["usecase *usecases." ++ usecase entity],
     .func (newController entity)
       ("(usecase *usecases." ++ usecase entity ++ ") *" ++ controller entity)
       [.line ("return &" ++ controller entity ++ braced "usecase: usecase")]] ++
    (handlers p entity).map fun (name, body) =>
      .method "c" (controller entity) name "(ctx *gin.Context)" body

def controllers (p : Pagination) (b : Blueprint) : Artifact where
  path := moduleDir b.entity ++ "/controllers/" ++ b.entity.module ++ "_controller.go"
  kind := .controller
  content := (controllerFile p b).render

/-! ## The wiring -/

/-- The identifier in a route of the router. -/
def idPlaceholder : String := ":id"

/-- A route of the group: the verb, the path below the group and the handler. -/
structure Route where
  verb : String
  path : String
  handler : String
  deriving DecidableEq, Repr

def Route.text (r : Route) : String :=
  "group." ++ r.verb ++ "(" ++ quoted r.path ++ ", controller." ++ r.handler ++ ")"

/-- The mounted routes. -/
def routes : List Route :=
  let item := "/" ++ idPlaceholder
  [⟨"POST", "", "Create"⟩, ⟨"GET", "", "List"⟩, ⟨"GET", item, "GetByID"⟩,
   ⟨"PUT", item, "Update"⟩, ⟨"DELETE", item, "Delete"⟩]

def wiringFile (b : Blueprint) : SourceFile where
  package := b.entity.module
  imports := .grouped
    [["github.com/gin-gonic/gin", "gorm.io/gorm"],
     [b.project ++ "/internal/middleware", packagePath b "controllers", packagePath b "usecases"]]
  decls :=
    let entity := b.entity.pascal
    [.func "Init" "(r *gin.Engine, db *gorm.DB, authMiddleware *middleware.AuthMiddleware)" [
      .line ("usecase := usecases." ++ newUsecase entity ++ "(db)"),
      .line ("controller := controllers." ++ newController entity ++ "(usecase)"),
      .blank,
      .line ("group := r.Group(" ++ quoted b.entity.collectionPath ++ ")"),
      .line "group.Use(authMiddleware.Authenticate())",
      .braces "" (routes.map fun r => .line r.text)]]

def wiring (b : Blueprint) : Artifact where
  path := moduleDir b.entity ++ "/init.go"
  kind := .wiring
  content := (wiringFile b).render

/-! ## The validator chain -/

/-- The signature of a validation. -/
def validateSignature : String :=
  "(ctx context.Context, data interface" ++ braced "" ++ ") error"

def validatorFile (b : Blueprint) : SourceFile where
  package := "validators"
  imports := .grouped [["context", "errors"], ["gorm.io/gorm"], [databasePath b.project]]
  decls :=
    [.shape "Validator" "interface" ["Validate" ++ validateSignature],
     .shape "ValidatorChain" "struct" ["validators []Validator"],
     .func "NewValidatorChain" "() *ValidatorChain"
       [.line ("return &ValidatorChain" ++ braced "validators: make([]Validator, 0)")],
     .method "c" "ValidatorChain" "Add" "(v Validator) *ValidatorChain"
       [.line "c.validators = append(c.validators, v)", .line "return c"],
     .method "c" "ValidatorChain" "Validate" validateSignature [
       .braces "for _, v := range c.validators " [returnErr "v.Validate(ctx, data)" ""],
       .line "return nil"],
     .shape "ExistsValidator" "struct" ["db *gorm.DB"],
     .func "NewExistsValidator" "(db *gorm.DB) *ExistsValidator"
       [.line ("return &ExistsValidator" ++ braced "db: db")],
     .method "v" "ExistsValidator" "Validate" validateSignature [
       .line "id := data.(string)",
       .line ("var entity database." ++ b.entity.pascal),
       ifErr "v.db.WithContext(ctx).First(&entity, \"id = ?\", id).Error"
         [.line ("return errors.New(" ++ quoted (b.entity.module ++ " not found") ++ ")")],
       .line "return nil"]]

def validator (b : Blueprint) : Artifact where
  path := moduleDir b.entity ++ "/validators/" ++ b.entity.module ++ "_validator.go"
  kind := .validator
  content := (validatorFile b).render

end Scaffold.GoModule
