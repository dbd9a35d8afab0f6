import Scaffold.LaravelModule.Shapes
import Scaffold.Pagination
import Scaffold.SearchColumn
import Scaffold.Text.Decimal

/-!
# The behaviour of a Laravel module

One use case class for each write operation, and the REST controller that delegates to them.
-/

set_option autoImplicit false

namespace Scaffold.LaravelModule

open Code Text

/-! ## Use cases -/

/-- The write operations, each with a class of its own. -/
inductive Action where
  | create
  | update
  | delete
  deriving DecidableEq, Repr

namespace Action

def all : List Action := [create, update, delete]

def name : Action → String
  | create => "Create"
  | update => "Update"
  | delete => "Delete"

/-- The class of the operation's use case. -/
def className (a : Action) (entity : String) : String := a.name ++ entity ++ "UseCase"

/-- The method that carries the operation out. -/
def execute (a : Action) (entity : String) : Program :=
  match a with
  | create =>
    method ("execute(array $data): " ++ entity) [.line ("return " ++ entity ++ "::create($data);")]
  | update =>
    method ("execute(" ++ entity ++ " $item, array $data): " ++ entity)
      [.line "$item->update($data);", .line "return $item->fresh();"]
  | delete =>
    method ("execute(" ++ entity ++ " $item): bool") [.line "return $item->delete();"]

end Action

def useCaseNamespace (entity : String) : String := "App\\UseCases\\" ++ entity

def useCaseFile (a : Action) (b : Blueprint) : SourceFile where
  phpNamespace? := some (useCaseNamespace b.entity.pascal)
  uses := ["App\\Models\\" ++ b.entity.pascal]
  header := "class " ++ a.className b.entity.pascal
  body := a.execute b.entity.pascal

def useCase (a : Action) (b : Blueprint) : Artifact where
  path := "app/UseCases/" ++ b.entity.pascal ++ "/" ++ a.className b.entity.pascal ++ ".php"
  kind := .useCase
  content := (useCaseFile a b).render

/-! ## The controller -/

/-- One page of the entities, the newest first, narrowed by the search. -/
def indexMethod (p : Pagination) (b : Blueprint) : Program :=
  method "index(Request $request): AnonymousResourceCollection" [
    .line ("$query = " ++ b.entity.pascal ++ "::query();"),
    .blank,
    .braces "if ($request->has('search')) "
      [.line ("$query->where('" ++ searchColumn b.fields Stack.laravel.stringType ++
        "', 'like', '%' . $request->search . '%');")],
    .blank,
    .line "$items = $query->orderBy('created_at', 'desc')",
    .indented [.line ("->paginate($request->get('per_page', " ++
      intDigits p.defaultPerPage.toInt ++ "));")],
    .blank,
    .line ("return " ++ b.entity.pascal ++ "Resource::collection($items);")]

def showMethod (entity var : String) : Program :=
  method ("show(" ++ entity ++ " " ++ var ++ "): " ++ entity ++ "Resource")
    [.line ("return new " ++ entity ++ "Resource(" ++ var ++ ");")]

def storeMethod (entity : String) : Program :=
  method ("store(" ++ entity ++ "Request $request, " ++ Action.create.className entity ++
      " $useCase): " ++ entity ++ "Resource")
    [.line "$item = $useCase->execute($request->validated());",
     .line ("return new " ++ entity ++ "Resource($item);")]

def updateMethod (entity var : String) : Program :=
  method ("update(" ++ entity ++ "Request $request, " ++ entity ++ " " ++ var ++ ", " ++
      Action.update.className entity ++ " $useCase): " ++ entity ++ "Resource")
    [.line ("$item = $useCase->execute(" ++ var ++ ", $request->validated());"),
     .line ("return new " ++ entity ++ "Resource($item);")]

def destroyMethod (entity var : String) : Program :=
  method ("destroy(" ++ entity ++ " " ++ var ++ ", " ++ Action.delete.className entity ++
      " $useCase): \\Illuminate\\Http\\JsonResponse")
    [.line ("$useCase->execute(" ++ var ++ ");"),
     .line "return response()->json(['deleted' => true]);"]

def controllerFile (p : Pagination) (b : Blueprint) : SourceFile where
  phpNamespace? := some "App\\Http\\Controllers"
  uses :=
    let entity := b.entity.pascal
    ["App\\Http\\Requests\\" ++ entity ++ "Request",
     "App\\Http\\Resources\\" ++ entity ++ "Resource",
     "App\\Models\\" ++ entity] ++
    Action.all.map (fun a => useCaseNamespace entity ++ "\\" ++ a.className entity) ++
    ["Illuminate\\Http\\Request",
     "Illuminate\\Http\\Resources\\Json\\AnonymousResourceCollection"]
  header := "class " ++ b.entity.pascal ++ "Controller extends Controller"
  body :=
    let entity := b.entity.pascal
    let var := "$" ++ b.entity.camel
    Program.separated [
      indexMethod p b, showMethod entity var, storeMethod entity, updateMethod entity var,
      destroyMethod entity var]

def controller (p : Pagination) (b : Blueprint) : Artifact where
  path := "app/Http/Controllers/" ++ b.entity.pascal ++ "Controller.php"
  kind := .controller
  content := (controllerFile p b).render

end Scaffold.LaravelModule
