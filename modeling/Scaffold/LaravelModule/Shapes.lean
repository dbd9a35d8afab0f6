import Scaffold.Artifact
import Scaffold.Blueprint
import Scaffold.LaravelModule.Source
import Scaffold.Vocabulary

/-!
# The data of a Laravel module

The files that list the fields of the entity: the Eloquent model, the migration that creates its
table, the validation rules of a request and the response.
-/

set_option autoImplicit false

namespace Scaffold.LaravelModule

open Code

/-! ## The model -/

/-- The cast of a field, if its type has one. -/
def castItem? (f : Field) : Option String :=
  (TypeTable.modelCasts.find? f.type).map fun cast => literal f.name ++ " => " ++ literal cast

def modelFile (b : Blueprint) : SourceFile where
  phpNamespace? := some "App\\Models"
  uses := [
    "Illuminate\\Database\\Eloquent\\Factories\\HasFactory",
    "Illuminate\\Database\\Eloquent\\Model",
    "Illuminate\\Database\\Eloquent\\SoftDeletes"]
  header := "class " ++ b.entity.pascal ++ " extends Model"
  body := [
    .line "use HasFactory, SoftDeletes;",
    .blank,
    .line ("protected $fillable = [" ++ commaList (b.fields.map fun f => literal f.name) ++ "];"),
    .blank,
    .line ("protected $casts = [" ++ commaList (b.fields.filterMap castItem?) ++ "];")]

def model (b : Blueprint) : Artifact where
  path := "app/Models/" ++ b.entity.pascal ++ ".php"
  kind := .model
  content := (modelFile b).render

/-! ## The migration -/

/-- The column of a field. -/
def columnLine (f : Field) : String :=
  "$table->" ++ Stack.laravel.typeTable.lookup f.type ++ "(" ++ literal f.name ++ ")" ++
    (if f.required then "" else "->nullable()") ++ ";"

def migrationFile (b : Blueprint) : SourceFile where
  phpNamespace? := none
  uses := [
    "Illuminate\\Database\\Migrations\\Migration",
    "Illuminate\\Database\\Schema\\Blueprint",
    "Illuminate\\Support\\Facades\\Schema"]
  header := "return new class extends Migration"
  tail := ";"
  body :=
    method "up(): void" [
      .braces ("Schema::create(" ++ literal b.entity.modulePlural ++
          ", function (Blueprint $table) ")
        ([.line "$table->uuid('id')->primary();"] ++
         b.fields.map (fun f => .line (columnLine f)) ++
         [.line "$table->timestamps();", .line "$table->softDeletes();"])
        ");"] ++
    [.blank] ++
    method "down(): void"
      [.line ("Schema::dropIfExists(" ++ literal b.entity.modulePlural ++ ");")]

/-- The file name has no time stamp, so that a generation can be repeated. -/
def migration (b : Blueprint) : Artifact where
  path := "database/migrations/create_" ++ b.entity.modulePlural ++ "_table.php"
  kind := .migration
  content := (migrationFile b).render

/-! ## The request -/

/-- The validation rules of a field. -/
def ruleLine (f : Field) : String :=
  literal f.name ++ " => [" ++ (if f.required then "$required" else "'nullable'") ++ ", " ++
    literal f.type ++ "],"

/-- A required field is only enforced on creation; an update may hold any part of the fields. -/
def requestFile (b : Blueprint) : SourceFile where
  phpNamespace? := some "App\\Http\\Requests"
  uses := ["Illuminate\\Foundation\\Http\\FormRequest"]
  header := "class " ++ b.entity.pascal ++ "Request extends FormRequest"
  body :=
    method "authorize(): bool" [.line "return true;"] ++
    [.blank] ++
    method "rules(): array" (
      Program.when (b.fields.any (·.required))
        [.line "$required = $this->isMethod('POST') ? 'required' : 'sometimes';", .blank] ++
      [.block "return [" (b.fields.map fun f => .line (ruleLine f)) "];"])

def request (b : Blueprint) : Artifact where
  path := "app/Http/Requests/" ++ b.entity.pascal ++ "Request.php"
  kind := .request
  content := (requestFile b).render

/-! ## The response -/

def resourceLine (f : Field) : String :=
  literal f.name ++ " => $this->" ++ f.name ++ ","

def resourceFile (b : Blueprint) : SourceFile where
  phpNamespace? := some "App\\Http\\Resources"
  uses := ["Illuminate\\Http\\Request", "Illuminate\\Http\\Resources\\Json\\JsonResource"]
  header := "class " ++ b.entity.pascal ++ "Resource extends JsonResource"
  body := method "toArray(Request $request): array" [
    .block "return ["
      ([.line "'id' => $this->id,"] ++
       b.fields.map (fun f => .line (resourceLine f)) ++
       [.line "'created_at' => $this->created_at?->toISOString(),",
        .line "'updated_at' => $this->updated_at?->toISOString(),"])
      "];"]

def resource (b : Blueprint) : Artifact where
  path := "app/Http/Resources/" ++ b.entity.pascal ++ "Resource.php"
  kind := .resource
  content := (resourceFile b).render

end Scaffold.LaravelModule
