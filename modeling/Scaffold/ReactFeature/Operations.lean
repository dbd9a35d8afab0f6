import Scaffold.ReactFeature.Shapes

/-!
# The behaviour of a React feature

The typed client of the HTTP interface, the query and mutation hooks over it, the list component and
the file that exports the whole feature.
-/

set_option autoImplicit false

namespace Scaffold.ReactFeature

open Code

/-! ## Names -/

def useOne (entity : String) : String := "use" ++ entity
def useList (entity : String) : String := "use" ++ entity ++ "List"
def useUpdate (entity : String) : String := "useUpdate" ++ entity
def useDelete (entity : String) : String := "useDelete" ++ entity

/-- The object that holds the calls of the HTTP interface. -/
def apiObject (e : Entity) : String := e.camel ++ "Api"

/-! ## The client -/

/-- The identifier inside a template literal. -/
def idPlaceholder : String := "$" ++ braced "id"

/-- The path of one item as a template literal. -/
def itemUrl : String := "`$" ++ braced "BASE_URL" ++ "/" ++ idPlaceholder ++ "`"

/-- The calls of the HTTP interface. -/
def apiMethods (entity : String) : List Method :=
  [⟨"list", "params?: " ++ listParams entity,
    "apiClient.get<" ++ listResponse entity ++ ">(BASE_URL, " ++ braced " params " ++ ")"⟩,
   ⟨"get", "id: string", "apiClient.get<" ++ entity ++ ">(" ++ itemUrl ++ ")"⟩,
   ⟨"create", "data: " ++ createRequest entity,
    "apiClient.post<" ++ entity ++ ">(BASE_URL, data)"⟩,
   ⟨"update", "id: string, data: " ++ updateRequest entity,
    "apiClient.put<" ++ entity ++ ">(" ++ itemUrl ++ ", data)"⟩,
   ⟨"delete", "id: string", "apiClient.delete(" ++ itemUrl ++ ")"⟩]

def apiFile (b : Blueprint) : SourceFile where
  imports :=
    let entity := b.entity.pascal
    [⟨["apiClient"], "@/lib/api", false, false⟩,
     ⟨[entity, createRequest entity, updateRequest entity, listParams entity, listResponse entity],
      "./types", true, true⟩]
  decls :=
    [.constant "BASE_URL" b.entity.collectionPath,
     .object (apiObject b.entity) (apiMethods b.entity.pascal)]

def api (b : Blueprint) : Artifact where
  path := featureDir b.entity ++ "/api.ts"
  kind := .apiClient
  content := (apiFile b).render

/-! ## The hooks -/

/-- A hook that reads through a query. -/
def queryHook (name params : String) (settings : List String) : Decl :=
  .function name params [.block "return useQuery(\x7b" (settings.map .line) "\x7d);"]

/-- A hook that writes and then reads the lists again; a long function goes on in a second line. -/
def mutationHook (name : String) (mutationFn : String) (continued : List String := []) : Decl :=
  .function name "" [
    .line "const queryClient = useQueryClient();",
    .block "return useMutation(\x7b"
      [.line mutationFn,
       .indented (continued.map .line),
       .line ("onSuccess: () => queryClient.invalidateQueries(" ++
         braced " queryKey: [QUERY_KEY] " ++ "),")]
      "\x7d);"]

def hooksFile (b : Blueprint) : SourceFile where
  imports :=
    let entity := b.entity.pascal
    [⟨["useQuery", "useMutation", "useQueryClient"], "@tanstack/react-query", false, false⟩,
     ⟨[apiObject b.entity], "./api", false, false⟩,
     ⟨[createRequest entity, updateRequest entity, listParams entity], "./types", true, true⟩]
  decls :=
    let entity := b.entity.pascal
    let call (method args : String) := apiObject b.entity ++ "." ++ method ++ "(" ++ args ++ "),"
    [.constant "QUERY_KEY" b.entity.modulePlural,
     queryHook (useList entity) ("params?: " ++ listParams entity)
       ["queryKey: [QUERY_KEY, params],", "queryFn: () => " ++ call "list" "params"],
     queryHook (useOne entity) "id: string"
       ["queryKey: [QUERY_KEY, id],", "queryFn: () => " ++ call "get" "id", "enabled: !!id,"],
     mutationHook (useCreate entity)
       ("mutationFn: (data: " ++ createRequest entity ++ ") => " ++ call "create" "data"),
     mutationHook (useUpdate entity)
       ("mutationFn: (" ++ braced " id, data " ++ ": " ++
         braced (" id: string; data: " ++ updateRequest entity ++ " ") ++ ") =>")
       [call "update" "id, data"],
     mutationHook (useDelete entity) ("mutationFn: (id: string) => " ++ call "delete" "id")]

def hooks (b : Blueprint) : Artifact where
  path := featureDir b.entity ++ "/hooks.ts"
  kind := .state
  content := (hooksFile b).render

/-! ## The list -/

/-- Asks before an item is deleted. -/
def handleDelete : Op :=
  .braces "const handleDelete = (id: string) => "
    [.braces "if (confirm('Are you sure?')) " [.line "deleteMutation.mutate(id);"]] ";"

/-- One item of the list. -/
def itemElement : Op :=
  element "li"
    [.line (braced "JSON.stringify(item)"),
     .line ("<button onClick=" ++ braced "() => handleDelete(item.id)" ++ ">Delete</button>")]
    (" key=" ++ braced "item.id")

def listFile (b : Blueprint) : SourceFile where
  imports :=
    [⟨[useList b.entity.pascal, useDelete b.entity.pascal], "../hooks", false, false⟩,
     ⟨[b.entity.pascal], "../types", true, false⟩]
  decls :=
    let entity := b.entity.pascal
    [.function (entity ++ "List") "" [
      .line ("const " ++ braced " data, isLoading, error " ++ " = " ++ useList entity ++ "();"),
      .line ("const deleteMutation = " ++ useDelete entity ++ "();"),
      .blank,
      .line "if (isLoading) return <div>Loading...</div>;",
      .line ("if (error) return <div>Error: " ++ braced "error.message" ++ "</div>;"),
      .blank,
      handleDelete,
      .blank,
      returned (element "div" [
        .line ("<h1>" ++ entity ++ " List</h1>"),
        element "ul" [
          .block ("\x7bdata?.items.map((item: " ++ entity ++ ") => (") [itemElement] "))\x7d"]])]]

def list (b : Blueprint) : Artifact where
  path := featureDir b.entity ++ "/components/" ++ b.entity.pascal ++ "List.tsx"
  kind := .view
  content := (listFile b).render

/-! ## The index -/

/-- The files that the index exports. -/
def indexSources (entity : String) : List String :=
  ["./types", "./api", "./hooks", "./components/" ++ entity ++ "List",
   "./components/" ++ entity ++ "Form"]

def index (b : Blueprint) : Artifact where
  path := featureDir b.entity ++ "/index.ts"
  kind := .index
  content := (barrel (indexSources b.entity.pascal)).render .typescript

end Scaffold.ReactFeature
