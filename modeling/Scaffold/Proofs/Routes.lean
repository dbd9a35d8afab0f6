import Mathlib.Data.List.Basic
import Scaffold.Generator
import Scaffold.Proofs.SourceFiles
import Scaffold.Proofs.Styles

/-!
# One route in every stack

The path of a collection is a slash and the plural of the entity's kebab form
(`Entity.collectionPath_named`): the styles and the plural may be taken in either order, for the
plural neither reads nor writes a separator. `readBetween` reads a path out of the lines of a file,
and each stack that speaks HTTP writes this one (`GoModule.mounts`, `ReactFeature.calls`,
`FlutterFeature.requests`).
-/

set_option autoImplicit false

/-! ## The path -/

namespace Scaffold.Naming

open Text

theorem underscore_not_mem_kebab (name : String) : '_' ∉ (kebab name).toList := by
  rw [kebab, String.toList_ofList, kebabChars]
  exact not_mem_exchange (by decide) _

theorem isLower_of_mem_kebab {name : String} : ∀ c ∈ (kebab name).toList, IsLower c := by
  rw [kebab, String.toList_ofList, kebabChars]
  exact isLower_of_mem_exchange rfl fun _ => isLower_of_mem_lowerFrom

end Scaffold.Naming

namespace Scaffold

open Naming Text

namespace Entity

theorem collectionPath_eq (name : String) :
    (named name).collectionPath = "/" ++ kebab (pluralize (lower name)) := rfl

/-- The path of the collection is the plural of the entity's kebab form. -/
theorem collectionPath_named (name : String) :
    (named name).collectionPath = "/" ++ pluralize (named name).singular.kebab := by
  rw [collectionPath_eq, kebab_pluralize_lower, ← kebab_lower name]
  rfl

theorem underscore_not_mem_collectionPath (name : String) :
    '_' ∉ (named name).collectionPath.toList := by
  rw [collectionPath_eq, String.toList_append, List.mem_append, not_or]
  exact ⟨by decide, underscore_not_mem_kebab _⟩

theorem lower_collectionPath (name : String) :
    lower (named name).collectionPath = (named name).collectionPath := by
  have hslash : IsLower '/' := by decide +kernel
  have hpath : ∀ c ∈ (named name).collectionPath.toList, IsLower c := by
    rw [collectionPath_eq, String.toList_append, List.forall_mem_append]
    exact ⟨List.forall_mem_singleton.2 hslash, isLower_of_mem_kebab⟩
  rw [lower, lowerChars, lowerFrom_eq_self hpath, String.ofList_toList]

theorem collectionPath_lower (name : String) :
    (named (lower name)).collectionPath = (named name).collectionPath := by
  rw [named_lower]
  rfl

theorem collectionPath_alike {m n : String} (h : Alike n.toList m.toList) :
    (named m).collectionPath = (named n).collectionPath :=
  congrArg (fun plural : Ident => "/" ++ plural.kebab) (named_plural_eq h).symm

end Entity

end Scaffold

/-! ## Reading the path -/

namespace Scaffold.Code

/-- What stands between `opening` and `closing` in a line that begins and ends with them. -/
def between? (opening closing line : String) : Option String :=
  (line.toList.dropPrefix? opening.toList).bind fun rest =>
    (rest.reverse.dropPrefix? closing.toList.reverse).map fun s => .ofList s.reverse

theorem between?_eq_some {opening closing line s : String} :
    between? opening closing line = some s ↔ line = opening ++ s ++ closing := by
  simp only [between?, Option.bind_eq_some_iff, Option.map_eq_some_iff,
    List.dropPrefix?_eq_some_iff, beq_iff_eq]
  constructor
  · rintro ⟨rest, ⟨_, hline, rfl⟩, _, ⟨_, hrest, rfl⟩, rfl⟩
    rw [← String.toList_inj, hline, ← rest.reverse_reverse, hrest]
    simp
  · rintro rfl
    exact ⟨s.toList ++ closing.toList, ⟨_, by simp, rfl⟩, s.toList.reverse, ⟨_, by simp, rfl⟩,
      by simp⟩

/-- What the lines that begin with `opening` and end with `closing` hold between them. -/
def readBetween (opening closing : String) (lines : List String) : List String :=
  lines.flatMap fun line => (between? opening closing line).toList

theorem readBetween_nil (opening closing : String) : readBetween opening closing [] = [] := rfl

theorem readBetween_cons (opening closing line : String) (rest : List String) :
    readBetween opening closing (line :: rest) =
      (between? opening closing line).toList ++ readBetween opening closing rest := by
  simp [readBetween]

section
variable {opening closing line : String} {rest : List String}

theorem readBetween_of_ne (h : ∀ s, line ≠ opening ++ s ++ closing) :
    readBetween opening closing (line :: rest) = readBetween opening closing rest := by
  have hnone : between? opening closing line = none :=
    Option.eq_none_iff_forall_ne_some.2 fun s hs => h s (between?_eq_some.1 hs)
  rw [readBetween_cons, hnone, Option.toList_none, List.nil_append]

/-- A line that begins otherwise is passed over. -/
theorem readBetween_of_opening (h : ¬ opening.toList <+: line.toList) :
    readBetween opening closing (line :: rest) = readBetween opening closing rest := by
  refine readBetween_of_ne fun s hs => h ?_
  rw [hs, String.append_assoc, String.toList_append]
  exact List.prefix_append ..

/-- A line that ends otherwise is passed over. -/
theorem readBetween_of_closing (h : ¬ closing.toList <:+ line.toList) :
    readBetween opening closing (line :: rest) = readBetween opening closing rest := by
  refine readBetween_of_ne fun s hs => h ?_
  rw [hs, String.toList_append]
  exact List.suffix_append ..

/-- A text that only one line holds. -/
theorem readBetween_eq_singleton {s : String} (hline : line = opening ++ s ++ closing)
    (hrest : readBetween opening closing rest = []) :
    readBetween opening closing (line :: rest) = [s] := by
  rw [readBetween_cons, between?_eq_some.2 hline, hrest]
  rfl

end

/-! The lines of a file begin and end with literals, which say whether a line begins or ends with
another literal, whatever stands behind or before them. -/

theorem prefix_append_of_prefix {opening lead : List Char} (t : List Char)
    (h : lead.isPrefixOf opening = true) :
    opening <+: lead ++ t ↔ opening.drop lead.length <+: t := by
  obtain ⟨rest, rfl⟩ := List.isPrefixOf_iff_prefix.1 h
  rw [List.prefix_append_right_inj, List.drop_left]

theorem not_prefix_append {opening lead : List Char} (t : List Char)
    (hopening : opening.isPrefixOf lead = false) (hlead : lead.isPrefixOf opening = false) :
    ¬ opening <+: lead ++ t := by
  rw [← Bool.not_eq_true, List.isPrefixOf_iff_prefix] at hopening hlead
  exact fun h => (List.prefix_or_prefix_of_prefix h (List.prefix_append lead t)).elim
    hopening hlead

theorem not_suffix_append {closing t : List Char} (margin lead : List Char)
    (hclosing : closing.isSuffixOf t = false) (ht : t.isSuffixOf closing = false) :
    ¬ closing <:+ margin ++ (lead ++ t) := by
  rw [← Bool.not_eq_true, List.isSuffixOf_iff_suffix] at hclosing ht
  rw [← List.append_assoc]
  exact fun h => (List.suffix_or_suffix_of_suffix h (List.suffix_append _ t)).elim hclosing ht

end Scaffold.Code

namespace Scaffold.GoModule

open Code

/-- The wiring mounts its routes on a path. -/
structure Mounts (b : Blueprint) (path : String) : Prop where
  content : (wiring b).content = unlines (wiringFile b).lines
  group : readBetween "\tgroup := r.Group(\"" "\")" (wiringFile b).lines = [path]
  create : readBetween "\t\tgroup.POST(\"" "\", controller.Create)" (wiringFile b).lines = [""]
  list : readBetween "\t\tgroup.GET(\"" "\", controller.List)" (wiringFile b).lines = [""]
  getById :
    readBetween "\t\tgroup.GET(\"" "\", controller.GetByID)" (wiringFile b).lines = ["/:id"]
  update :
    readBetween "\t\tgroup.PUT(\"" "\", controller.Update)" (wiringFile b).lines = ["/:id"]
  delete :
    readBetween "\t\tgroup.DELETE(\"" "\", controller.Delete)" (wiringFile b).lines = ["/:id"]

theorem mounts (b : Blueprint) : Mounts b b.entity.collectionPath := by
  have hfile : (wiring b, wiringFile b) ∈ sourceFiles {} b := by simp [sourceFiles]
  obtain ⟨lines, hlines, hwritten⟩ :
      ∃ lines, (wiringFile b).lines = lines ∧ lines = (wiringFile b).lines := ⟨_, rfl, rfl⟩
  simp only [SourceFile.lines, wiringFile, SourceFile.program, Imports.program, Decl.op,
    Op.braces, Program.separated_cons_cons, Program.separated_one, routes, Route.text,
    idPlaceholder, quoted, List.map_cons, List.map_nil, List.cons_append, List.nil_append,
    Op.allWritten, Op.written, lineAt, Page.margin, Indent.unit, Indent.go, List.replicate_succ,
    List.replicate_zero, String.join_cons, String.join_nil, String.append_assoc,
    String.empty_append] at hwritten
  refine ⟨content_eq_unlines hfile, ?group, ?_, ?_, ?_, ?_, ?_⟩
  all_goals
    rw [hlines, hwritten]
    simp +decide only [readBetween_of_opening, readBetween_of_closing, String.toList_append,
      prefix_append_of_prefix, not_prefix_append]
  case group =>
    -- the line holds the path itself, and all the others are literals
    exact readBetween_eq_singleton (by simp [← String.toList_inj]) (by decide)

end Scaffold.GoModule

namespace Scaffold.ReactFeature

open Code

/-- The lines of a client that sends its requests to `BASE_URL`, as a template where they are about
one item. -/
def clientLines (e : Entity) : List String :=
  ["export const " ++ e.camel ++ "Api = \x7b",
   "  list: (params?: " ++ e.pascal ++ "ListParams) =>",
   "    apiClient.get<" ++ e.pascal ++ "ListResponse>(BASE_URL, \x7b params \x7d),",
   "",
   "  get: (id: string) =>",
   "    apiClient.get<" ++ e.pascal ++ ">(`$\x7bBASE_URL\x7d/$\x7bid\x7d`),",
   "",
   "  create: (data: Create" ++ e.pascal ++ "Request) =>",
   "    apiClient.post<" ++ e.pascal ++ ">(BASE_URL, data),",
   "",
   "  update: (id: string, data: Update" ++ e.pascal ++ "Request) =>",
   "    apiClient.put<" ++ e.pascal ++ ">(`$\x7bBASE_URL\x7d/$\x7bid\x7d`, data),",
   "",
   "  delete: (id: string) =>",
   "    apiClient.delete(`$\x7bBASE_URL\x7d/$\x7bid\x7d`),",
   "\x7d;"]

/-- The client sends its requests to a path. The list and the creation name the constant that holds
it, and the other calls append the identifier of an item to it. -/
structure Calls (b : Blueprint) (path : String) : Prop where
  content : (api b).content = unlines (apiFile b).lines
  base : readBetween "const BASE_URL = '" "';" (apiFile b).lines = [path]
  client : clientLines b.entity <:+: (apiFile b).lines

theorem calls (b : Blueprint) : Calls b b.entity.collectionPath where
  content := content_eq_unlines (show (api b, apiFile b) ∈ sourceFiles b by simp [sourceFiles])
  base := by
    simp only [SourceFile.lines, apiFile, SourceFile.program, Import.program, Decl.program,
      apiMethods, Method.program, Op.braces, Program.separated_cons_cons, Program.separated_one,
      List.isEmpty_cons, Bool.false_eq_true, reduceIte, List.flatMap_cons, List.flatMap_nil,
      List.map_cons, List.map_nil, List.cons_append, List.nil_append, Op.allWritten, Op.written,
      lineAt, Page.margin, Indent.unit, Indent.typescript, List.replicate_succ,
      List.replicate_zero, String.join_cons, String.join_nil, String.append_assoc,
      String.empty_append]
    simp +decide only [readBetween_of_opening, String.toList_append, not_prefix_append]
    refine readBetween_eq_singleton (by simp [← String.toList_inj]) ?_
    simp +decide only [readBetween_of_opening, String.toList_append, not_prefix_append,
      readBetween_nil]
  client := by
    have hlines : Op.allWritten .typescript 0
        (Decl.object (apiObject b.entity) (apiMethods b.entity.pascal)).program =
          clientLines b.entity := by
      simp [Decl.program, apiObject, apiMethods, Method.program, itemUrl, idPlaceholder, braced,
        listParams, listResponse, createRequest, updateRequest, Op.braces,
        Program.separated_cons_cons, Program.separated_one, Op.allWritten, Op.written, lineAt,
        Page.margin, Indent.unit, Indent.typescript, clientLines, ← String.toList_inj]
    rw [← hlines]
    exact SourceFile.infix_lines (.tail _ (.head _))

end Scaffold.ReactFeature

namespace Scaffold.FlutterFeature

open Code

/-- The repository sends its requests to a path. -/
structure Requests (p : Pagination) (b : Blueprint) (path : String) : Prop where
  content : (repository p b).content = unlines (repositoryFile p b).lines
  list : readBetween "      '" "'," (repositoryFile p b).lines = [path]
  create : readBetween "    final response = await _dio.post('" "', data: request.toJson());"
    (repositoryFile p b).lines = [path]
  getById : readBetween "    final response = await _dio.get('" "');" (repositoryFile p b).lines =
    [path ++ "/$id"]
  update : readBetween "    final response = await _dio.put('" "', data: request.toJson());"
    (repositoryFile p b).lines = [path ++ "/$id"]
  delete : readBetween "    await _dio.delete('" "');" (repositoryFile p b).lines = [path ++ "/$id"]

theorem requests (p : Pagination) (b : Blueprint) : Requests p b b.entity.collectionPath := by
  have hfile : (repository p b, repositoryFile p b) ∈ sourceFiles p b := by simp [sourceFiles]
  obtain ⟨lines, hlines, hwritten⟩ : ∃ lines,
      (repositoryFile p b).lines = lines ∧ lines = (repositoryFile p b).lines := ⟨_, rfl, rfl⟩
  simp only [SourceFile.lines, repositoryFile, SourceFile.program, classDecl, getAllMethod,
    asyncMethod, requestOne, request, Entity.itemPath, idPlaceholder, Op.braces,
    Program.separated_cons_cons, Program.separated_one, List.isEmpty_nil, if_true,
    List.map_cons, List.map_nil, List.cons_append, List.nil_append, Op.allWritten, Op.written,
    lineAt, Page.margin, Indent.unit, Indent.dart, List.replicate_succ, List.replicate_zero,
    String.join_cons, String.join_nil, String.append_assoc, String.empty_append] at hwritten
  refine ⟨content_eq_unlines hfile, ?_, ?_, ?_, ?_, ?_⟩
  all_goals
    rw [hlines, hwritten]
    -- the line of the constructor begins with the entity's name, but it ends otherwise
    simp +decide only [readBetween_of_opening, readBetween_of_closing, String.toList_append,
      prefix_append_of_prefix, not_prefix_append, not_suffix_append]
    refine readBetween_eq_singleton (by simp [← String.toList_inj]) ?_
    simp +decide only [readBetween_of_opening, String.toList_append, prefix_append_of_prefix,
      not_prefix_append, readBetween_nil]

end Scaffold.FlutterFeature

namespace Scaffold

open Naming Text

/-- All stacks that speak HTTP use one path for an entity, the plural of its kebab form behind a
slash, and append the identifier of an item to it, each in the notation of its language. The path
has no underscore and no upper-case letter, and the letter case and the separators of the entity's
name do not change it. -/
theorem Entity.route_named (name : String) :
    let path := "/" ++ pluralize (named name).singular.kebab
    (∀ (p : Pagination) (fields : List Field) (project : String) (options : Options),
      let b : Blueprint := ⟨named name, fields, project, options⟩
      (GoModule.wiring b ∈ (Generator.go p).artifacts b ∧ GoModule.Mounts b path) ∧
      (ReactFeature.api b ∈ Generator.react.artifacts b ∧ ReactFeature.Calls b path) ∧
      (FlutterFeature.repository p b ∈ (Generator.flutter p).artifacts b ∧
        FlutterFeature.Requests p b path)) ∧
    '_' ∉ path.toList ∧
    lower path = path ∧
    "/" ++ pluralize (named (lower name)).singular.kebab = path ∧
    ∀ m, Alike name.toList m.toList → "/" ++ pluralize (named m).singular.kebab = path := by
  simp only [← collectionPath_named]
  refine ⟨fun p fields project options => ?_, underscore_not_mem_collectionPath name,
    lower_collectionPath name, collectionPath_lower name, fun m => collectionPath_alike⟩
  refine ⟨⟨?_, GoModule.mounts _⟩, ⟨?_, ReactFeature.calls _⟩, ⟨?_, FlutterFeature.requests p _⟩⟩
  · exact List.mem_append_left _ (by simp)
  · exact .tail _ (.head _)
  · exact .tail _ (.head _)

theorem Entity.route_named_company :
    Alike "Legal_COMPANY".toList "Legal-COMPANY".toList ∧
      "/" ++ pluralize (named "Legal-COMPANY").singular.kebab =
        "/" ++ pluralize (named "Legal_COMPANY").singular.kebab := by
  have h : Alike "Legal_COMPANY".toList "Legal-COMPANY".toList := by decide +kernel
  exact ⟨h, (route_named "Legal_COMPANY").2.2.2.2 _ h⟩

end Scaffold
