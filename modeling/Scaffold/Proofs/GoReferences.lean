import Scaffold.Proofs.GoImports
import Scaffold.Proofs.OneLine
import Scaffold.Proofs.References

/-!
# The references of a Go module

The files of a module name each other's declarations behind a package and the routes name the
handlers behind the variable of the controller. `scope` holds what the files declare there, and
every line of the module cites this scope and nothing else (`cites_lines`). A line of the file of
the package declares each of these names (`Provides`), and a line of the controller each handler
(`handler_mem_lines`).
-/

set_option autoImplicit false

namespace Scaffold.GoModule

open Code Text

/-! ## Files -/

section Files

variable {σ : Scope} {seen : List Char}

theorem piece_quoted {s : String} (h : σ.Piece s) : σ.Piece (quoted s) :=
  ((Scope.Piece.of_dotless (by decide)).append h).append (.of_dotless (by decide))

/-- The import lines cite what the paths cite. -/
theorem Imports.cites {i : Imports} (h : ∀ path ∈ i.paths, σ.Piece path) :
    ∀ s ∈ Op.allTexts i.program, σ.Cites seen s := by
  have hquoted : ∀ path ∈ i.paths, ∀ seen, σ.Cites seen (quoted path) := fun path hp _ =>
    .of_append_empty ((piece_quoted (h path hp)).cites .nil)
  cases i with
  | single path =>
    intro s hs
    rw [List.mem_singleton.1 hs]
    exact .dotless (by decide) (hquoted path (.head _) _)
  | grouped groups =>
    intro s hs
    simp only [program, Op.allTexts, Op.texts, List.mem_append, List.mem_singleton,
      List.append_nil] at hs
    rcases hs with rfl | hs | rfl
    · exact .of_append_empty (.dotless (by decide) .nil)
    · obtain ⟨group, hg, hs⟩ := Op.mem_allTexts_separated hs
      obtain ⟨paths, hpaths, rfl⟩ := List.mem_map.1 hg
      rw [Op.allTexts_map] at hs
      obtain ⟨path, hp, hs⟩ := List.mem_flatMap.1 hs
      rw [List.mem_singleton.1 hs]
      exact hquoted path (List.mem_flatten.2 ⟨paths, hpaths, hp⟩) _
    · exact .of_append_empty (.dotless (by decide) .nil)

theorem SourceFile.cites {f : SourceFile} (hpackage : σ.Piece f.package)
    (himports : ∀ path ∈ f.imports.paths, σ.Piece path)
    (hdecls : ∀ d ∈ f.decls, ∀ s ∈ d.op.texts, σ.Cites ['\n'] s) :
    ∀ line ∈ f.lines, σ.Cites ['\n'] line := by
  intro line
  refine Scope.Cites.of_mem_written fun s hs => ?_
  obtain ⟨program, hp, hs⟩ := Op.mem_allTexts_separated hs
  simp only [List.mem_cons, List.mem_map] at hp
  rcases hp with rfl | rfl | ⟨d, hd, rfl⟩
  · rw [List.mem_singleton.1 hs]
    exact .of_append_empty (((Scope.Piece.of_dotless (by decide)).append hpackage).cites .nil)
  · exact Imports.cites himports s hs
  · exact hdecls d hd s (by simpa [Op.allTexts] using hs)

end Files

/-! ## What a module declares -/

/-- The qualifiers of a module: its packages and the variable that holds its controller. -/
def dtosName : List Char := ['d', 't', 'o', 's']
def usecasesName : List Char := ['u', 's', 'e', 'c', 'a', 's', 'e', 's']
def controllersName : List Char := ['c', 'o', 'n', 't', 'r', 'o', 'l', 'l', 'e', 'r', 's']
def databaseName : List Char := ['d', 'a', 't', 'a', 'b', 'a', 's', 'e']
def controllerVar : List Char := ['c', 'o', 'n', 't', 'r', 'o', 'l', 'l', 'e', 'r']

/-- The texts of a blueprint that a module writes as they are, and what the module declares behind
each qualifier. -/
def scope (p : Pagination) (b : Blueprint) : Scope where
  given := [b.entity.module, b.entity.collectionPath, b.project] ++ b.fields.flatMap fun f =>
    [f.name, memberName f, f.type, .ofList (f.type.toList.dropWhile (· = '*'))]
  links := [
    (dtosName, (dtoFile p b).declared),
    (usecasesName, (usecaseFile p b).declared),
    (controllersName, (controllerFile p b).declared),
    (databaseName, (modelFile b).declared),
    (controllerVar, (handlers p b.entity.pascal).map (·.1))]
  isName := by
    simp only [List.map_cons, List.map_nil]
    decide
  apart := by
    simp only [List.map_cons, List.map_nil]
    decide

/-- What a module declares is named after its entity. -/
structure Known (σ : Scope) (entity : String) : Prop where
  model : σ.Declares databaseName entity
  createRequest : σ.Declares dtosName (GoModule.createRequest entity)
  updateRequest : σ.Declares dtosName (GoModule.updateRequest entity)
  listRequest : σ.Declares dtosName (GoModule.listRequest entity)
  response : σ.Declares dtosName (GoModule.response entity)
  listResponse : σ.Declares dtosName (GoModule.listResponse entity)
  toResponse : σ.Declares dtosName (GoModule.toResponse entity)
  toListResponse : σ.Declares dtosName (GoModule.toListResponse entity)
  usecase : σ.Declares usecasesName (GoModule.usecase entity)
  newUsecase : σ.Declares usecasesName (GoModule.newUsecase entity)
  controller : σ.Declares controllersName (GoModule.controller entity)
  newController : σ.Declares controllersName (GoModule.newController entity)

section Module

variable {σ : Scope} {seen : List Char} {p : Pagination} {b : Blueprint} {entity : String}
  {fields : List Field}

theorem piece_intDigits (n : Int) : σ.Piece (intDigits n) :=
  .of_dotless fun h => by rcases mem_intDigits h with h | h <;> simp at h

/-- The name, the type and the tag of a member may stand anywhere. -/
structure Member.IsPiece (σ : Scope) (m : Member) : Prop where
  name : σ.Piece m.name
  type : σ.Piece m.type
  tag : σ.Piece m.tag

theorem piece_column (width : Nat) {s : String} (h : σ.Piece s) : σ.Piece (column width s) :=
  h.append (.of_dotless (by simp))

theorem Member.IsPiece.cites {m : Member} (h : m.IsPiece σ) : σ.Cites seen m.text :=
  .of_append_empty <| (((((piece_column _ h.name).append (piece_column _ h.type)).append
    (.of_dotless (by decide))).append h.tag).append (.of_dotless (by decide))).cites .nil

theorem Member.isPiece_of_isQuiet {m : Member}
    (h : ([m.name, m.type, m.tag].all fun s => isQuietFrom σ.qualifiers [] s.toList) = true) :
    m.IsPiece σ := by
  simp only [List.all_cons, List.all_nil, Bool.and_eq_true, and_true] at h
  exact ⟨.of_isQuiet h.1, .of_isQuiet h.2.1, .of_isQuiet h.2.2⟩

/-- The parts of a field that a module writes may stand anywhere. -/
structure FieldIsPiece (σ : Scope) (f : Field) : Prop where
  name : σ.Piece f.name
  member : σ.Piece (memberName f)
  type : σ.Piece f.type
  bareType : σ.Piece (.ofList (f.type.toList.dropWhile (· = '*')))

theorem piece_jsonTag {key : String} (h : σ.Piece key) : σ.Piece (jsonTag key) :=
  (Scope.Piece.of_dotless (by decide)).append (piece_quoted h)

section

variable {f : Field} (h : FieldIsPiece σ f)
include h

theorem FieldIsPiece.responseType : σ.Piece (f.responseType .go) := by
  simp only [Field.responseType, Stack.nullable]
  split
  · exact h.type
  · split
    · exact h.type
    · exact (Scope.Piece.of_dotless (by decide)).append h.type

theorem FieldIsPiece.modelMember : (modelMember f).IsPiece σ where
  name := h.member
  type := h.responseType
  tag := by
    have hcolumn : '.' ∉ (Stack.go.typeTable.lookup f.type).toList :=
      TypeTable.forall_lookup (p := fun s => '.' ∉ s.toList) (by decide) (by decide) f.type
    have hkey : σ.Piece ("type:" ++ Stack.go.typeTable.lookup f.type) :=
      (Scope.Piece.of_dotless (by decide)).append (.of_dotless hcolumn)
    have hgorm := (Scope.Piece.of_dotless (s := "gorm:") (by decide)).append (piece_quoted hkey)
    exact (hgorm.append (.of_dotless (by decide))).append (piece_jsonTag h.name)

theorem FieldIsPiece.createMember : (createMember f).IsPiece σ where
  name := h.member
  type := h.type
  tag := by
    have hrule : σ.Piece (if f.required then "required" else "omitempty") :=
      .of_dotless (by split <;> decide)
    exact ((piece_jsonTag h.name).append (.of_dotless (by decide))).append (piece_quoted hrule)

theorem FieldIsPiece.updateMember : (updateMember f).IsPiece σ where
  name := h.member
  type := (Scope.Piece.of_dotless (by decide)).append h.bareType
  tag := piece_jsonTag h.name

theorem FieldIsPiece.responseMember : (responseMember f).IsPiece σ where
  name := h.member
  type := h.responseType
  tag := piece_jsonTag h.name

end

section

variable (hfields : ∀ f ∈ fields, FieldIsPiece (scope p b) f)
include hfields

theorem modelMembers_cite : ∀ m ∈ modelMembers fields, (scope p b).Cites ['\n'] m.text := by
  simp only [modelMembers, List.forall_mem_append, List.forall_mem_cons, List.forall_mem_map,
    List.not_mem_nil, false_imp_iff, implies_true, and_true]
  exact ⟨⟨(Member.isPiece_of_isQuiet rfl).cites, fun f hf => (hfields f hf).modelMember.cites⟩,
    (Member.isPiece_of_isQuiet rfl).cites, (Member.isPiece_of_isQuiet rfl).cites,
    (Member.isPiece_of_isQuiet rfl).cites⟩

theorem responseMembers_cite : ∀ m ∈ responseMembers fields, (scope p b).Cites ['\n'] m.text := by
  simp only [responseMembers, List.forall_mem_append, List.forall_mem_cons, List.forall_mem_map,
    List.not_mem_nil, false_imp_iff, implies_true, and_true]
  exact ⟨⟨(Member.isPiece_of_isQuiet rfl).cites,
    fun f hf => (hfields f hf).responseMember.cites⟩, (Member.isPiece_of_isQuiet rfl).cites⟩

end

theorem listRequestMembers_cite : ∀ m ∈ listRequestMembers p, (scope p b).Cites ['\n'] m.text := by
  simp only [listRequestMembers, List.forall_mem_cons, List.not_mem_nil, false_imp_iff,
    implies_true, and_true]
  refine ⟨(Member.isPiece_of_isQuiet rfl).cites, Member.IsPiece.cites ⟨?_, ?_, ?_⟩,
    (Member.isPiece_of_isQuiet rfl).cites⟩
  · exact .of_dotless (s := "PerPage") (by decide)
  · exact .of_dotless (s := "int") (by decide)
  · exact ((Scope.Piece.of_dotless (by decide)).append (piece_intDigits _)).append
      (.of_dotless (by decide))

theorem listResponseMembers_cite (h : (scope p b).Piece (response entity)) :
    ∀ m ∈ listResponseMembers entity, (scope p b).Cites ['\n'] m.text := by
  simp only [listResponseMembers, List.forall_mem_cons, List.not_mem_nil, false_imp_iff,
    implies_true, and_true]
  have hname : (scope p b).Piece "Items" := .of_dotless (by decide)
  have htype : (scope p b).Piece ("[]*" ++ response entity) :=
    (Scope.Piece.of_dotless (by decide)).append h
  have htag : (scope p b).Piece (jsonTag "items") := .of_dotless (by decide)
  exact ⟨Member.IsPiece.cites ⟨hname, htype, htag⟩, (Member.isPiece_of_isQuiet rfl).cites,
    (Member.isPiece_of_isQuiet rfl).cites, (Member.isPiece_of_isQuiet rfl).cites,
    (Member.isPiece_of_isQuiet rfl).cites⟩

theorem piece_searchColumn (hfields : ∀ f ∈ fields, FieldIsPiece σ f) (type : String) :
    σ.Piece (searchColumn fields type) := by
  unfold searchColumn
  split
  case h_1 f hf => exact (hfields f (List.mem_of_find?_eq_some hf)).name
  case h_2 => exact .of_dotless (by decide)

/-- The declarations of a module refer to what the module declares. -/
theorem cites_decls (h : Known (scope p b) b.entity.pascal)
    (hhandlers : ∀ r ∈ routes, (scope p b).Declares controllerVar r.handler)
    (hmodule : (scope p b).Piece b.entity.module)
    (hpath : (scope p b).Piece b.entity.collectionPath)
    (hfields : ∀ f ∈ b.fields, FieldIsPiece (scope p b) f) :
    ∀ file ∈ files p b, ∀ d ∈ file.decls, ∀ s ∈ d.op.texts, (scope p b).Cites ['\n'] s := by
  simp only [files, modelFile, dtoFile, usecaseFile, controllerFile, wiringFile, validatorFile,
    List.forall_mem_cons]
  generalize b.entity.pascal = entity at h ⊢
  generalize b.entity.module = module at hmodule ⊢
  generalize b.entity.collectionPath = path at hpath ⊢
  generalize b.fields = fields at hfields ⊢
  have hpage := piece_intDigits (σ := scope p b) p.defaultPage.toInt
  have hperPage := piece_intDigits (σ := scope p b) p.defaultPerPage.toInt
  have hvalidate : (scope p b).Piece validateSignature := .of_isQuiet rfl
  have hcolumn := piece_searchColumn hfields Stack.go.stringType
  have hmodel := modelMembers_cite hfields
  have hresponse := responseMembers_cite hfields
  have hlistRequest := listRequestMembers_cite (p := p) (b := b)
  have hlistResponse := listResponseMembers_cite (.of_declares h.response)
  have hcreate : ∀ m ∈ fields.map createMember, (scope p b).Cites ['\n'] m.text :=
    List.forall_mem_map.2 fun f hf => (hfields f hf).createMember.cites
  have hupdate : ∀ m ∈ fields.map updateMember, (scope p b).Cites ['\n'] m.text :=
    List.forall_mem_map.2 fun f hf => (hfields f hf).updateMember.cites
  cases h
  simp only [toResponseDecl, toListResponseDecl, createMethod, getByIdMethod, updateMethod,
    deleteMethod, listMethod, usecaseMethod, loadById, returnErr, clampPages, handlers,
    bindRequest, callUsecase, internalError, fail, answer, readId, routes, Route.text,
    idPlaceholder, List.forall_mem_cons] at hhandlers ⊢
  obtain ⟨_, _, _, _, _, -⟩ := hhandlers
  simp only [Decl.op, Op.braces, ifThen, ifErr, Op.allTexts, Op.texts, Op.allTexts_append,
    Op.allTexts_map, quoted, braced, timestampLayout, List.map_cons, List.map_nil,
    List.cons_append, List.nil_append, List.append_nil, List.forall_mem_cons,
    List.forall_mem_append, List.forall_mem_flatMap, List.not_mem_nil, false_imp_iff, implies_true,
    and_true]
  and_intros
  all_goals first
    | with_reducible assumption
    | intro f hf
      cases hfields f hf
      try and_intros
    | skip
  all_goals
    try (with_reducible refine .of_append_empty ?_)
    try simp only [String.append_assoc]
    repeat' first
      | with_reducible exact Scope.Cites.nil
      | (with_reducible refine .link_lit (by assumption) ?_ ?_ ?_); rfl; rfl
      | (with_reducible refine .link_end (by assumption) ?_); rfl
      | with_reducible refine Scope.Piece.cites (by assumption) ?_
      | with_reducible refine .own (by assumption) ?_
      | (with_reducible refine .lit ?_ ?_); rfl

/-! ## The files of a module -/

/-- The names of the scope are those that the files of the module declare. -/
theorem known (p : Pagination) (b : Blueprint) : Known (scope p b) b.entity.pascal := by
  have hmodel : (databaseName, (modelFile b).declared) ∈ (scope p b).links := by simp [scope]
  have hdto : (dtosName, (dtoFile p b).declared) ∈ (scope p b).links := by simp [scope]
  have husecase : (usecasesName, (usecaseFile p b).declared) ∈ (scope p b).links := by simp [scope]
  have hcontroller : (controllersName, (controllerFile p b).declared) ∈ (scope p b).links := by
    simp [scope]
  constructor
  · exact ⟨_, hmodel, by simp [SourceFile.declared, modelFile, Decl.declared?]⟩
  iterate 7
    exact ⟨_, hdto, by
      simp [SourceFile.declared, dtoFile, toResponseDecl, toListResponseDecl, Decl.declared?]⟩
  iterate 2 exact ⟨_, husecase, by simp [SourceFile.declared, usecaseFile, Decl.declared?]⟩
  iterate 2 exact ⟨_, hcontroller, by simp [SourceFile.declared, controllerFile, Decl.declared?]⟩

theorem declares_handler {r : Route} (h : r ∈ routes) :
    (scope p b).Declares controllerVar r.handler := by
  refine ⟨(handlers p b.entity.pascal).map (·.1), by simp [scope], ?_⟩
  revert r
  simp [routes, handlers]

theorem fieldIsPiece {f : Field} (h : f ∈ b.fields) : FieldIsPiece (scope p b) f := by
  constructor <;> refine .of_mem (List.mem_append_right _ (List.mem_flatMap.2 ⟨f, h, ?_⟩)) <;> simp

theorem piece_project : (scope p b).Piece b.project := .of_mem (by simp [scope])

theorem piece_module : (scope p b).Piece b.entity.module := .of_mem (by simp [scope])

theorem piece_packagePath (package : String) (h : '.' ∉ package.toList) :
    (scope p b).Piece (packagePath b package) :=
  (((piece_project.append (.of_dotless (by decide))).append
    ((Scope.Piece.of_dotless (by decide)).append piece_module)).append
      (.of_dotless (by decide))).append (.of_dotless h)

theorem piece_databasePath : (scope p b).Piece (databasePath b.project) :=
  piece_project.append (.of_dotless (by decide))

theorem packages_arePieces : ∀ file ∈ files p b, (scope p b).Piece file.package := by
  simp only [files, List.forall_mem_cons, List.not_mem_nil, false_imp_iff, implies_true, and_true]
  exact ⟨.of_dotless (s := "database") (by decide), .of_dotless (s := "dtos") (by decide),
    .of_dotless (s := "usecases") (by decide), .of_dotless (s := "controllers") (by decide),
    piece_module, .of_dotless (s := "validators") (by decide)⟩

theorem imports_arePieces :
    ∀ file ∈ files p b, ∀ path ∈ file.imports.paths, (scope p b).Piece path := by
  simp only [files, modelFile, dtoFile, usecaseFile, controllerFile, wiringFile, validatorFile,
    Imports.paths, List.flatten_cons, List.flatten_nil, List.cons_append, List.nil_append,
    List.forall_mem_cons, List.not_mem_nil, false_imp_iff, implies_true, and_true]
  have hgorm : (scope p b).Piece "gorm.io/gorm" := .of_isQuiet rfl
  have hgin : (scope p b).Piece "github.com/gin-gonic/gin" := .of_isQuiet rfl
  have huuid : (scope p b).Piece "github.com/google/uuid" := .of_isQuiet rfl
  have hdtos := piece_packagePath (p := p) (b := b) "dtos" (by decide)
  have husecases := piece_packagePath (p := p) (b := b) "usecases" (by decide)
  have hcontrollers := piece_packagePath (p := p) (b := b) "controllers" (by decide)
  have hdatabase := piece_databasePath (p := p) (b := b)
  have hresponse : (scope p b).Piece (b.project ++ "/pkg/response") :=
    piece_project.append (.of_dotless (by decide))
  have hmiddleware : (scope p b).Piece (b.project ++ "/internal/middleware") :=
    piece_project.append (.of_dotless (by decide))
  and_intros <;> first
    | with_reducible assumption
    | exact .of_dotless (by decide)

/-- The lines of a file refer to what the module declares. -/
theorem cites_lines {a : Artifact} {file : SourceFile} (h : (a, file) ∈ sourceFiles p b) :
    ∀ line ∈ file.lines, (scope p b).Cites ['\n'] line := by
  have hfile := mem_files h
  have hdecls := cites_decls (known p b) (fun _ => declares_handler) piece_module
    (.of_mem (by simp [scope])) fun _ => fieldIsPiece
  exact SourceFile.cites (packages_arePieces file hfile) (imports_arePieces file hfile)
    (hdecls file hfile)

/-! ## Reading the references -/

/-- The names that a module declares spell no reference if the name of the entity does not. -/
theorem isClear (hentity : isQuietFrom (scope p b).qualifiers [] b.entity.pascal.toList = true)
    (hgiven : ∀ s ∈ (scope p b).given, isQuietFrom (scope p b).qualifiers [] s.toList = true) :
    (scope p b).IsClear := by
  refine ⟨hgiven, fun q name hname => ?_⟩
  have happend {s t : String} (hs : isQuietFrom (scope p b).qualifiers [] s.toList = true)
      (ht : isQuietFrom (scope p b).qualifiers [] t.toList = true) :
      isQuietFrom (scope p b).qualifiers [] (s ++ t).toList = true := by
    rw [String.toList_append, isQuietFrom_append, hs, Bool.true_and]
    exact isQuietFrom_after ht _
  have hdotless {s : String} (h : '.' ∉ s.toList) :
      isQuietFrom (scope p b).qualifiers [] s.toList = true :=
    isQuietFrom_of_not_mem h
  have haround (lead trail : String) (hlead : '.' ∉ lead.toList) (htrail : '.' ∉ trail.toList) :
      isQuietFrom (scope p b).qualifiers [] (lead ++ b.entity.pascal ++ trail).toList = true :=
    happend (happend (hdotless hlead) hentity) (hdotless htrail)
  obtain ⟨names, hlink, hname⟩ := hname
  simp only [scope, List.mem_cons, List.not_mem_nil, or_false, Prod.mk.injEq] at hlink
  rcases hlink with ⟨-, rfl⟩ | ⟨-, rfl⟩ | ⟨-, rfl⟩ | ⟨-, rfl⟩ | ⟨-, rfl⟩
  · simp only [SourceFile.declared, dtoFile, toResponseDecl, toListResponseDecl, Decl.declared?,
      List.filterMap_cons, List.filterMap_nil, List.mem_cons, List.not_mem_nil, or_false] at hname
    rcases hname with rfl | rfl | rfl | rfl | rfl | rfl | rfl
    · exact haround "Create" "Request" (by decide) (by decide)
    · exact haround "Update" "Request" (by decide) (by decide)
    · exact haround "List" "Request" (by decide) (by decide)
    · exact happend hentity (hdotless (by decide))
    · exact happend hentity (hdotless (by decide))
    · exact haround "To" "Response" (by decide) (by decide)
    · exact haround "To" "ListResponse" (by decide) (by decide)
  · simp [SourceFile.declared, usecaseFile, createMethod, getByIdMethod, updateMethod,
      deleteMethod, listMethod, usecaseMethod, Decl.declared?] at hname
    rcases hname with rfl | rfl
    · exact happend hentity (hdotless (by decide))
    · exact happend (hdotless (by decide)) (happend hentity (hdotless (by decide)))
  · simp [SourceFile.declared, controllerFile, handlers, Decl.declared?] at hname
    rcases hname with rfl | rfl
    · exact happend hentity (hdotless (by decide))
    · exact happend (hdotless (by decide)) (happend hentity (hdotless (by decide)))
  · simp [SourceFile.declared, modelFile, Decl.declared?] at hname
    rwa [hname]
  · simp [handlers] at hname
    rcases hname with rfl | rfl | rfl | rfl | rfl <;> exact hdotless (by decide)

/-! ## The lines that declare the names -/

/-- A line of the file declares the name in its package. -/
def SourceFile.Declares (f : SourceFile) (name : String) : Prop :=
  (∃ form ∈ ["struct", "interface"], "type " ++ name ++ " " ++ form ++ " \x7b" ∈ f.lines) ∨
    ∃ signature, "func " ++ name ++ "(" ++ signature ++ " \x7b" ∈ f.lines

/-- A type is a struct or an interface, and the signature of a function begins with parameters. -/
def Decl.IsRegular : Decl → Prop
  | .struct .. | .method .. => True
  | .shape _ form _ => form ∈ ["struct", "interface"]
  | .func _ signature _ => signature.toList.head? = some '('

theorem SourceFile.declares_of_mem_declared {f : SourceFile} (h : ∀ d ∈ f.decls, d.IsRegular)
    {name : String} (hname : name ∈ f.declared) : f.Declares name := by
  obtain ⟨d, hd, hname⟩ := List.mem_filterMap.1 hname
  have hregular := h d hd
  cases d with
  | struct other members =>
    obtain rfl := Option.some.inj hname
    refine .inl ⟨"struct", .head _, mem_lines hd ?_⟩
    simp [Decl.op, Op.braces, Op.heads, ← String.toList_inj]
  | shape other form lines =>
    obtain rfl := Option.some.inj hname
    refine .inl ⟨form, hregular, mem_lines hd ?_⟩
    simp [Decl.op, Op.braces, Op.heads, ← String.toList_inj]
  | func other signature body =>
    obtain rfl := Option.some.inj hname
    obtain ⟨params, hparams⟩ := List.head?_eq_some_iff.1 hregular
    refine .inr ⟨.ofList params, mem_lines hd ?_⟩
    simp [Decl.op, Op.braces, Op.heads, hparams, ← String.toList_inj]
  | method => cases hname

/-- The file of a package of the module: it begins with the name of the package, the package is
imported by its directory, and its lines declare what the scope has behind the package. -/
structure Provides (p : Pagination) (b : Blueprint) (package : String) (target : Artifact)
    (declaring : SourceFile) : Prop where
  file : (target, declaring) ∈ sourceFiles p b
  header : declaring.lines.head? = some ("package " ++ package)
  imports : ∀ a file, (a, file) ∈ sourceFiles p b → ∀ path, Imported file.lines path →
    ∀ root, path = root ++ "/" ++ package → path = b.project ++ "/" ++ Path.directory target.path
  declares : ∀ name, (scope p b).Declares package.toList name → declaring.Declares name

theorem SourceFile.head?_lines (f : SourceFile) :
    f.lines.head? = some ("package " ++ f.package) := by
  obtain ⟨rest, hlines, -⟩ := f.exists_lines_eq
  rw [hlines, List.head?_cons]

theorem declares_of_mem_packageFiles {package : String} {target : Artifact} {declaring : SourceFile}
    (h : (package, target, declaring) ∈ packageFiles p b) {name : String}
    (hname : (scope p b).Declares package.toList name) : declaring.Declares name := by
  obtain ⟨names, hlink, hname⟩ := hname
  rcases packageFiles_cases h with ⟨rfl, -, rfl⟩ | ⟨rfl, -, rfl⟩ | ⟨rfl, -, rfl⟩ | ⟨rfl, -, rfl⟩
  all_goals
    simp [scope, dtosName, usecasesName, controllersName, databaseName, controllerVar] at hlink
    subst hlink
    refine SourceFile.declares_of_mem_declared ?_ hname
  · simp [dtoFile, toResponseDecl, toListResponseDecl, Decl.IsRegular]
  · simp [usecaseFile, createMethod, getByIdMethod, updateMethod, deleteMethod, listMethod,
      usecaseMethod, Decl.IsRegular]
  · simp only [controllerFile, List.forall_mem_append, List.forall_mem_cons, List.forall_mem_map]
    exact ⟨⟨.head _, by simp [Decl.IsRegular], List.forall_mem_nil _⟩, fun _ _ => trivial⟩
  · simp [modelFile, Decl.IsRegular]

theorem provides (hmodule : '/' ∉ b.entity.module.toList) {package : String} {target : Artifact}
    {declaring : SourceFile} (h : (package, target, declaring) ∈ packageFiles p b) :
    Provides p b package target declaring where
  file := by
    rcases packageFiles_cases h with ⟨-, rfl, rfl⟩ | ⟨-, rfl, rfl⟩ | ⟨-, rfl, rfl⟩ |
      ⟨-, rfl, rfl⟩ <;> simp [sourceFiles]
  header := by
    rw [SourceFile.head?_lines]
    rcases packageFiles_cases h with ⟨rfl, -, rfl⟩ | ⟨rfl, -, rfl⟩ | ⟨rfl, -, rfl⟩ |
      ⟨rfl, -, rfl⟩ <;> rfl
  imports _ _ ha _ hpath _ := imported_eq_directory hmodule h ha hpath
  declares _ := declares_of_mem_packageFiles h

/-- The names behind the controller are those of its handlers. -/
theorem handler_mem_lines {name : String} (h : (scope p b).Declares controllerVar name) :
    "func (c *" ++ b.entity.pascal ++ "Controller) " ++ name ++ "(ctx *gin.Context) \x7b" ∈
      (controllerFile p b).lines := by
  obtain ⟨names, hlink, hname⟩ := h
  simp only [scope, List.mem_cons, List.not_mem_nil, or_false, Prod.mk.injEq] at hlink
  rcases hlink with ⟨h, -⟩ | ⟨h, -⟩ | ⟨h, -⟩ | ⟨h, -⟩ | ⟨-, rfl⟩
  iterate 4 exact absurd h (by decide)
  obtain ⟨⟨_, body⟩, hhandler, rfl⟩ := List.mem_map.1 hname
  refine SourceFile.mem_lines (List.mem_append_right _ (List.mem_map.2 ⟨_, hhandler, rfl⟩)) ?_
  simp [Decl.op, Op.braces, Op.heads, controller, ← String.toList_inj]

theorem route_mem_lines {r : Route} (h : r ∈ routes) :
    "\t\tgroup." ++ r.verb ++ "(\"" ++ r.path ++ "\", controller." ++ r.handler ++ ")" ∈
      (wiringFile b).lines := by
  have hline : lineAt .go 2 r.text = "\t\tgroup." ++ r.verb ++ "(\"" ++ r.path ++
      "\", controller." ++ r.handler ++ ")" := by
    simp [lineAt, Page.margin, Indent.unit, Indent.go, Route.text, quoted, ← String.toList_inj]
  have hroutes : lineAt .go 2 r.text ∈
      Op.allWritten .go 2 (routes.map fun r => .line r.text) := by
    rw [Op.allWritten_lines]
    exact List.mem_map_of_mem h
  rw [← hline]
  refine (SourceFile.infix_lines (.head _)).subset ?_
  simp [Decl.op, Op.braces, Op.allWritten, Op.written, hroutes]

end Module

/-- What the files of a module refer to is there. -/
structure Resolves (p : Pagination) (b : Blueprint) : Prop where
  artifacts : (sourceFiles p b).map (·.1) = artifacts p b
  content : ∀ a file, (a, file) ∈ sourceFiles p b → a.content = unlines file.lines
  packages : ∀ package ∈ ownPackages, ∃ target declaring, Provides p b package target declaring
  /-- What the scope has behind the controller are methods of its type. -/
  handlers : ∀ name, (scope p b).Declares controllerVar name →
    "func (c *" ++ b.entity.pascal ++ "Controller) " ++ name ++ "(ctx *gin.Context) \x7b" ∈
      (controllerFile p b).lines
  routes : ∀ r ∈ routes,
    "\t\tgroup." ++ r.verb ++ "(\"" ++ r.path ++ "\", controller." ++ r.handler ++ ")" ∈
      (wiringFile b).lines ∧ (scope p b).Declares controllerVar r.handler
  /-- Every line refers to what the scope has behind the packages and the controller. -/
  cites : ∀ a file, (a, file) ∈ sourceFiles p b → ∀ line ∈ file.lines,
    (scope p b).Cites ['\n'] line
  /-- Unless a name that was given spells a reference, this is all that reads as one. -/
  reads : isQuietFrom (scope p b).qualifiers [] b.entity.pascal.toList = true →
    (∀ s ∈ (scope p b).given, isQuietFrom (scope p b).qualifiers [] s.toList = true) →
    ∀ a file, (a, file) ∈ sourceFiles p b → ∀ line ∈ file.lines, ∀ q ∈ (scope p b).qualifiers,
      ∀ before after, line.toList = before ++ q ++ '.' :: after →
        ∃ name, (scope p b).Declares q name ∧
          ∃ rest, after = name.toList ++ rest ∧ Delimited rest

theorem resolves (p : Pagination) {b : Blueprint} (hmodule : '/' ∉ b.entity.module.toList) :
    Resolves p b where
  artifacts := map_fst_sourceFiles p b
  content _ _ := content_eq_unlines
  packages _ h :=
    let ⟨target, declaring, hfile⟩ := exists_mem_packageFiles h
    ⟨target, declaring, provides hmodule hfile⟩
  handlers _ := handler_mem_lines
  routes _ h := ⟨route_mem_lines h, declares_handler h⟩
  cites _ _ := cites_lines
  reads hentity hgiven _ _ ha line hline _ hq _ _ :=
    (cites_lines ha line hline).exists_name hq (isClear hentity hgiven)

end Scaffold.GoModule
