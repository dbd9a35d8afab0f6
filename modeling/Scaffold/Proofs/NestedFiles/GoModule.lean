import Scaffold.Generator
import Scaffold.Proofs.ClosedPrograms

/-!
# Nested files of a Go module

For each kind of declaration and of file, `IsNested` says that the texts it is made of are nested;
then its own text is. The files of a module are nested if the names, the types and the project in
its blueprint are (`nested_artifacts`).
-/

set_option autoImplicit false

namespace Scaffold.GoModule

open Code Text

theorem nested_column {s : String} (h : Nested s) (width : Nat) : Nested (column width s) := by
  refine h.append (nested_of_no_bracket fun c hc => ?_)
  rw [String.toList_ofList] at hc
  rw [List.eq_of_mem_replicate hc]
  rfl

theorem Member.nested_text {m : Member} (hname : Nested m.name) (htype : Nested m.type)
    (htag : Nested m.tag) : Nested m.text := by
  have hname := nested_column hname m.nameWidth
  have htype := nested_column htype m.typeWidth
  simp +decide [Member.text, *]

theorem nested_jsonTag {key : String} (h : Nested key) : Nested (jsonTag key) := by
  simp +decide [jsonTag, quoted, *]

/-! ## Source files -/

namespace Decl

/-- The texts of the declaration are nested. -/
def IsNested : Decl → Prop
  | struct name members => Nested name ∧ ∀ m ∈ members, Nested m.text
  | shape name form lines => Nested name ∧ Nested form ∧ ∀ line ∈ lines, Nested line
  | func name signature body => Nested name ∧ Nested signature ∧ Closed body
  | method receiver type name signature body =>
    Nested receiver ∧ Nested type ∧ Nested name ∧ Nested signature ∧ Closed body

theorem IsNested.closed {d : Decl} (h : d.IsNested) : Closed [d.op] := by
  cases d with
  | struct name members =>
    obtain ⟨hname, hmembers⟩ := h
    refine .block ?_ (.lines hmembers) .nil
    simp +decide [*]
  | shape name form lines =>
    obtain ⟨hname, hform, hlines⟩ := h
    refine .block ?_ (.lines (s := id) hlines) .nil
    simp +decide [*]
  | func name signature body =>
    obtain ⟨hname, hsignature, hbody⟩ := h
    refine .block ?_ hbody .nil
    simp +decide [*]
  | method receiver type name signature body =>
    obtain ⟨hreceiver, htype, hname, hsignature, hbody⟩ := h
    refine .block ?_ hbody .nil
    simp +decide [*]

end Decl

/-- The texts of the file are nested. -/
structure SourceFile.IsNested (f : SourceFile) : Prop where
  package : Nested f.package
  imports : ∀ path ∈ f.imports.paths, Nested path
  decls : ∀ d ∈ f.decls, d.IsNested

theorem Imports.closed {i : Imports} (h : ∀ path ∈ i.paths, Nested path) : Closed i.program := by
  cases i with
  | single path =>
    have hpath : Nested path := h path (.head _)
    refine .line ?_ .nil
    simp +decide [quoted, *]
  | grouped groups =>
    refine .enclosed (.append (.ofList rfl) (.ofList rfl)) (.separated fun P hP => ?_) .nil
    obtain ⟨group, hgroup, rfl⟩ := List.mem_map.1 hP
    refine .lines fun path hp => ?_
    have hpath : Nested path := h path (List.mem_flatten.2 ⟨group, hgroup, hp⟩)
    simp +decide [quoted, *]

theorem SourceFile.IsNested.render {f : SourceFile} (h : f.IsNested) : Nested f.render := by
  refine Closed.render (.separated fun P hP => ?_) .go
  have hpackage := h.package
  rcases List.mem_cons.1 hP with rfl | hP
  · refine .line ?_ .nil
    simp +decide [*]
  rcases List.mem_cons.1 hP with rfl | hP
  · exact Imports.closed h.imports
  · obtain ⟨d, hd, rfl⟩ := List.mem_map.1 hP
    exact (h.decls d hd).closed

/-! ## Statements -/

theorem closed_ifThen {condition : String} {body rest : Program} (hc : Nested condition)
    (hbody : Closed body) (hrest : Closed rest) : Closed (ifThen condition body :: rest) := by
  refine .block ?_ hbody hrest
  simp +decide [*]

theorem closed_ifErr {call : String} {body rest : Program} (hcall : Nested call)
    (hbody : Closed body) (hrest : Closed rest) : Closed (ifErr call body :: rest) := by
  refine closed_ifThen ?_ hbody hrest
  simp +decide [*]

theorem closed_returnErr {call values : String} {rest : Program} (hcall : Nested call)
    (hvalues : Nested values) (hrest : Closed rest) : Closed (returnErr call values :: rest) := by
  refine closed_ifErr hcall (.line ?_ .nil) hrest
  simp +decide [*]

theorem closed_clampPages (p : Pagination) : Closed (clampPages p) := by
  have hpage := nested_intDigits p.defaultPage.toInt
  have hperPage := nested_intDigits p.defaultPerPage.toInt
  refine .line (.ofList rfl) <| closed_ifThen (by decide) (.line ?_ .nil) <|
    closed_ifThen (by decide) (.line ?_ .nil) .nil
  all_goals simp +decide [*]

theorem closed_loadById {entity : String} (h : Nested entity) : Closed (loadById entity) := by
  refine .line ?_ (closed_returnErr (by decide) (by decide) .nil)
  simp +decide [*]

theorem closed_fail {status message : String} (hstatus : Nested status) (hmessage : Nested message) :
    Closed (fail status message) := by
  refine .line ?_ (.line (.ofList rfl) .nil)
  simp +decide [*]

theorem closed_internalError : Closed internalError := closed_fail (by decide) (by decide)

theorem closed_bindRequest {request binder : String} (hrequest : Nested request)
    (hbinder : Nested binder) : Closed (bindRequest request binder) := by
  refine .line ?_ (closed_ifErr ?_ (closed_fail (by decide) (by decide)) .nil)
  all_goals simp +decide [*]

theorem closed_callUsecase {results call : String} {onErr : Program} (hresults : Nested results)
    (hcall : Nested call) (hErr : Closed onErr) : Closed (callUsecase results call onErr) := by
  refine .line ?_ (closed_ifThen (by decide) hErr .nil)
  simp +decide [*]

theorem closed_answer {answerer entity : String} {rest : Program} (hanswerer : Nested answerer)
    (he : Nested entity) (hrest : Closed rest) : Closed (answer answerer entity :: rest) := by
  refine .line ?_ hrest
  simp +decide [toResponse, *]

/-! ## Members -/

section Members

variable {f : Field} (h : f.IsNested)
include h

theorem nested_memberName : Nested (memberName f) := h.name.pascal

theorem nested_modelMember : Nested (modelMember f).text := by
  have hcolumn : Nested (TypeTable.gormColumns.lookup f.type) :=
    TypeTable.forall_lookup (by decide) (by decide) f.type
  have htag := nested_jsonTag h.name
  refine Member.nested_text (nested_memberName h) (h.responseType .go) ?_
  simp only [modelMember, Stack.typeTable, quoted]
  simp +decide [*]

theorem nested_createMember : Nested (createMember f).text := by
  have hbinding : Nested (if f.required = true then "required" else "omitempty") :=
    nested_ite (by decide) (by decide)
  have htag := nested_jsonTag h.name
  refine Member.nested_text (nested_memberName h) h.type ?_
  simp +decide [createMember, quoted, *]

theorem nested_updateMember : Nested (updateMember f).text := by
  have htype : Nested (.ofList (f.type.toList.dropWhile (· = '*'))) :=
    h.type.dropWhile (by simp +contextual [isBracket, closer?, isCloser])
  exact Member.nested_text (nested_memberName h) ((show Nested "*" by decide).append htype)
    (nested_jsonTag h.name)

theorem nested_responseMember : Nested (responseMember f).text :=
  Member.nested_text (nested_memberName h) (h.responseType .go) (nested_jsonTag h.name)

end Members

/-- The members around those of the fields. -/
theorem nested_around {first last : List Member} {fields : List Field} {member : Field → Member}
    (hfirst : ∀ m ∈ first, Nested m.text) (hlast : ∀ m ∈ last, Nested m.text)
    (h : ∀ f ∈ fields, Nested (member f).text) :
    ∀ m ∈ first ++ fields.map member ++ last, Nested m.text := by
  rw [List.forall_mem_append, List.forall_mem_append]
  exact ⟨⟨hfirst, List.forall_mem_map.2 h⟩, hlast⟩

theorem nested_modelMembers {fields : List Field} (h : ∀ f ∈ fields, f.IsNested) :
    ∀ m ∈ modelMembers fields, Nested m.text :=
  nested_around (by decide) (by decide) fun f hf => nested_modelMember (h f hf)

theorem nested_responseMembers {fields : List Field} (h : ∀ f ∈ fields, f.IsNested) :
    ∀ m ∈ responseMembers fields, Nested m.text :=
  nested_around (by decide) (by decide) fun f hf => nested_responseMember (h f hf)

theorem nested_listRequestMembers (p : Pagination) :
    ∀ m ∈ listRequestMembers p, Nested m.text := by
  have hmax := nested_intDigits p.maxPerPage.toInt
  simp only [listRequestMembers, List.forall_mem_cons]
  refine ⟨by decide,
    Member.nested_text (nested_ofList rfl) (nested_ofList rfl) ?_,
    by decide, nofun⟩
  simp +decide [*]

theorem nested_listResponseMembers {entity : String} (h : Nested entity) :
    ∀ m ∈ listResponseMembers entity, Nested m.text := by
  simp only [listResponseMembers, response, List.forall_mem_cons]
  refine ⟨Member.nested_text (nested_ofList rfl) ?_ (nested_jsonTag (by decide)),
    by decide, by decide, by decide, by decide, nofun⟩
  simp +decide [*]

/-! ## Converters -/

theorem isNested_toResponseDecl {entity : String} {fields : List Field} (he : Nested entity)
    (hfields : ∀ f ∈ fields, f.IsNested) : (toResponseDecl entity fields).IsNested := by
  unfold toResponseDecl toResponse response timestampLayout quoted
  have hcopies : Closed (fields.map fun f =>
      .line (memberName f ++ ": entity." ++ memberName f ++ ",")) := by
    refine .lines fun f hf => ?_
    have hmember := nested_memberName (hfields f hf)
    simp +decide [*]
  refine ⟨?_, ?_,
    .block ?_ (.append (.line (.ofList rfl) hcopies) (.line ?_ .nil)) .nil⟩
  all_goals simp +decide [*]

theorem isNested_toListResponseDecl {entity : String} (he : Nested entity) :
    (toListResponseDecl entity).IsNested := by
  unfold toListResponseDecl toListResponse listResponse response toResponse braced
  refine ⟨?_, ?_, .line ?_ <| .block ?_ (.line ?_ .nil) <|
    .line (.ofList rfl) <| closed_ifThen (by decide) (.line (.ofList rfl) .nil) (.line ?_ .nil)⟩
  all_goals simp +decide [*]

/-! ## Methods of the use case -/

section Methods

variable {entity : String} (he : Nested entity)
include he

theorem isNested_usecaseMethod {name signature : String} {body : Program} (hname : Nested name)
    (hsignature : Leads ("(ctx context.Context, " ++ signature) [] []) (hbody : Closed body) :
    (usecaseMethod entity name signature body).IsNested :=
  ⟨nested_ofList rfl, he.append (nested_ofList rfl), hname, nested_iff.2 hsignature, hbody⟩

theorem isNested_createMethod {fields : List Field} (hfields : ∀ f ∈ fields, f.IsNested) :
    (createMethod entity fields).IsNested := by
  have hcopies : Closed (fields.map fun f =>
      .line (memberName f ++ ": req." ++ memberName f ++ ",")) := by
    refine .lines fun f hf => ?_
    have hmember := nested_memberName (hfields f hf)
    simp +decide [*]
  unfold createMethod createRequest
  refine isNested_usecaseMethod he (by decide) ?_ <| .block ?_ hcopies <|
    closed_returnErr (by decide) (by decide) <| .line (.ofList rfl) .nil
  all_goals simp +decide [*]

theorem isNested_getByIdMethod : (getByIdMethod entity).IsNested := by
  refine isNested_usecaseMethod he (by decide) ?_ <|
    .append (closed_loadById he) (.line (.ofList rfl) .nil)
  simp +decide [*]

theorem isNested_updateMethod {fields : List Field} (hfields : ∀ f ∈ fields, f.IsNested) :
    (updateMethod entity fields).IsNested := by
  have hupdates : Closed (fields.map fun f => ifThen ("req." ++ memberName f ++ " != nil")
      [.line ("updates[" ++ quoted f.name ++ "] = *req." ++ memberName f)]) := by
    refine .ops fun f hf => ?_
    have hname := (hfields f hf).name
    have hmember := nested_memberName (hfields f hf)
    unfold quoted
    refine closed_ifThen ?_ (.line ?_ .nil) .nil
    all_goals simp +decide [*]
  unfold updateMethod updateRequest braced
  refine isNested_usecaseMethod he (by decide) ?_ <|
    .append (.append (.append (closed_loadById he) (.line ?_ .nil)) hupdates) <|
    closed_ifThen (by decide) (closed_returnErr (by decide) (by decide) .nil) <|
    .line (.ofList rfl) .nil
  all_goals simp +decide [*]

theorem isNested_deleteMethod : (deleteMethod entity).IsNested := by
  unfold deleteMethod braced
  refine isNested_usecaseMethod he (by decide) ?_ (.line ?_ .nil)
  all_goals simp +decide [*]

theorem isNested_listMethod (p : Pagination) {fields : List Field}
    (hfields : ∀ f ∈ fields, f.IsNested) : (listMethod p entity fields).IsNested := by
  have hcolumn := nested_searchColumn hfields Stack.go.stringType
  unfold listMethod listRequest braced
  refine isNested_usecaseMethod he (by decide) ?_ <| .append
    (.append
      (.line ?_ <| .line ?_ <| .line ?_ <| closed_ifThen (by decide) (.line ?_ .nil) <|
        closed_returnErr (by decide) (by decide) .nil)
      (closed_clampPages p))
    (.line (.ofList rfl) <| closed_returnErr (by decide) (by decide) <|
      .line (.ofList rfl) .nil)
  all_goals simp +decide [*]

end Methods

/-! ## Handlers -/

theorem closed_handlers (p : Pagination) {entity : String} (he : Nested entity) :
    ∀ handler ∈ handlers p entity, Nested handler.1 ∧ Closed handler.2 := by
  have hcreate : Nested (createRequest entity) :=
    ((show Nested "Create" by decide).append he).append (by decide)
  have hupdate : Nested (updateRequest entity) :=
    ((show Nested "Update" by decide).append he).append (by decide)
  have hlist : Nested (listRequest entity) :=
    ((show Nested "List" by decide).append he).append (by decide)
  have hnotFound : Nested (quoted (entity ++ " not found")) :=
    ((show Nested "\"" by decide).append (he.append (by decide))).append (by decide)
  have hid : ∀ {rest : Program}, Closed rest → Closed (readId :: rest) := .line (.ofList rfl)
  simp only [handlers, toListResponse, braced, List.forall_mem_cons]
  refine ⟨⟨by decide, ?_⟩, ⟨by decide, ?_⟩, ⟨by decide, ?_⟩, ⟨by decide, ?_⟩, ⟨by decide, ?_⟩, nofun⟩
  · exact .append (.append (closed_bindRequest hcreate (by decide))
      (closed_callUsecase (by decide) (by decide) closed_internalError))
      (closed_answer (by decide) he .nil)
  · exact .append (.append (hid .nil)
      (closed_callUsecase (by decide) (by decide) (closed_fail (by decide) hnotFound)))
      (closed_answer (by decide) he .nil)
  · exact .append (.append (.append (hid .nil) (closed_bindRequest hupdate (by decide)))
      (closed_callUsecase (by decide) (by decide) closed_internalError))
      (closed_answer (by decide) he .nil)
  · exact hid (closed_ifErr (by decide) closed_internalError
      (.line (.append (.append (.ofList rfl) (.append (.append (.ofList rfl) (.ofList rfl))
        (.ofList rfl))) (.ofList rfl)) .nil))
  · refine .append (.append (.append (closed_bindRequest hlist (by decide))
      (closed_callUsecase (by decide) (by decide) closed_internalError)) (closed_clampPages p))
      (.line ?_ .nil)
    simp +decide [*]

/-! ## Files -/

section Files

variable {b : Blueprint} (h : b.IsNested)
include h

theorem nested_databasePath : Nested (databasePath b.project) :=
  h.project.append (by decide)

theorem nested_packagePath {package : String} (hp : Nested package) :
    Nested (packagePath b package) := by
  have hproject := h.project
  have hmodule := h.entity.module
  simp +decide [packagePath, moduleDir, *]

theorem isNested_modelFile : (modelFile b).IsNested where
  package := nested_ofList rfl
  imports := by
    show ∀ path ∈ ["time", "github.com/google/uuid", "gorm.io/gorm"], Nested path
    decide
  decls := by
    have hentity := h.entity.pascal
    simp only [modelFile, List.forall_mem_cons]
    exact ⟨⟨hentity, nested_modelMembers h.fields⟩,
      ⟨by decide, hentity, by decide, by decide,
        closed_ifThen (by decide) (.line (.ofList rfl) .nil) (.line (.ofList rfl) .nil)⟩, nofun⟩

theorem isNested_dtoFile (p : Pagination) : (dtoFile p b).IsNested where
  package := nested_ofList rfl
  imports := by
    simp only [dtoFile, Imports.paths, List.forall_mem_singleton]
    exact nested_databasePath h
  decls := by
    have hentity := h.entity.pascal
    simp only [dtoFile, createRequest, updateRequest, listRequest, response, listResponse,
      List.forall_mem_cons]
    refine ⟨⟨?_, List.forall_mem_map.2 fun f hf => nested_createMember (h.fields f hf)⟩,
      ⟨?_, List.forall_mem_map.2 fun f hf => nested_updateMember (h.fields f hf)⟩,
      ⟨?_, nested_listRequestMembers p⟩,
      ⟨?_, nested_responseMembers h.fields⟩,
      ⟨?_, nested_listResponseMembers hentity⟩,
      isNested_toResponseDecl hentity h.fields, isNested_toListResponseDecl hentity, nofun⟩
    all_goals simp +decide [*]

theorem isNested_usecaseFile (p : Pagination) : (usecaseFile p b).IsNested where
  package := nested_ofList rfl
  imports := by
    show ∀ path ∈ ["context", "gorm.io/gorm", packagePath b "dtos", databasePath b.project],
      Nested path
    simp only [List.forall_mem_cons]
    exact ⟨by decide, by decide, nested_packagePath h (by decide), nested_databasePath h, nofun⟩
  decls := by
    have hentity := h.entity.pascal
    have husecase : Nested (usecase b.entity.pascal) := hentity.append (by decide)
    simp only [usecaseFile, newUsecase, braced, List.forall_mem_cons]
    refine ⟨⟨husecase, by decide, by decide⟩,
      ⟨?_, ?_, .line ?_ .nil⟩, isNested_createMethod hentity h.fields,
      isNested_getByIdMethod hentity, isNested_updateMethod hentity h.fields,
      isNested_deleteMethod hentity, isNested_listMethod hentity p h.fields, nofun⟩
    all_goals simp +decide [*]

theorem isNested_controllerFile (p : Pagination) : (controllerFile p b).IsNested where
  package := nested_ofList rfl
  imports := by
    show ∀ path ∈ ["net/http", "github.com/gin-gonic/gin", packagePath b "dtos",
      packagePath b "usecases", b.project ++ "/pkg/response"], Nested path
    simp only [List.forall_mem_cons]
    exact ⟨by decide, by decide, nested_packagePath h (by decide),
      nested_packagePath h (by decide), h.project.append (by decide), nofun⟩
  decls := by
    have hentity := h.entity.pascal
    have hcontroller : Nested (controller b.entity.pascal) := hentity.append (by decide)
    have husecase : Nested (usecase b.entity.pascal) := hentity.append (by decide)
    simp only [controllerFile, newController, braced, List.cons_append, List.nil_append,
      List.forall_mem_cons]
    refine ⟨⟨hcontroller, by decide, List.forall_mem_singleton.2 ?_⟩,
      ⟨?_, ?_, .line ?_ .nil⟩, List.forall_mem_map.2 fun handler hm => ?_⟩
    case refine_5 =>
      obtain ⟨hname, hbody⟩ := closed_handlers p hentity handler hm
      exact ⟨by decide, hcontroller, hname, by decide, hbody⟩
    all_goals simp +decide [*]

theorem isNested_wiringFile : (wiringFile b).IsNested where
  package := h.entity.module
  imports := by
    show ∀ path ∈ ["github.com/gin-gonic/gin", "gorm.io/gorm", b.project ++ "/internal/middleware",
      packagePath b "controllers", packagePath b "usecases"], Nested path
    simp only [List.forall_mem_cons]
    exact ⟨by decide, by decide, h.project.append (by decide), nested_packagePath h (by decide),
      nested_packagePath h (by decide), nofun⟩
  decls := by
    have hentity := h.entity.pascal
    have hroute := h.entity.route
    have hroutes : ∀ r ∈ routes, Nested r.text := by decide
    simp only [wiringFile, newUsecase, usecase, newController, controller, quoted,
      Entity.collectionPath, List.forall_mem_singleton]
    refine ⟨by decide, by decide, .line ?_ <| .line ?_ <| .blank <| .line ?_ <|
      .line (.ofList rfl) <| .block (.append (.append (.ofList rfl) (.ofList rfl))
        (.append (.ofList rfl) (.ofList rfl))) (.lines hroutes) .nil⟩
    all_goals simp +decide [*]

theorem isNested_validatorFile : (validatorFile b).IsNested where
  package := nested_ofList rfl
  imports := by
    show ∀ path ∈ ["context", "errors", "gorm.io/gorm", databasePath b.project], Nested path
    simp only [List.forall_mem_cons]
    exact ⟨by decide, by decide, by decide, nested_databasePath h, nofun⟩
  decls := by
    have hmodule := h.entity.module
    have hentity := h.entity.pascal
    have hsignature : Nested validateSignature := by decide
    simp only [validatorFile, braced, quoted, List.forall_mem_cons]
    refine ⟨⟨by decide, by decide, List.forall_mem_singleton.2
        ((show Nested "Validate" by decide).append hsignature)⟩,
      ⟨by decide, by decide, by decide⟩, ⟨by decide, by decide, .line ?_ .nil⟩,
      ⟨by decide, by decide, by decide, by decide, .line (.ofList rfl) (.line (.ofList rfl) .nil)⟩,
      ⟨by decide, by decide, by decide, hsignature,
        .block ?_ (closed_returnErr (by decide) (by decide) .nil) (.line (.ofList rfl) .nil)⟩,
      ⟨by decide, by decide, by decide⟩, ⟨by decide, by decide, .line ?_ .nil⟩,
      ⟨by decide, by decide, by decide, hsignature, .line (.ofList rfl) <| .line ?_ <|
        closed_ifErr (by decide) (.line ?_ .nil) (.line (.ofList rfl) .nil)⟩, nofun⟩
    all_goals simp +decide [*]

/-- The files of a Go module are nested. -/
theorem nested_artifacts (p : Pagination) : ∀ a ∈ artifacts p b, Nested a.content := by
  have hvalidator : ∀ a ∈ if b.options.validators then [validator b] else [], Nested a.content := by
    split
    · exact List.forall_mem_singleton.2 (isNested_validatorFile h).render
    · nofun
  simp only [artifacts, List.cons_append, List.nil_append, List.forall_mem_cons]
  exact ⟨(isNested_modelFile h).render, (isNested_dtoFile h p).render,
    (isNested_usecaseFile h p).render, (isNested_controllerFile h p).render,
    (isNested_wiringFile h).render, hvalidator⟩

end Files

end Scaffold.GoModule
