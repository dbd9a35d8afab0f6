import Scaffold.Proofs.ClosedPrograms
import Scaffold.ReactFeature

/-!
# Nested files of a React feature
-/

set_option autoImplicit false

namespace Scaffold.ReactFeature

open Code Text

/-! ## Source files -/

/-- The texts of the import are nested. -/
structure Import.IsNested (i : Import) : Prop where
  names : ∀ name ∈ i.names, Nested name
  source : Nested i.source

theorem Import.IsNested.closed {i : Import} (h : i.IsNested) : Closed i.program := by
  have hopening : Nested (if i.types then "import type " else "import ") :=
    nested_ite (by decide) (by decide)
  have hnames : Nested (String.intercalate ", " i.names) := nested_intercalate (by decide) h.names
  have hsource := h.source
  simp only [Import.program, braced]
  split
  · refine .block ?_ (.lines fun name hname => ?_) .nil
    · simp +decide [*]
    · have hname := h.names name hname
      simp +decide [*]
  · refine .line ?_ .nil
    simp +decide [*]

theorem Member.nested_text {m : Member} (hname : Nested m.name) (htype : Nested m.type) :
    Nested m.text := by
  have hmark : Nested (if m.optional then "?" else "") := nested_ite (by decide) (by decide)
  simp +decide [Member.text, *]

/-- The texts of the method are nested. -/
structure Method.IsNested (m : Method) : Prop where
  name : Nested m.name
  params : Nested m.params
  result : Nested m.result

theorem Method.IsNested.closed {m : Method} (h : m.IsNested) : Closed m.program := by
  obtain ⟨hname, hparams, hresult⟩ := h
  refine .line ?_ (.indented (.line ?_ .nil) .nil)
  all_goals simp +decide [*]

namespace Decl

/-- The texts of the declaration are nested. -/
def IsNested : Decl → Prop
  | interface name members => Nested name ∧ ∀ m ∈ members, Nested m.text
  | constant name value => Nested name ∧ Nested value
  | object name methods => Nested name ∧ ∀ m ∈ methods, m.IsNested
  | function name params body => Nested name ∧ Nested params ∧ Closed body

theorem IsNested.closed {d : Decl} (h : d.IsNested) : Closed d.program := by
  cases d with
  | interface name members =>
    obtain ⟨hname, hmembers⟩ := h
    refine .block ?_ (.lines hmembers) .nil
    simp +decide [*]
  | constant name value =>
    obtain ⟨hname, hvalue⟩ := h
    refine .line ?_ .nil
    simp +decide [*]
  | object name methods =>
    obtain ⟨hname, hmethods⟩ := h
    refine .block ?_ (.separated (List.forall_mem_map.2 fun m hm => (hmethods m hm).closed)) .nil
    simp +decide [*]
  | function name params body =>
    obtain ⟨hname, hparams, hbody⟩ := h
    refine .block ?_ hbody .nil
    simp +decide [*]

end Decl

/-- The texts of the file are nested. -/
structure SourceFile.IsNested (f : SourceFile) : Prop where
  imports : ∀ i ∈ f.imports, i.IsNested
  decls : ∀ d ∈ f.decls, d.IsNested

theorem SourceFile.IsNested.render {f : SourceFile} (h : f.IsNested) : Nested f.render := by
  refine Closed.render (.separated fun P hP => ?_) .typescript
  rcases List.mem_append.1 hP with hP | hP
  · split at hP
    · cases hP
    · obtain rfl := List.mem_singleton.1 hP
      exact .each fun i hi => (h.imports i hi).closed
  · obtain ⟨d, hd, rfl⟩ := List.mem_map.1 hP
    exact (h.decls d hd).closed

theorem closed_barrel {sources : List String} (h : ∀ source ∈ sources, Nested source) :
    Closed (barrel sources) := by
  refine .lines fun source hsource => ?_
  have hsource := h source hsource
  simp +decide [*]

theorem closed_element {tag attributes : String} {children rest : Program} (htag : Nested tag)
    (hattributes : Nested attributes) (hchildren : Closed children) (hrest : Closed rest) :
    Closed (element tag children attributes :: rest) := by
  refine .block ?_ hchildren hrest
  simp +decide [*]

/-! ## Names -/

section Names

variable {entity : String} (he : Nested entity)
include he

theorem nested_createRequest : Nested (createRequest entity) :=
  ((show Nested "Create" by decide).append he).append (by decide)

theorem nested_updateRequest : Nested (updateRequest entity) :=
  ((show Nested "Update" by decide).append he).append (by decide)

theorem nested_listParams : Nested (listParams entity) := he.append (by decide)

theorem nested_listResponse : Nested (listResponse entity) := he.append (by decide)

theorem nested_useCreate : Nested (useCreate entity) :=
  (show Nested "useCreate" by decide).append he

theorem nested_useOne : Nested (useOne entity) := (show Nested "use" by decide).append he

theorem nested_useList : Nested (useList entity) :=
  ((show Nested "use" by decide).append he).append (by decide)

theorem nested_useUpdate : Nested (useUpdate entity) :=
  (show Nested "useUpdate" by decide).append he

theorem nested_useDelete : Nested (useDelete entity) :=
  (show Nested "useDelete" by decide).append he

end Names

/-! ## The data -/

theorem nested_fieldMember {f : Field} (h : f.IsNested) : Nested (fieldMember f).text :=
  Member.nested_text h.name h.type

theorem nested_updateMember {f : Field} (h : f.IsNested) : Nested (updateMember f).text :=
  Member.nested_text h.name h.type

theorem closed_inputElement {f : Field} (h : f.IsNested) : Closed (inputElement f) := by
  have hname := h.name
  have hinput : Nested (Stack.react.typeTable.lookup f.type) :=
    TypeTable.forall_lookup (by decide) (by decide) f.type
  have hplaceholder := h.name.pascal
  unfold inputElement quoted
  refine .line (.ofList rfl) <| .indented (.append (.line ?_ <| .line ?_ <| .line ?_ .nil)
    (.when (.line (.ofList rfl) .nil))) <| .line (.ofList rfl) .nil
  all_goals simp +decide [*]

section Files

variable {b : Blueprint} (h : b.IsNested)
include h

theorem isNested_typesFile : (typesFile b).IsNested where
  imports := nofun
  decls := by
    have he := h.entity.pascal
    have hmembers : ∀ m ∈ b.fields.map fieldMember, Nested m.text :=
      List.forall_mem_map.2 fun f hf => nested_fieldMember (h.fields f hf)
    have hupdates : ∀ m ∈ b.fields.map updateMember, Nested m.text :=
      List.forall_mem_map.2 fun f hf => nested_updateMember (h.fields f hf)
    have hitems : Nested (Member.text ⟨"items", b.entity.pascal ++ "[]", false⟩) :=
      Member.nested_text (nested_ofList rfl) (he.append (by decide))
    simp only [typesFile, List.forall_mem_cons]
    refine ⟨⟨he, ?_⟩, ⟨nested_createRequest he, hmembers⟩, ⟨nested_updateRequest he, hupdates⟩,
      ⟨nested_listParams he, by decide⟩, ⟨nested_listResponse he, ?_⟩, nofun⟩
    · simp only [entityMembers, List.forall_mem_append]
      exact ⟨⟨by decide, hmembers⟩, by decide⟩
    · exact List.forall_mem_cons.2 ⟨hitems, by decide⟩

theorem isNested_formFile : (formFile b).IsNested where
  imports := by
    have he := h.entity.pascal
    simp only [formFile, List.forall_mem_cons]
    exact ⟨⟨List.forall_mem_singleton.2 (nested_useCreate he), nested_ofList rfl⟩,
      ⟨List.forall_mem_singleton.2 (nested_createRequest he), nested_ofList rfl⟩, nofun⟩
  decls := by
    have he := h.entity.pascal
    have hcreate := nested_useCreate he
    have hrequest := nested_createRequest he
    have hinputs : Closed (Program.each b.fields inputElement) :=
      .each fun f hf => closed_inputElement (h.fields f hf)
    have hbutton : Closed [submitButton] :=
      closed_element (by decide) (by decide) (.line (by decide) .nil) .nil
    simp only [formFile, List.forall_mem_singleton]
    refine ⟨he.append (by decide), by decide, .line ?_ <| .blank <| .block (by decide)
      (.line (.ofList rfl) <| .line (.ofList rfl) <| .line ?_ <| .line (.ofList rfl) .nil) <|
      .blank <| .block (by decide) (closed_element (by decide) (by decide)
        (.append hinputs hbutton) .nil) .nil⟩
    all_goals simp +decide [*]

/-! ## The behaviour -/

theorem isNested_apiFile : (apiFile b).IsNested where
  imports := by
    have he := h.entity.pascal
    simp only [apiFile, List.forall_mem_cons]
    exact ⟨⟨by decide, nested_ofList rfl⟩, ⟨by
      simp only [List.forall_mem_cons]
      exact ⟨he, nested_createRequest he, nested_updateRequest he, nested_listParams he,
        nested_listResponse he, nofun⟩, nested_ofList rfl⟩, nofun⟩
  decls := by
    have he := h.entity.pascal
    have hobject : Nested (apiObject b.entity) := h.entity.camel.append (by decide)
    have hroute : Nested b.entity.collectionPath := (show Nested "/" by decide).append h.entity.route
    have hcreate := nested_createRequest he
    have hupdate := nested_updateRequest he
    have hparams := nested_listParams he
    have hresponse := nested_listResponse he
    have hitem : Nested itemUrl := by decide
    simp only [apiFile, apiMethods, braced, List.forall_mem_cons]
    refine ⟨⟨by decide, hroute⟩, ⟨hobject, ?_⟩, nofun⟩
    simp only [List.forall_mem_cons]
    refine ⟨⟨nested_ofList rfl, ?_, ?_⟩,
      ⟨nested_ofList rfl, nested_ofList rfl, ?_⟩,
      ⟨nested_ofList rfl, ?_, ?_⟩,
      ⟨nested_ofList rfl, ?_, ?_⟩,
      ⟨nested_ofList rfl, nested_ofList rfl, ?_⟩, nofun⟩
    all_goals simp +decide [*]

end Files

theorem isNested_queryHook {name params : String} {settings : List String} (hname : Nested name)
    (hparams : Nested params) (hsettings : ∀ s ∈ settings, Nested s) :
    (queryHook name params settings).IsNested :=
  ⟨hname, hparams, .block (.append (.ofList rfl) (.ofList rfl)) (.lines (s := id) hsettings) .nil⟩

/-- The function may go on in further lines. -/
theorem isNested_mutationHook {name mutationFn : String} {continued : List String}
    (hname : Nested name) (hfn : Nested mutationFn) (hcontinued : ∀ s ∈ continued, Nested s) :
    (mutationHook name mutationFn continued).IsNested :=
  ⟨hname, by decide, .line (.ofList rfl) <| .block (.append (.ofList rfl) (.ofList rfl))
    (.line (.of_nested hfn) <| .indented (.lines (s := id) hcontinued) <|
      .line (by decide) .nil) .nil⟩

section Files

variable {b : Blueprint} (h : b.IsNested)
include h

theorem isNested_hooksFile : (hooksFile b).IsNested where
  imports := by
    have he := h.entity.pascal
    simp only [hooksFile, List.forall_mem_cons]
    exact ⟨⟨by decide, nested_ofList rfl⟩,
      ⟨List.forall_mem_singleton.2 (h.entity.camel.append (by decide)), nested_ofList rfl⟩, ⟨by
      simp only [List.forall_mem_cons]
      exact ⟨nested_createRequest he, nested_updateRequest he, nested_listParams he, nofun⟩,
        nested_ofList rfl⟩, nofun⟩
  decls := by
    have he := h.entity.pascal
    have hobject : Nested (apiObject b.entity) := h.entity.camel.append (by decide)
    have hcreate := nested_createRequest he
    have hupdate := nested_updateRequest he
    have hparams := nested_listParams he
    have hcall : ∀ method args : String, Nested method → Nested args →
        Nested (apiObject b.entity ++ "." ++ method ++ "(" ++ args ++ "),") := by
      intro method args hmethod hargs
      simp +decide [*]
    have hquery : Nested ("params?: " ++ listParams b.entity.pascal) :=
      (show Nested "params?: " by decide).append hparams
    simp only [hooksFile, List.forall_mem_cons]
    refine ⟨⟨by decide, h.entity.modulePlural⟩,
      isNested_queryHook (nested_useList he) hquery ?_,
      isNested_queryHook (nested_useOne he) (by decide) ?_,
      isNested_mutationHook (nested_useCreate he) ?_ nofun,
      isNested_mutationHook (nested_useUpdate he) ?_
        (List.forall_mem_singleton.2 (hcall _ _ (by decide) (by decide))),
      isNested_mutationHook (nested_useDelete he) ?_ nofun, nofun⟩
    · simp only [List.forall_mem_cons]
      exact ⟨by decide, (show Nested "queryFn: () => " by decide).append
        (hcall _ _ (by decide) (by decide)), nofun⟩
    · simp only [List.forall_mem_cons]
      exact ⟨by decide, (show Nested "queryFn: () => " by decide).append
        (hcall _ _ (by decide) (by decide)), by decide, nofun⟩
    · have hcall := hcall "create" "data" (by decide) (by decide)
      refine .append ?_ hcall
      simp +decide [*]
    · simp +decide [braced, *]
    · exact (show Nested "mutationFn: (id: string) => " by decide).append
        (hcall _ _ (by decide) (by decide))

theorem isNested_listFile : (listFile b).IsNested where
  imports := by
    have he := h.entity.pascal
    simp only [listFile, List.forall_mem_cons]
    exact ⟨⟨by
      simp only [List.forall_mem_cons]
      exact ⟨nested_useList he, nested_useDelete he, nofun⟩, nested_ofList rfl⟩,
      ⟨List.forall_mem_singleton.2 he, nested_ofList rfl⟩, nofun⟩
  decls := by
    have he := h.entity.pascal
    have huseList := nested_useList he
    have huseDelete := nested_useDelete he
    have hitem : Closed [itemElement] :=
      closed_element (by decide) (by decide)
        (.line (by decide) (.line (by decide) .nil)) .nil
    simp only [listFile, braced, List.forall_mem_singleton]
    refine ⟨he.append (by decide), by decide, .line ?_ <| .line ?_ <| .blank <|
      .line (.ofList rfl) <| .line ?_ <| .blank <|
      .block (by decide) (.block (by decide) (.line (.ofList rfl) .nil) .nil) <|
      .blank <| .block (by decide) (closed_element (by decide) (by decide) (.line ?_ <|
        closed_element (by decide) (by decide) (.block ?_ hitem .nil) .nil) .nil) .nil⟩
    all_goals simp +decide [*]

theorem nested_index : Nested (index b).content := by
  have he := h.entity.pascal
  refine (closed_barrel ?_).render .typescript
  simp only [indexSources, List.forall_mem_cons]
  exact ⟨by decide, by decide, by decide,
    ((show Nested "./components/" by decide).append he).append (by decide),
    ((show Nested "./components/" by decide).append he).append (by decide), nofun⟩

/-- The files of a React feature are nested. -/
theorem nested_artifacts : ∀ a ∈ artifacts b, Nested a.content := by
  simp only [artifacts, List.forall_mem_cons]
  exact ⟨(isNested_typesFile h).render, (isNested_apiFile h).render, (isNested_hooksFile h).render,
    (isNested_listFile h).render, (isNested_formFile h).render, nested_index h, nofun⟩

end Files

end Scaffold.ReactFeature
