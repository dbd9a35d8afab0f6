import Scaffold.FlutterFeature
import Scaffold.Proofs.ClosedPrograms

/-!
# Nested files of a Flutter feature
-/

set_option autoImplicit false

namespace Scaffold.FlutterFeature

open Code Text

/-! ## Source files -/

/-- The texts of the file are nested. -/
structure SourceFile.IsNested (f : SourceFile) : Prop where
  imports : ∀ target ∈ f.imports, Nested target
  parts : ∀ part ∈ f.parts, Nested part
  decls : ∀ P ∈ f.decls, Closed P

theorem SourceFile.IsNested.render {f : SourceFile} (h : f.IsNested) : Nested f.render := by
  have himports : Closed (f.imports.map fun target => .line ("import '" ++ target ++ "';")) := by
    refine .lines fun target ht => ?_
    have htarget := h.imports target ht
    simp +decide [*]
  have hparts : Closed (f.parts.map fun part => .line ("part '" ++ part ++ "';")) := by
    refine .lines fun part hp => ?_
    have hpart := h.parts part hp
    simp +decide [*]
  refine Closed.render (.separated ?_) .dart
  simp only [List.forall_mem_append, List.forall_mem_singleton]
  refine ⟨⟨himports, ?_⟩, h.decls⟩
  split
  · nofun
  · exact List.forall_mem_singleton.2 hparts

/-- The texts of the parameter are nested. -/
structure Param.IsNested (p : Param) : Prop where
  name : Nested p.name
  type : Nested p.type
  jsonKey : ∀ key, p.jsonKey? = some key → Nested key

theorem nested_jsonKey (jsonKey? : Option String) : (∀ key, jsonKey? = some key → Nested key) →
    Nested (match jsonKey? with
      | some key => "@JsonKey(name: '" ++ key ++ "') "
      | none => "") := by
  intro h
  cases jsonKey? with
  | none => exact nested_ofList rfl
  | some key =>
    have hkey := h key rfl
    simp +decide [*]

theorem Param.IsNested.text {p : Param} (h : p.IsNested) : Nested p.text := by
  have hkey := nested_jsonKey p.jsonKey? h.jsonKey
  have hrequired : Nested (if p.required then "required " else "") :=
    nested_ite (by decide) (by decide)
  exact ((((hkey.append hrequired).append h.type).append (by decide)).append h.name).append
    (by decide)

theorem closed_classDecl {header : String} {body : Program} (hheader : Nested header)
    (hbody : Closed body) : Closed (classDecl header body) := by
  refine .block ?_ hbody .nil
  simp +decide [*]

theorem closed_freezedClass {name : String} {params : List Param} (hname : Nested name)
    (hparams : ∀ p ∈ params, p.IsNested) : Closed (freezedClass name params) := by
  have hlines : Closed (params.map fun p => .line p.text) :=
    .lines fun p hp => (hparams p hp).text
  refine .line (.ofList rfl) <| closed_classDecl ((hname.append (by decide)).append hname) <|
    .block ?_ hlines <| .blank <| .line ?_ .nil
  all_goals simp +decide [*]

theorem closed_asyncMethod {result name params : String} {body rest : Program}
    (hresult : Nested result) (hname : Nested name) (hparams : Nested params) (hbody : Closed body)
    (hrest : Closed rest) : Closed (asyncMethod result name params body :: rest) := by
  refine .block ?_ hbody hrest
  simp +decide [*]

/-! ## The model -/

section Fields

variable {f : Field} (h : f.IsNested)
include h

theorem nested_memberName : Nested (memberName f) := h.name.camel

theorem nested_nullableType : Nested (nullableType f) := Stack.nested_nullable h.type .flutter

theorem isNested_fieldParam : (fieldParam f).IsNested where
  name := nested_memberName h
  type := nested_ite h.type (nested_nullableType h)
  jsonKey key hkey := by
    simp only [fieldParam] at hkey
    split at hkey
    · cases hkey
    · exact Option.some.inj hkey ▸ h.name

theorem nested_entryLine : Nested (entryLine f) := by
  have hname := h.name
  have hmember := nested_memberName h
  have hencoder : Nested (Stack.flutter.typeTable.lookup f.type) :=
    TypeTable.forall_lookup (by decide) (by decide) f.type
  have hencoded : Nested (if (Stack.flutter.typeTable.lookup f.type).isEmpty then "" else
      "!" ++ Stack.flutter.typeTable.lookup f.type) :=
    nested_ite (by decide) ((show Nested "!" by decide).append hencoder)
  have hentry : Nested ("if (" ++ memberName f ++ " != null) '" ++ f.name ++ "': " ++
      memberName f) := by
    simp +decide [*]
  exact (hentry.append hencoded).append (by decide)

end Fields

theorem closed_updateClass {name : String} {fields : List Field} (hname : Nested name)
    (hfields : ∀ f ∈ fields, f.IsNested) : Closed (updateClass name fields) := by
  have hfinals : Closed (fields.map fun f =>
      .line ("final " ++ nullableType f ++ " " ++ memberName f ++ ";")) := by
    refine .lines fun f hf => ?_
    have htype := nested_nullableType (hfields f hf)
    have hmember := nested_memberName (hfields f hf)
    simp +decide [*]
  have hentries : Closed (fields.map fun f => .line (entryLine f)) :=
    .lines fun f hf => nested_entryLine (hfields f hf)
  have harguments : Nested (if fields.isEmpty then "" else
      braced (String.intercalate ", " (fields.map fun f => "this." ++ memberName f))) := by
    have hlist : Nested (String.intercalate ", " (fields.map fun f => "this." ++ memberName f)) :=
      nested_intercalate (by decide) (List.forall_mem_map.2 fun f hf =>
        (show Nested "this." by decide).append (nested_memberName (hfields f hf)))
    refine nested_ite (by decide) ?_
    simp +decide [braced, *]
  refine closed_classDecl hname <| .append (.append hfinals (.when (.blank .nil))) <| .line ?_ <|
    .blank <| .block (by decide) hentries .nil
  generalize (if fields.isEmpty then "" else _) = arguments at harguments ⊢
  simp +decide [*]

/-! ## Files -/

section Files

variable {b : Blueprint} (h : b.IsNested)
include h

theorem isNested_modelFile : (modelFile b).IsNested where
  imports := by
    simp only [modelFile]
    decide
  parts := by
    have hmodule := h.entity.module
    simp only [modelFile, modelStem, List.forall_mem_cons]
    exact ⟨(hmodule.append (by decide)).append (by decide),
      (hmodule.append (by decide)).append (by decide), nofun⟩
  decls := by
    have he := h.entity.pascal
    have hparams : ∀ p ∈ b.fields.map fieldParam, p.IsNested :=
      List.forall_mem_map.2 fun f hf => isNested_fieldParam (h.fields f hf)
    have hid : Param.IsNested ⟨"id", "String", true, none⟩ := ⟨by decide, by decide, nofun⟩
    have htime : ∀ name key : String, Nested name → Nested key →
        Param.IsNested ⟨name, "DateTime", true, some key⟩ := fun name key hname hkey =>
      ⟨hname, nested_ofList rfl, fun k hk => Option.some.inj hk ▸ hkey⟩
    simp only [modelFile, createRequest, updateRequest, List.forall_mem_cons]
    refine ⟨closed_freezedClass he ?_,
      closed_freezedClass (((show Nested "Create" by decide).append he).append (by decide)) hparams,
      closed_updateClass (((show Nested "Update" by decide).append he).append (by decide)) h.fields,
      nofun⟩
    simp only [entityParams, List.forall_mem_append, List.forall_mem_cons]
    exact ⟨⟨⟨hid, nofun⟩, hparams⟩, htime _ _ (by decide) (by decide),
      htime _ _ (by decide) (by decide), nofun⟩

theorem isNested_repositoryFile (p : Pagination) : (repositoryFile p b).IsNested where
  imports := by
    simp only [repositoryFile, modelStem, List.forall_mem_cons]
    exact ⟨by decide, ((show Nested "../models/" by decide).append
      (h.entity.module.append (by decide))).append (by decide), nofun⟩
  parts := nofun
  decls := by
    have he := h.entity.pascal
    have hcollection : Nested b.entity.collectionPath :=
      (show Nested "/" by decide).append h.entity.route
    have hitem : Nested (b.entity.itemPath idPlaceholder) :=
      (hcollection.append (by decide)).append (by decide)
    have hpage := nested_intDigits p.defaultPage.toInt
    have hperPage := nested_intDigits p.defaultPerPage.toInt
    have hrequest : ∀ verb path args : String, Nested verb → Nested path → Nested args →
        Nested (request verb path args) := by
      intro verb path args hverb hpath hargs
      simp +decide [request, *]
    have hone : ∀ verb path args : String, Nested verb → Nested path → Nested args →
        Closed (requestOne b.entity.pascal verb path args) := by
      intro verb path args hverb hpath hargs
      have hrequest := hrequest verb path args hverb hpath hargs
      refine .line ?_ (.line ?_ .nil)
      all_goals simp +decide [*]
    have hgetAll : Closed [getAllMethod p b] := by
      unfold getAllMethod braced
      refine closed_asyncMethod ?_ (by decide) ?_
        (.enclosed (by decide) (.line ?_ <| .block (by decide)
          (.line (.ofList rfl) <| .line (.ofList rfl) <| .line (.ofList rfl) .nil) .nil) <|
          .line (.ofList rfl) <| .line ?_ .nil) .nil
      all_goals simp +decide [*]
    simp only [repositoryFile, createRequest, updateRequest, List.forall_mem_singleton]
    refine closed_classDecl (he.append (by decide)) (.separated ?_)
    simp only [List.forall_mem_cons]
    refine ⟨.line (.ofList rfl) .nil, .line ?_ .nil, hgetAll,
      closed_asyncMethod he (by decide) (by decide) (hone _ _ _ (by decide) hitem (by decide)) .nil,
      closed_asyncMethod he (by decide) ?_
        (hone _ _ _ (by decide) hcollection (by decide)) .nil,
      closed_asyncMethod he (by decide) ?_
        (hone _ _ _ (by decide) hitem (by decide)) .nil,
      closed_asyncMethod (by decide) (by decide) (by decide)
        (.line (.of_nested (hrequest _ _ _ (by decide) hitem (by decide))) .nil) .nil, nofun⟩
    all_goals simp +decide [*]

theorem isNested_providerFile : (providerFile b).IsNested where
  imports := by
    have hmodule := h.entity.module
    simp only [providerFile, modelStem, repositoryStem, List.forall_mem_cons]
    exact ⟨by decide, ((show Nested "../data/models/" by decide).append
      (hmodule.append (by decide))).append (by decide),
      ((show Nested "../data/repositories/" by decide).append
        (hmodule.append (by decide))).append (by decide), nofun⟩
  parts := nofun
  decls := by
    have he := h.entity.pascal
    have hcamel := h.entity.camel
    have hquery : ∀ query : String, Nested query → Closed (fromRepository b.entity query) := by
      intro query hquery
      refine .line ?_ (.line ?_ .nil)
      all_goals simp +decide [*]
    simp only [providerFile, List.forall_mem_cons]
    refine ⟨.block ?_ (.line (by decide) .nil) .nil, .block ?_ (hquery _ (by decide)) .nil,
      .block ?_ (hquery _ (by decide)) .nil, nofun⟩
    all_goals simp +decide [*]

theorem isNested_screenFile : (screenFile b).IsNested where
  imports := by
    simp only [screenFile, providerStem, List.forall_mem_cons]
    exact ⟨by decide, by decide, ((show Nested "../providers/" by decide).append
      (h.entity.module.append (by decide))).append (by decide), nofun⟩
  parts := nofun
  decls := by
    have he := h.entity.pascal
    have hcamel := h.entity.camel
    have hlist : ∀ rest : Program, Closed rest → Closed (listView :: rest) := fun rest hrest =>
      .block (by decide) (.line (by decide) <| .block (by decide)
        (.line (by decide) <| .block (by decide)
          (.line (by decide) <| .line (by decide) .nil) .nil) .nil) hrest
    have hpage : Closed [page b.entity.pascal] := by
      refine .block (by decide) (.line ?_ <| .block (by decide)
        (hlist _ <| .line (by decide) <| .line (by decide) .nil) <|
        .block (by decide) (.line (by decide) <| .line (by decide) .nil)
          .nil) .nil
      simp +decide [*]
    simp only [screenFile, braced, List.forall_mem_singleton]
    refine closed_classDecl ((he.append (by decide)).append (by decide)) <| .line ?_ <| .blank <|
      .line (by decide) <| .block (by decide) (.line ?_ <| .blank hpage) .nil
    all_goals simp +decide [*]

/-- The files of a Flutter feature are nested. -/
theorem nested_artifacts (p : Pagination) : ∀ a ∈ artifacts p b, Nested a.content := by
  simp only [artifacts, List.forall_mem_cons]
  exact ⟨(isNested_modelFile h).render, (isNested_repositoryFile h p).render,
    (isNested_providerFile h).render, (isNested_screenFile h).render, nofun⟩

end Files

end Scaffold.FlutterFeature
