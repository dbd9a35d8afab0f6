import Scaffold.LaravelModule
import Scaffold.Proofs.ClosedPrograms

/-!
# Nested files of a Laravel module
-/

set_option autoImplicit false

namespace Scaffold.LaravelModule

open Code Text

theorem nested_literal {s : String} (h : Nested s) : Nested (literal s) := by
  simp +decide [literal, *]

/-! ## Source files -/

/-- The texts of the file are nested. -/
structure SourceFile.IsNested (f : SourceFile) : Prop where
  phpNamespace : ∀ ns, f.phpNamespace? = some ns → Nested ns
  uses : ∀ name ∈ f.uses, Nested name
  header : Nested f.header
  body : Closed f.body
  tail : Nested f.tail

theorem closed_namespace (phpNamespace? : Option String) :
    (∀ ns, phpNamespace? = some ns → Nested ns) →
    Closed (match phpNamespace? with
      | some ns => [.line ("namespace " ++ ns ++ ";"), .blank]
      | none => []) := by
  intro h
  cases phpNamespace? with
  | none => exact .nil
  | some ns =>
    have hns := h ns rfl
    refine .line ?_ (.blank .nil)
    simp +decide [*]

theorem SourceFile.IsNested.render {f : SourceFile} (h : f.IsNested) : Nested f.render := by
  have hheader := h.header
  have htail := h.tail
  have hnamespace := closed_namespace f.phpNamespace? h.phpNamespace
  refine Closed.render (.append (.append (.append (.line (.ofList rfl) (.blank .nil)) hnamespace)
    (.lines fun name hname => ?_))
    (.blank (.line (.of_nested hheader) (.block ?_ h.body .nil)))) .php
  · have hname := h.uses name hname
    simp +decide [*]
  · simp +decide [*]

theorem closed_method {signature : String} {body : Program}
    (hs : Leads ("public function " ++ signature) [] []) (hbody : Closed body) :
    Closed (method signature body) :=
  .line hs (.block (.append (.append (.ofList rfl) (.ofList rfl))
    (.append (.ofList rfl) (.ofList rfl))) hbody .nil)

/-! ## The lines of a field -/

section Fields

variable {f : Field} (h : f.IsNested)
include h

theorem nested_castItem {item : String} (hitem : castItem? f = some item) : Nested item := by
  obtain ⟨cast, hcast, rfl⟩ := Option.map_eq_some_iff.1 hitem
  have hname := nested_literal h.name
  have hcast : Nested (literal cast) :=
    nested_literal (TypeTable.of_find? (by decide) hcast)
  simp +decide [*]

theorem nested_columnLine : Nested (columnLine f) := by
  have hcolumn : Nested (Stack.laravel.typeTable.lookup f.type) :=
    TypeTable.forall_lookup (by decide) (by decide) f.type
  have hname := nested_literal h.name
  have hnullable : Nested (if f.required then "" else "->nullable()") :=
    nested_ite (by decide) (by decide)
  simp +decide [columnLine, *]

theorem nested_ruleLine : Nested (ruleLine f) := by
  have hname := nested_literal h.name
  have htype := nested_literal h.type
  have hrule : Nested (if f.required then "$required" else "'nullable'") :=
    nested_ite (by decide) (by decide)
  simp +decide [ruleLine, *]

theorem nested_resourceLine : Nested (resourceLine f) := by
  have hliteral := nested_literal h.name
  have hname := h.name
  simp +decide [resourceLine, *]

end Fields

/-! ## Operations -/

section Operations

variable {entity var : String} (he : Nested entity)
include he

theorem nested_className (a : Action) : Nested (a.className entity) := by
  have hname : Nested a.name := by cases a <;> decide
  exact (hname.append he).append (by decide)

theorem nested_useCaseNamespace : Nested (useCaseNamespace entity) :=
  (show Nested "App\\UseCases\\" by decide).append he

theorem closed_execute (a : Action) : Closed (a.execute entity) := by
  cases a with
  | create =>
    refine closed_method ?_ (.line ?_ .nil)
    all_goals simp +decide [*]
  | update =>
    refine closed_method ?_ (.line (.ofList rfl) (.line (.ofList rfl) .nil))
    simp +decide [*]
  | delete =>
    refine closed_method ?_ (.line (.ofList rfl) .nil)
    simp +decide [*]

theorem closed_showMethod (hvar : Nested var) : Closed (showMethod entity var) := by
  refine closed_method ?_ (.line ?_ .nil)
  all_goals simp +decide [*]

theorem closed_storeMethod : Closed (storeMethod entity) := by
  have huseCase := nested_className he .create
  refine closed_method ?_ (.line (.ofList rfl) (.line ?_ .nil))
  all_goals simp +decide [*]

theorem closed_updateMethod (hvar : Nested var) : Closed (updateMethod entity var) := by
  have huseCase := nested_className he .update
  refine closed_method ?_ (.line ?_ (.line ?_ .nil))
  all_goals simp +decide [*]

theorem closed_destroyMethod (hvar : Nested var) : Closed (destroyMethod entity var) := by
  have huseCase := nested_className he .delete
  refine closed_method ?_ (.line ?_ (.line (.ofList rfl) .nil))
  all_goals simp +decide [*]

end Operations

/-! ## Files -/

section Files

variable {b : Blueprint} (h : b.IsNested)
include h

theorem isNested_modelFile : (modelFile b).IsNested where
  phpNamespace ns hns := by
    obtain rfl := Option.some.inj hns
    decide
  uses := by
    simp only [modelFile]
    decide
  header := ((show Nested "class " by decide).append h.entity.pascal).append (by decide)
  body := by
    have hfillable : Nested (commaList (b.fields.map fun f => literal f.name)) :=
      nested_intercalate (by decide)
        (List.forall_mem_map.2 fun f hf => nested_literal (h.fields f hf).name)
    have hcasts : Nested (commaList (b.fields.filterMap castItem?)) := by
      refine nested_intercalate (by decide) fun item hitem => ?_
      obtain ⟨f, hf, hcast⟩ := List.mem_filterMap.1 hitem
      exact nested_castItem (h.fields f hf) hcast
    refine .line (.ofList rfl) <| .blank <| .line ?_ <| .blank <| .line ?_ .nil
    all_goals simp +decide [*]
  tail := nested_ofList rfl

theorem isNested_migrationFile : (migrationFile b).IsNested where
  phpNamespace ns hns := by cases hns
  uses := by
    simp only [migrationFile]
    decide
  header := by
    simp only [migrationFile]
    decide
  body := by
    have htable := nested_literal h.entity.modulePlural
    have hcolumns : Closed (b.fields.map fun f => .line (columnLine f)) :=
      .lines fun f hf => nested_columnLine (h.fields f hf)
    refine .append (.append
      (closed_method (.append (.ofList rfl) (.ofList rfl)) (.block ?_
        (.append (.append (.line (.ofList rfl) .nil) hcolumns)
          (.line (.ofList rfl) (.line (.ofList rfl) .nil))) .nil))
      (.blank .nil))
      (closed_method (.append (.ofList rfl) (.ofList rfl)) (.line ?_ .nil))
    all_goals simp +decide [*]
  tail := nested_ofList rfl

theorem isNested_requestFile : (requestFile b).IsNested where
  phpNamespace ns hns := by
    obtain rfl := Option.some.inj hns
    decide
  uses := by
    simp only [requestFile]
    decide
  header := ((show Nested "class " by decide).append h.entity.pascal).append (by decide)
  body := by
    have hrules : Closed (b.fields.map fun f => .line (ruleLine f)) :=
      .lines fun f hf => nested_ruleLine (h.fields f hf)
    exact .append (.append
      (closed_method (.append (.ofList rfl) (.ofList rfl)) (.line (.ofList rfl) .nil))
      (.blank .nil))
      (closed_method (.append (.ofList rfl) (.ofList rfl)) (.append
        (.when (.line (.ofList rfl) (.blank .nil)))
        (.block (.append (.ofList rfl) (.ofList rfl)) hrules .nil)))
  tail := nested_ofList rfl

theorem isNested_resourceFile : (resourceFile b).IsNested where
  phpNamespace ns hns := by
    obtain rfl := Option.some.inj hns
    decide
  uses := by
    simp only [resourceFile]
    decide
  header := ((show Nested "class " by decide).append h.entity.pascal).append (by decide)
  body := by
    have hlines : Closed (b.fields.map fun f => .line (resourceLine f)) :=
      .lines fun f hf => nested_resourceLine (h.fields f hf)
    exact closed_method (.append (.ofList rfl) (.ofList rfl)) (.block
      (.append (.ofList rfl) (.ofList rfl))
      (.append (.append (.line (.ofList rfl) .nil) hlines)
        (.line (.ofList rfl) (.line (.ofList rfl) .nil))) .nil)
  tail := nested_ofList rfl

theorem isNested_useCaseFile (a : Action) : (useCaseFile a b).IsNested where
  phpNamespace ns hns := by
    obtain rfl := Option.some.inj hns
    exact nested_useCaseNamespace h.entity.pascal
  uses := by
    simp only [useCaseFile, List.forall_mem_singleton]
    exact (show Nested "App\\Models\\" by decide).append h.entity.pascal
  header := (show Nested "class " by decide).append (nested_className h.entity.pascal a)
  body := closed_execute h.entity.pascal a
  tail := nested_ofList rfl

theorem closed_indexMethod (p : Pagination) : Closed (indexMethod p b) := by
  have hentity := h.entity.pascal
  have hcolumn := nested_searchColumn h.fields Stack.laravel.stringType
  have hperPage := nested_intDigits p.defaultPerPage.toInt
  refine closed_method (.append (.ofList rfl) (.ofList rfl)) <| .line ?_ <| .blank <|
    .block (.append (.append (.ofList rfl) (.ofList rfl)) (.append (.ofList rfl) (.ofList rfl)))
      (.line ?_ .nil) <| .blank <| .line (.ofList rfl) <| .indented (.line ?_ .nil) <| .blank <|
    .line ?_ .nil
  all_goals simp +decide [*]

theorem isNested_controllerFile (p : Pagination) : (controllerFile p b).IsNested where
  phpNamespace ns hns := by
    obtain rfl := Option.some.inj hns
    decide
  uses := by
    have hentity := h.entity.pascal
    have huseCases : ∀ name ∈ Action.all.map fun a =>
        useCaseNamespace b.entity.pascal ++ "\\" ++ a.className b.entity.pascal, Nested name :=
      List.forall_mem_map.2 fun a _ =>
        ((nested_useCaseNamespace hentity).append (by decide)).append (nested_className hentity a)
    simp only [controllerFile, List.forall_mem_append, List.forall_mem_cons]
    refine ⟨⟨⟨?_, ?_, ?_, nofun⟩, huseCases⟩,
      by decide, by decide, nofun⟩
    all_goals simp +decide [*]
  header := ((show Nested "class " by decide).append h.entity.pascal).append (by decide)
  body := by
    have hentity := h.entity.pascal
    have hvar : Nested ("$" ++ b.entity.camel) := (show Nested "$" by decide).append h.entity.camel
    refine .separated ?_
    simp only [List.forall_mem_cons]
    exact ⟨closed_indexMethod h p, closed_showMethod hentity hvar, closed_storeMethod hentity,
      closed_updateMethod hentity hvar, closed_destroyMethod hentity hvar, nofun⟩
  tail := nested_ofList rfl

/-- The files of a Laravel module are nested. -/
theorem nested_artifacts (p : Pagination) : ∀ a ∈ artifacts p b, Nested a.content := by
  have huseCases : ∀ a ∈ Action.all.map fun a => useCase a b, Nested a.content :=
    List.forall_mem_map.2 fun a _ => (isNested_useCaseFile h a).render
  simp only [artifacts, List.cons_append, List.nil_append, List.forall_mem_cons]
  exact ⟨(isNested_modelFile h).render, (isNested_migrationFile h).render,
    (isNested_controllerFile h p).render, (isNested_requestFile h).render,
    (isNested_resourceFile h).render, huseCases⟩

end Files

end Scaffold.LaravelModule
