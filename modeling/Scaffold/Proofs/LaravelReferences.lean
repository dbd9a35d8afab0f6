import Scaffold.Proofs.Containment
import Scaffold.Proofs.SourceFiles

/-!
# The classes that a Laravel module uses

The autoloader looks for a class below `App` in the directory of its namespace (`classPath`). Every
such class that a file of the module uses is in the file that it is looked for in
(`exists_declares_of_mem_uses`).
-/

set_option autoImplicit false

namespace Scaffold.LaravelModule

open Code

/-- The path that a class below `App` is loaded from. -/
def classPath (name : String) : String :=
  "app" ++ .ofList ((name.toList.drop 3).map fun c => if c = '\\' then '/' else c) ++ ".php"

/-- A class of the application, not of the framework. -/
def IsOwn (name : String) : Prop := "App\\".toList <+: name.toList

/-- The lines of the file declare the class with this full name. -/
def SourceFile.Declares (f : SourceFile) (name : String) : Prop :=
  ∃ phpNamespace className, name = phpNamespace ++ "\\" ++ className ∧ '\\' ∉ className.toList ∧
    "namespace " ++ phpNamespace ++ ";" ∈ f.lines ∧
    ("class " ++ className ∈ f.lines ∨
      ∃ parent, "class " ++ className ++ " extends " ++ parent ∈ f.lines)

/-! ## The lines of a file -/

theorem SourceFile.namespace_mem_lines {f : SourceFile} {phpNamespace : String}
    (h : f.phpNamespace? = some phpNamespace) : "namespace " ++ phpNamespace ++ ";" ∈ f.lines :=
  mem_lines (by simp [program, h])

theorem SourceFile.header_mem_lines (f : SourceFile) : f.header ∈ f.lines :=
  mem_lines (by simp [program])

/-- The lines with the uses are those of the uses; the others begin otherwise. -/
theorem SourceFile.use_mem_lines_iff {f : SourceFile} (h : f.header.toList.head? ≠ some 'u')
    {name : String} : "use " ++ name ++ ";" ∈ f.lines ↔ name ∈ f.uses := by
  constructor
  · intro hmem
    rw [lines, Op.allWritten_eq, List.mem_flatMap] at hmem
    obtain ⟨op, hop, hwritten⟩ := hmem
    generalize hline : "use " ++ name ++ ";" = line at hwritten
    have hhead : line.toList.head? = some 'u' := by simp [← hline]
    replace hwritten : line ∈ op.heads := by
      rcases Op.head_of_mem_written hwritten with hmem | rfl | ⟨s, rfl⟩
      · exact hmem
      · cases hhead
      · simp [Indent.php, Indent.unit] at hhead
    simp only [program, List.mem_append, List.mem_cons, List.mem_map, List.not_mem_nil,
      or_false] at hop
    rcases hop with (((rfl | rfl) | hop) | ⟨other, hother, rfl⟩) | rfl | rfl | rfl
    · rw [List.mem_singleton.1 hwritten] at hhead
      cases hhead
    · cases hwritten
    · split at hop
      · rcases List.mem_pair.1 hop with rfl | rfl
        · rw [List.mem_singleton.1 hwritten] at hhead
          simp at hhead
        · cases hwritten
      · cases hop
    · have huse := hline.trans (List.mem_singleton.1 hwritten)
      rw [String.append_left_inj, String.append_right_inj] at huse
      rwa [huse]
    · cases hwritten
    · exact absurd (List.mem_singleton.1 hwritten ▸ hhead) h
    · rcases List.mem_pair.1 hwritten with rfl | rfl <;> simp at hhead
  · intro hname
    exact mem_lines (by simp [program, hname])

section Module

variable {p : Pagination} {b : Blueprint} (hentity : '\\' ∉ b.entity.pascal.toList)
include hentity

/-- The name of the entity is spelt in a path as in a class. -/
theorem map_entity :
    b.entity.pascal.toList.map (fun c => if c = '\\' then '/' else c) = b.entity.pascal.toList :=
  (List.map_congr_left fun _ hc => if_neg (ne_of_mem_of_not_mem hc hentity)).trans (List.map_id _)

theorem declares_model :
    (model b).path = classPath ("App\\Models\\" ++ b.entity.pascal) ∧
      (modelFile b).Declares ("App\\Models\\" ++ b.entity.pascal) := by
  constructor
  · have hpath : (model b).path = "app/Models/" ++ b.entity.pascal ++ ".php" := rfl
    rw [hpath, classPath, ← String.toList_inj]
    simp [map_entity hentity]
  · refine ⟨"App\\Models", b.entity.pascal, ?_, hentity, SourceFile.namespace_mem_lines rfl,
      .inr ⟨"Model", ?_⟩⟩
    · simp
    · have hheader : (modelFile b).header =
          "class " ++ b.entity.pascal ++ " extends " ++ "Model" := by
        simp [modelFile, ← String.toList_inj]
      rw [← hheader]
      exact (modelFile b).header_mem_lines

theorem declares_request :
    (request b).path = classPath ("App\\Http\\Requests\\" ++ b.entity.pascal ++ "Request") ∧
      (requestFile b).Declares ("App\\Http\\Requests\\" ++ b.entity.pascal ++ "Request") := by
  constructor
  · have hpath : (request b).path = "app/Http/Requests/" ++ b.entity.pascal ++ "Request.php" := rfl
    rw [hpath, classPath, ← String.toList_inj]
    simp [map_entity hentity]
  · refine ⟨"App\\Http\\Requests", b.entity.pascal ++ "Request", ?_, ?_,
      SourceFile.namespace_mem_lines rfl, .inr ⟨"FormRequest", ?_⟩⟩
    · simp [← String.toList_inj]
    · simp [hentity]
    · have hheader : (requestFile b).header =
          "class " ++ (b.entity.pascal ++ "Request") ++ " extends " ++ "FormRequest" := by
        simp [requestFile, ← String.toList_inj]
      rw [← hheader]
      exact (requestFile b).header_mem_lines

theorem declares_resource :
    (resource b).path = classPath ("App\\Http\\Resources\\" ++ b.entity.pascal ++ "Resource") ∧
      (resourceFile b).Declares ("App\\Http\\Resources\\" ++ b.entity.pascal ++ "Resource") := by
  constructor
  · have hpath : (resource b).path = "app/Http/Resources/" ++ b.entity.pascal ++ "Resource.php" :=
      rfl
    rw [hpath, classPath, ← String.toList_inj]
    simp [map_entity hentity]
  · refine ⟨"App\\Http\\Resources", b.entity.pascal ++ "Resource", ?_, ?_,
      SourceFile.namespace_mem_lines rfl, .inr ⟨"JsonResource", ?_⟩⟩
    · simp [← String.toList_inj]
    · simp [hentity]
    · have hheader : (resourceFile b).header =
          "class " ++ (b.entity.pascal ++ "Resource") ++ " extends " ++ "JsonResource" := by
        simp [resourceFile, ← String.toList_inj]
      rw [← hheader]
      exact (resourceFile b).header_mem_lines

theorem declares_useCase (action : Action) :
    let name := useCaseNamespace b.entity.pascal ++ "\\" ++ action.className b.entity.pascal
    (useCase action b).path = classPath name ∧ (useCaseFile action b).Declares name := by
  have hself : action.name.toList.map (fun c => if c = '\\' then '/' else c) =
      action.name.toList := by
    cases action <;> decide
  have hname : '\\' ∉ action.name.toList := by cases action <;> decide
  constructor
  · have hpath : (useCase action b).path = "app/UseCases/" ++ b.entity.pascal ++ "/" ++
        action.className b.entity.pascal ++ ".php" := rfl
    rw [hpath, classPath, useCaseNamespace, Action.className, ← String.toList_inj]
    simp [map_entity hentity, hself]
  · refine ⟨useCaseNamespace b.entity.pascal, action.className b.entity.pascal, rfl, ?_,
      SourceFile.namespace_mem_lines rfl, .inl (useCaseFile action b).header_mem_lines⟩
    simp [Action.className, hentity, hname]

/-- Every class of the application that a file of the module uses is declared by a file of the
module, at the path that it is loaded from. -/
theorem exists_declares_of_mem_uses {a : Artifact} {file : SourceFile}
    (ha : (a, file) ∈ sourceFiles p b) {name : String} (hname : name ∈ file.uses)
    (hown : IsOwn name) :
    ∃ target declaring, (target, declaring) ∈ sourceFiles p b ∧ target.path = classPath name ∧
      declaring.Declares name := by
  have hmodel : ∃ target declaring, (target, declaring) ∈ sourceFiles p b ∧
      target.path = classPath ("App\\Models\\" ++ b.entity.pascal) ∧
      declaring.Declares ("App\\Models\\" ++ b.entity.pascal) :=
    ⟨_, _, by simp [sourceFiles], declares_model hentity⟩
  simp only [sourceFiles, List.mem_append, List.mem_cons, List.not_mem_nil, or_false,
    List.mem_map, Prod.mk.injEq] at ha
  rcases ha with (⟨-, rfl⟩ | ⟨-, rfl⟩ | ⟨-, rfl⟩ | ⟨-, rfl⟩ | ⟨-, rfl⟩) | ⟨action, -, -, rfl⟩
  · simp only [modelFile, List.mem_cons, List.not_mem_nil, or_false] at hname
    rcases hname with rfl | rfl | rfl <;> exact absurd hown (by unfold IsOwn; decide)
  · simp only [migrationFile, List.mem_cons, List.not_mem_nil, or_false] at hname
    rcases hname with rfl | rfl | rfl <;> exact absurd hown (by unfold IsOwn; decide)
  · simp only [controllerFile, List.mem_append, List.mem_map, List.mem_cons, List.not_mem_nil,
      or_false] at hname
    rcases hname with ((rfl | rfl | rfl) | ⟨action, haction, rfl⟩) | rfl | rfl
    · exact ⟨_, _, by simp [sourceFiles], declares_request hentity⟩
    · exact ⟨_, _, by simp [sourceFiles], declares_resource hentity⟩
    · exact hmodel
    · refine ⟨useCase action b, useCaseFile action b, ?_, declares_useCase hentity action⟩
      exact List.mem_append_right _ (List.mem_map.2 ⟨action, haction, rfl⟩)
    · exact absurd hown (by unfold IsOwn; decide)
    · exact absurd hown (by unfold IsOwn; decide)
  · simp only [requestFile, List.mem_singleton] at hname
    subst hname
    exact absurd hown (by unfold IsOwn; decide)
  · simp only [resourceFile, List.mem_cons, List.not_mem_nil, or_false] at hname
    rcases hname with rfl | rfl <;> exact absurd hown (by unfold IsOwn; decide)
  · simp only [useCaseFile, List.mem_singleton] at hname
    subst hname
    exact hmodel

end Module

theorem use_mem_lines_iff {p : Pagination} {b : Blueprint} {a : Artifact} {file : SourceFile}
    (ha : (a, file) ∈ sourceFiles p b) {name : String} :
    "use " ++ name ++ ";" ∈ file.lines ↔ name ∈ file.uses := by
  refine SourceFile.use_mem_lines_iff ?_
  simp only [sourceFiles, List.mem_append, List.mem_cons, List.not_mem_nil, or_false,
    List.mem_map, Prod.mk.injEq] at ha
  rcases ha with (⟨-, rfl⟩ | ⟨-, rfl⟩ | ⟨-, rfl⟩ | ⟨-, rfl⟩ | ⟨-, rfl⟩) | ⟨action, -, -, rfl⟩
  · simp [modelFile]
  · simp [migrationFile]
  · simp [controllerFile]
  · simp [requestFile]
  · simp [resourceFile]
  · simp [useCaseFile]

/-- The classes of the application that the files of a module use are there. -/
structure Resolves (p : Pagination) (b : Blueprint) : Prop where
  artifacts : (sourceFiles p b).map (·.1) = artifacts p b
  content : ∀ a file, (a, file) ∈ sourceFiles p b → a.content = unlines file.lines
  useLines : ∀ a file, (a, file) ∈ sourceFiles p b →
    ∀ name, "use " ++ name ++ ";" ∈ file.lines ↔ name ∈ file.uses
  /-- A class of the application is declared by the file at the path that it is loaded from. -/
  uses : ∀ a file, (a, file) ∈ sourceFiles p b → ∀ name ∈ file.uses, IsOwn name →
    ∃ target declaring, (target, declaring) ∈ sourceFiles p b ∧ target.path = classPath name ∧
      declaring.Declares name

theorem resolves (p : Pagination) {b : Blueprint} (hentity : '\\' ∉ b.entity.pascal.toList) :
    Resolves p b where
  artifacts := map_fst_sourceFiles p b
  content _ _ := content_eq_unlines
  useLines _ _ ha _ := use_mem_lines_iff ha
  uses _ _ ha _ := exists_declares_of_mem_uses hentity ha

end Scaffold.LaravelModule
