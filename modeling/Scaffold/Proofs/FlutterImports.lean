import Scaffold.Proofs.DartFiles
import Scaffold.Proofs.Paths
import Scaffold.Proofs.SourceFiles

/-!
# The imports of a Flutter feature

An import of another file of the feature is resolved against the directory of the importing file
(`Path.resolve`). It leads to a file of the feature from the repository and from the screen; the
providers look for the data layer one directory too deep (`imports_resolve_iff`).
-/

set_option autoImplicit false

namespace Scaffold.Path

/-- The path that `target` denotes in the file at `path`. -/
def resolve (path target : String) : String := ofParts (land (parts path).dropLast (parts target))

end Scaffold.Path

namespace Scaffold.FlutterFeature

open Code Text Scaffold.Path

/-! ## Paths of a feature -/

/-- An import of a package, which is looked up outside the feature. -/
def isPackage (target : String) : Bool := "package:".toList.isPrefixOf target.toList

/-- The path of a file in a directory of the feature. -/
def filePath (e : Entity) (dirs : List String) (stem : String) : String :=
  ofParts (["lib", "features", e.module] ++ dirs ++ [stem ++ ".dart"])

theorem isName_dart (stem : String) : IsName (stem ++ ".dart") := isName_append_right (by decide)

section Paths

variable {e : Entity} (he : '/' ∉ e.module.toList)
include he

theorem parts_filePath {dirs : List String} {stem : String} (hdirs : ∀ dir ∈ dirs, '/' ∉ dir.toList)
    (hstem : '/' ∉ stem.toList) :
    parts (filePath e dirs stem) = ["lib", "features", e.module] ++ dirs ++ [stem ++ ".dart"] := by
  refine parts_ofParts (by simp) fun part hp => ?_
  simp only [List.mem_append, List.mem_cons, List.not_mem_nil, or_false] at hp
  rcases hp with ((rfl | rfl | rfl) | hp) | rfl
  · decide
  · decide
  · exact he
  · exact hdirs part hp
  · simpa using hstem

theorem filePath_inj {dirs dirs' : List String} {stem stem' : String}
    (hdirs : ∀ dir ∈ dirs, '/' ∉ dir.toList) (hdirs' : ∀ dir ∈ dirs', '/' ∉ dir.toList)
    (hstem : '/' ∉ stem.toList) (hstem' : '/' ∉ stem'.toList)
    (h : filePath e dirs stem = filePath e dirs' stem') : dirs = dirs' := by
  have hparts := congrArg parts h
  rw [parts_filePath he hdirs hstem, parts_filePath he hdirs' hstem'] at hparts
  exact List.append_cancel_left (List.append_inj_left' hparts rfl)

/-- An import that leaves one directory leads from the directory around it. -/
theorem resolve_filePath (dirs : List String) (dir : String) {sub : List String}
    {stem file : String}
    (hdirs : ∀ d ∈ dirs ++ [dir], '/' ∉ d.toList) (hstem : '/' ∉ stem.toList)
    (hsub : ∀ d ∈ sub, '/' ∉ d.toList ∧ IsName d) (hfile : '/' ∉ file.toList) :
    resolve (filePath e (dirs ++ [dir]) stem) (ofParts (".." :: (sub ++ [file ++ ".dart"]))) =
      filePath e (dirs ++ sub) file := by
  have htarget : parts (ofParts (".." :: (sub ++ [file ++ ".dart"]))) =
      ".." :: (sub ++ [file ++ ".dart"]) := by
    refine parts_ofParts (by simp) fun part hp => ?_
    simp only [List.mem_cons, List.mem_append, List.not_mem_nil, or_false] at hp
    rcases hp with rfl | hp | rfl
    · decide
    · exact (hsub part hp).1
    · simpa using hfile
  have hnames : ∀ part ∈ sub ++ [file ++ ".dart"], IsName part := by
    intro part hp
    rcases List.mem_append.1 hp with hp | hp
    · exact (hsub part hp).2
    · rw [List.mem_singleton.1 hp]
      exact isName_dart file
  rw [resolve, parts_filePath he hdirs hstem, htarget, List.dropLast_concat, land_up,
    ← List.append_assoc, List.dropLast_concat, land_names hnames, filePath, List.append_assoc,
    List.append_assoc, List.append_assoc]

end Paths

/-! ## Where the imports lead -/

theorem model_path (b : Blueprint) :
    (model b).path = filePath b.entity ["data", "models"] (modelStem b.entity) := by
  show featureDir b.entity ++ "/data/models/" ++ modelStem b.entity ++ ".dart" = _
  simp [filePath, ofParts, featureDir, ← String.toList_inj]

theorem repository_path (p : Pagination) (b : Blueprint) : (repository p b).path =
    filePath b.entity ["data", "repositories"] (repositoryStem b.entity) := by
  show featureDir b.entity ++ "/data/repositories/" ++ repositoryStem b.entity ++ ".dart" = _
  simp [filePath, ofParts, featureDir, ← String.toList_inj]

theorem providers_path (b : Blueprint) : (providers b).path =
    filePath b.entity ["presentation", "providers"] (providerStem b.entity) := by
  show featureDir b.entity ++ "/presentation/providers/" ++ providerStem b.entity ++ ".dart" = _
  simp [filePath, ofParts, featureDir, ← String.toList_inj]

theorem screen_path (b : Blueprint) :
    (screen b).path = filePath b.entity ["presentation", "screens"] (screenStem b.entity) := by
  show featureDir b.entity ++ "/presentation/screens/" ++ screenStem b.entity ++ ".dart" = _
  simp [filePath, ofParts, featureDir, ← String.toList_inj]

theorem paths_eq (p : Pagination) (b : Blueprint) :
    (artifacts p b).paths =
      [filePath b.entity ["data", "models"] (modelStem b.entity),
       filePath b.entity ["data", "repositories"] (repositoryStem b.entity),
       filePath b.entity ["presentation", "providers"] (providerStem b.entity),
       filePath b.entity ["presentation", "screens"] (screenStem b.entity)] := by
  simp only [ArtifactSet.paths, artifacts, List.map_cons, List.map_nil, model_path,
    repository_path, providers_path, screen_path]

/-- The stems of the files have no slash. -/
theorem slash_not_mem_stem {e : Entity} (he : '/' ∉ e.module.toList) {suffix : String}
    (h : '/' ∉ suffix.toList) : '/' ∉ (e.module ++ suffix).toList := by
  simp [he, h]

section Resolve

variable {b : Blueprint} (he : '/' ∉ b.entity.module.toList)
include he

theorem resolve_repository (p : Pagination) :
    resolve (repository p b).path ("../models/" ++ modelStem b.entity ++ ".dart") =
      filePath b.entity ["data", "models"] (modelStem b.entity) := by
  have htarget : "../models/" ++ modelStem b.entity ++ ".dart" =
      ofParts (".." :: (["models"] ++ [modelStem b.entity ++ ".dart"])) := by
    simp [ofParts, ← String.toList_inj]
  rw [repository_path, htarget]
  exact resolve_filePath he ["data"] "repositories" (by decide)
    (slash_not_mem_stem he (by decide)) (by decide) (slash_not_mem_stem he (by decide))

theorem resolve_screen :
    resolve (screen b).path ("../providers/" ++ providerStem b.entity ++ ".dart") =
      filePath b.entity ["presentation", "providers"] (providerStem b.entity) := by
  have htarget : "../providers/" ++ providerStem b.entity ++ ".dart" =
      ofParts (".." :: (["providers"] ++ [providerStem b.entity ++ ".dart"])) := by
    simp [ofParts, ← String.toList_inj]
  rw [screen_path, htarget]
  exact resolve_filePath he ["presentation"] "screens" (by decide)
    (slash_not_mem_stem he (by decide)) (by decide) (slash_not_mem_stem he (by decide))

/-- The providers leave one directory where the data layer is two directories away. -/
theorem resolve_providers (dir : String) {stem target : String}
    (hdir : '/' ∉ dir.toList ∧ IsName dir) (hstem : '/' ∉ stem.toList)
    (htarget : target = ofParts (".." :: (["data", dir] ++ [stem ++ ".dart"]))) :
    resolve (providers b).path target = filePath b.entity ["presentation", "data", dir] stem := by
  have hsub : ∀ d ∈ ["data", dir], '/' ∉ d.toList ∧ IsName d := by
    simp only [List.forall_mem_cons]
    exact ⟨by decide, hdir, nofun⟩
  rw [providers_path, htarget]
  exact resolve_filePath he ["presentation"] "providers" (by decide)
    (slash_not_mem_stem he (by decide)) hsub hstem

/-- No file of the feature is three directories deep. -/
theorem filePath_not_mem_paths (p : Pagination) (dir : String) {stem : String}
    (hdir : '/' ∉ dir.toList) (hstem : '/' ∉ stem.toList) :
    filePath b.entity ["presentation", "data", dir] stem ∉ (artifacts p b).paths := by
  have hdirs : ∀ d ∈ ["presentation", "data", dir], '/' ∉ d.toList := by
    simp only [List.forall_mem_cons]
    exact ⟨by decide, by decide, hdir, nofun⟩
  have hne : ∀ {dirs : List String} {suffix : String}, (∀ d ∈ dirs, '/' ∉ d.toList) →
      '/' ∉ suffix.toList → dirs.length = 2 →
      filePath b.entity ["presentation", "data", dir] stem ≠
        filePath b.entity dirs (b.entity.module ++ suffix) := by
    intro dirs suffix hdirs' hsuffix hlength h
    rw [← filePath_inj he hdirs hdirs' hstem (slash_not_mem_stem he hsuffix) h] at hlength
    cases hlength
  rw [paths_eq]
  simp only [List.mem_cons, List.not_mem_nil, or_false, not_or]
  exact ⟨hne (by decide) (by decide) rfl, hne (by decide) (by decide) rfl,
    hne (by decide) (by decide) rfl, hne (by decide) (by decide) rfl⟩

end Resolve

/-- A relative import leads to a file of the feature from every file but the providers. -/
theorem resolve_mem_paths_iff (p : Pagination) {b : Blueprint} (he : '/' ∉ b.entity.module.toList)
    {a : Artifact} {file : SourceFile} (ha : (a, file) ∈ sourceFiles p b) {target : String}
    (ht : target ∈ file.imports) (hrelative : isPackage target = false) :
    resolve a.path target ∈ (artifacts p b).paths ↔ a.kind ≠ .state := by
  have hmodel : '/' ∉ (modelStem b.entity).toList := slash_not_mem_stem he (by decide)
  have hrepository : '/' ∉ (repositoryStem b.entity).toList := slash_not_mem_stem he (by decide)
  simp only [sourceFiles, List.mem_cons, List.not_mem_nil, or_false, Prod.mk.injEq] at ha
  rcases ha with ⟨rfl, rfl⟩ | ⟨rfl, rfl⟩ | ⟨rfl, rfl⟩ | ⟨rfl, rfl⟩
  · simp only [modelFile, List.mem_singleton] at ht
    rw [ht] at hrelative
    exact absurd hrelative (by decide)
  · simp only [repositoryFile, List.mem_cons, List.not_mem_nil, or_false] at ht
    rcases ht with rfl | rfl
    · exact absurd hrelative (by decide)
    · rw [resolve_repository he, paths_eq]
      exact iff_of_true (.head _) (by simp [repository])
  · simp only [providerFile, List.mem_cons, List.not_mem_nil, or_false] at ht
    rcases ht with rfl | rfl | rfl
    · exact absurd hrelative (by decide)
    · rw [resolve_providers he "models" (by decide) hmodel
        (by simp [ofParts, ← String.toList_inj])]
      exact iff_of_false (filePath_not_mem_paths he p "models" (by decide) hmodel) (· rfl)
    · rw [resolve_providers he "repositories" (by decide) hrepository
        (by simp [ofParts, ← String.toList_inj])]
      exact iff_of_false (filePath_not_mem_paths he p "repositories" (by decide) hrepository)
        (· rfl)
  · simp only [screenFile, List.mem_cons, List.not_mem_nil, or_false] at ht
    rcases ht with rfl | rfl | rfl
    · exact absurd hrelative (by decide)
    · exact absurd hrelative (by decide)
    · rw [resolve_screen he, paths_eq]
      exact iff_of_true (.tail _ (.tail _ (.head _))) (by simp [screen])

theorem isTidy_sourceFiles (p : Pagination) {b : Blueprint} (he : b.entity.IsOneLine)
    (hfields : ∀ f ∈ b.fields, OneLine f.name ∧ OneLine f.type) {a : Artifact} {file : SourceFile}
    (ha : (a, file) ∈ sourceFiles p b) : file.IsTidy := by
  simp only [sourceFiles, List.mem_cons, List.not_mem_nil, or_false, Prod.mk.injEq] at ha
  rcases ha with ⟨-, rfl⟩ | ⟨-, rfl⟩ | ⟨-, rfl⟩ | ⟨-, rfl⟩
  · exact isTidy_modelFile he hfields
  · exact isTidy_repositoryFile he p
  · exact isTidy_providerFile he
  · exact isTidy_screenFile he

theorem exists_sourceFile {p : Pagination} {b : Blueprint} {a : Artifact}
    (ha : a ∈ artifacts p b) : ∃ file, (a, file) ∈ sourceFiles p b ∧ a.content = file.render := by
  rw [← map_fst_sourceFiles, List.mem_map] at ha
  obtain ⟨⟨a, file⟩, hfile, rfl⟩ := ha
  exact ⟨file, hfile, content_eq hfile⟩

/-- The relative imports of a file lead to files of the feature exactly if the file is not the one
of the providers; and the import lines in the file's text are its imports, if the name of the
entity and the names and the types of the fields are one line each. -/
theorem imports_resolve_iff (p : Pagination) {name : String} (fields : List Field)
    (project : String) (options : Options) (hslash : '/' ∉ name.toList) {a : Artifact}
    (ha : a ∈ artifacts p ⟨.named name, fields, project, options⟩) :
    ∃ file, (a, file) ∈ sourceFiles p ⟨.named name, fields, project, options⟩ ∧
      a.content = file.render ∧
      (∀ target ∈ file.imports, isPackage target = false →
        (resolve a.path target ∈ (artifacts p ⟨.named name, fields, project, options⟩).paths ↔
          a.kind ≠ .state)) ∧
      (OneLine name → (∀ f ∈ fields, OneLine f.name ∧ OneLine f.type) →
        ∀ target, importLine target ∈ Text.lines a.content ↔ target ∈ file.imports) := by
  obtain ⟨file, hfile, hcontent⟩ := exists_sourceFile ha
  have hmodule : '/' ∉ (Entity.named name).module.toList :=
    mt (show Caseless '/' by decide +kernel).mem_lower.1 hslash
  refine ⟨file, hfile, hcontent, fun target ht => ?_, fun hname hfields target => ?_⟩
  · exact resolve_mem_paths_iff p (b := ⟨.named name, fields, project, options⟩) hmodule hfile ht
  · rw [hcontent]
    exact (isTidy_sourceFiles p (Entity.isOneLine_named hname) hfields hfile).import_mem_lines_iff

theorem imports_resolve_repository :
    let b : Blueprint := ⟨.named "product", [⟨"name", "String", true⟩], "", {}⟩
    '/' ∉ "product".toList ∧ repository {} b ∈ artifacts {} b ∧
      ∃ file, (repository {} b, file) ∈ sourceFiles {} b ∧
        ∀ target ∈ file.imports, isPackage target = false →
          (resolve (repository {} b).path target ∈ (artifacts {} b).paths ↔
            ArtifactKind.repository ≠ .state) := by
  intro b
  have ha : repository {} b ∈ artifacts {} b := .tail _ (.head _)
  obtain ⟨file, hfile, -, hresolve, -⟩ :=
    imports_resolve_iff {} [⟨"name", "String", true⟩] "" {} (by decide) ha
  exact ⟨by decide, ha, file, hfile, hresolve⟩

/-- The providers of a product import a model that is not there. -/
theorem imports_resolve_providers :
    let b : Blueprint := ⟨.named "product", [⟨"name", "String", true⟩], "", {}⟩
    providers b ∈ artifacts {} b ∧
      importLine "../data/models/product_model.dart" ∈ Text.lines (providers b).content ∧
      resolve (providers b).path "../data/models/product_model.dart" ∉ (artifacts {} b).paths := by
  intro b
  have hone : b.entity.IsOneLine := Entity.isOneLine_named (by decide)
  have hslash : '/' ∉ b.entity.module.toList := by decide +kernel
  have hstem : modelStem b.entity = "product_model" := by decide +kernel
  have hmodel : '/' ∉ (modelStem b.entity).toList := slash_not_mem_stem hslash (by decide)
  have htarget : "../data/models/product_model.dart" =
      "../data/models/" ++ modelStem b.entity ++ ".dart" := by
    rw [hstem]
    decide
  refine ⟨.tail _ (.tail _ (.head _)), ?_, ?_⟩
  · rw [htarget]
    exact (isTidy_providerFile hone).import_mem_lines_iff.2 (.tail _ (.head _))
  · rw [htarget, resolve_providers hslash "models" (by decide) hmodel
      (by simp [ofParts, ← String.toList_inj])]
    exact filePath_not_mem_paths hslash {} "models" (by decide) hmodel

end Scaffold.FlutterFeature
