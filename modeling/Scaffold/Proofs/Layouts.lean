import Scaffold.Generator
import Scaffold.Proofs.Paths

/-!
# The layouts of the stacks

The paths of a generation, part by part (`GoModule.parts_paths` and its neighbours). The names of an
entity may hold slashes and then stand for several parts; what is written around a name joins its
first or its last part.
-/

set_option autoImplicit false

namespace Scaffold

namespace Path

/-- The parts of a text with `suffix` behind it. -/
def suffixed (ps : List String) (suffix : String) : List String :=
  ps.dropLast ++ [ps.getLastD "" ++ suffix]

/-- The parts of a text with `start` before it. -/
def prefixed (start : String) (ps : List String) : List String :=
  (start ++ ps.headD "") :: ps.tail

theorem parts_suffixed (s : String) {suffix : String} (h : '/' ∉ suffix.toList) :
    parts (s ++ suffix) = suffixed (parts s) suffix := by
  rw [parts_append, parts_of_slash_not_mem h]
  rfl

/-- A text that begins within a part. -/
theorem parts_prefixed (dirs : List String) {lead start : String} (h : parts lead = dirs ++ [start])
    (s : String) : parts (lead ++ s) = dirs ++ prefixed start (parts s) := by
  rw [parts_append, h]
  simp [prefixed]

/-- Below the directories at the head of a path. -/
theorem parts_below (dirs : List String) {lead : String} (h : parts lead = dirs ++ [""])
    (s : String) : parts (lead ++ s) = dirs ++ parts s := by
  obtain ⟨first, after, hs⟩ := List.exists_cons_of_ne_nil (parts_ne_nil s)
  rw [parts_prefixed dirs h, hs, prefixed, List.headD_cons, List.tail_cons, String.empty_append]

/-- What a slash separates from a text is below it. -/
theorem parts_append_rooted {t : String} {rest : List String} (h : parts t = "" :: rest)
    (s : String) : parts (s ++ t) = parts s ++ rest := by
  rw [parts_append, h, List.headD_cons, List.tail_cons, String.append_empty]
  conv => rhs; rw [← List.dropLast_concat_getLast (parts_ne_nil s)]
  simp [List.getLastD_eq_getLast?, List.getLast?_eq_some_getLast (parts_ne_nil s)]

/-- Below directories within another. -/
theorem parts_within (dirs : List String) {between : String}
    (h : parts between = "" :: (dirs ++ [""])) (dir s : String) :
    parts (dir ++ between ++ s) = parts dir ++ dirs ++ parts s := by
  refine parts_below (parts dir ++ dirs) ?_ s
  rw [parts_append_rooted h, List.append_assoc]

end Path

open Scaffold.Path

/-! ## Go -/

namespace GoModule

/-- The directory of the module. -/
def dirParts (e : Entity) : List String := ["internal", "modules"] ++ parts e.module

theorem parts_moduleDir (e : Entity) : parts (moduleDir e) = dirParts e :=
  parts_below ["internal", "modules"] (by decide) e.module

/-- A file that is named after the entity, in a directory of the module. -/
theorem parts_file (e : Entity) {between dir suffix : String} (h : parts between = ["", dir, ""])
    (hsuffix : '/' ∉ suffix.toList) : parts (moduleDir e ++ between ++ e.module ++ suffix) =
      dirParts e ++ [dir] ++ suffixed (parts e.module) suffix := by
  rw [String.append_assoc, parts_within [dir] h, parts_moduleDir, parts_suffixed _ hsuffix]

theorem parts_paths (p : Pagination) (b : Blueprint) : (artifacts p b).paths.map parts =
    [["pkg", "database"] ++ suffixed (parts b.entity.module) ".go",
     dirParts b.entity ++ ["dtos"] ++ suffixed (parts b.entity.module) "_dto.go",
     dirParts b.entity ++ ["usecases"] ++ suffixed (parts b.entity.module) "_usecase.go",
     dirParts b.entity ++ ["controllers"] ++ suffixed (parts b.entity.module) "_controller.go",
     dirParts b.entity ++ ["init.go"]] ++
    if b.options.validators then
      [dirParts b.entity ++ ["validators"] ++ suffixed (parts b.entity.module) "_validator.go"]
    else [] := by
  have hmodel : parts (model b).path =
      ["pkg", "database"] ++ suffixed (parts b.entity.module) ".go" := by
    rw [model, String.append_assoc, parts_below ["pkg", "database"] (by decide),
      parts_suffixed _ (by decide)]
  have hdto : parts (dto p b).path =
      dirParts b.entity ++ ["dtos"] ++ suffixed (parts b.entity.module) "_dto.go" :=
    parts_file b.entity (by decide) (by decide)
  have husecases : parts (usecases p b).path =
      dirParts b.entity ++ ["usecases"] ++ suffixed (parts b.entity.module) "_usecase.go" :=
    parts_file b.entity (by decide) (by decide)
  have hcontrollers : parts (controllers p b).path =
      dirParts b.entity ++ ["controllers"] ++ suffixed (parts b.entity.module) "_controller.go" :=
    parts_file b.entity (by decide) (by decide)
  have hwiring : parts (wiring b).path = dirParts b.entity ++ ["init.go"] := by
    have hleaf : parts "/init.go" = ["", "init.go"] := by decide
    rw [wiring, parts_append_rooted hleaf, parts_moduleDir]
  have hvalidator : parts (validator b).path =
      dirParts b.entity ++ ["validators"] ++ suffixed (parts b.entity.module) "_validator.go" :=
    parts_file b.entity (by decide) (by decide)
  simp only [ArtifactSet.paths, artifacts, List.map_append, List.map_cons, List.map_nil, hmodel,
    hdto, husecases, hcontrollers, hwiring]
  split <;> simp [hvalidator]

end GoModule

/-! ## Laravel -/

namespace LaravelModule

theorem parts_class (e : Entity) (dirs : List String) {lead suffix : String}
    (h : parts lead = dirs ++ [""]) (hsuffix : '/' ∉ suffix.toList) :
    parts (lead ++ e.pascal ++ suffix) = dirs ++ suffixed (parts e.pascal) suffix := by
  rw [String.append_assoc, parts_below dirs h, parts_suffixed _ hsuffix]

/-- The class of a use case stands in a directory of the entity. -/
theorem parts_useCase (a : Action) (b : Blueprint) : parts (useCase a b).path =
    ["app", "UseCases"] ++ parts b.entity.pascal ++
      prefixed a.name (suffixed (parts b.entity.pascal) "UseCase.php") := by
  have hfile : "app/UseCases/" ++ b.entity.pascal ++ "/" ++ a.className b.entity.pascal ++ ".php" =
      "app/UseCases/" ++ (b.entity.pascal ++ "/" ++ (a.name ++ (b.entity.pascal ++ "UseCase.php"))) := by
    have hsuffix : "UseCase" ++ ".php" = "UseCase.php" := by decide
    simp only [Action.className, ← hsuffix, String.append_assoc]
  have hname : parts a.name = [] ++ [a.name] := by cases a <;> decide +kernel
  rw [useCase, hfile, parts_below ["app", "UseCases"] (by decide), parts_append_slash,
    parts_prefixed [] hname, parts_suffixed _ (by decide), List.nil_append, List.append_assoc]

theorem parts_migration (b : Blueprint) : parts (migration b).path =
    ["database", "migrations"] ++
      prefixed "create_" (suffixed (parts b.entity.modulePlural) "_table.php") := by
  have hlead : parts "database/migrations/create_" = ["database", "migrations"] ++ ["create_"] := by
    decide +kernel
  rw [← parts_suffixed _ (by decide), ← parts_prefixed _ hlead, ← String.append_assoc]
  rfl

theorem parts_paths (p : Pagination) (b : Blueprint) : (artifacts p b).paths.map parts =
    [["app", "Models"] ++ suffixed (parts b.entity.pascal) ".php",
     ["database", "migrations"] ++
       prefixed "create_" (suffixed (parts b.entity.modulePlural) "_table.php"),
     ["app", "Http", "Controllers"] ++ suffixed (parts b.entity.pascal) "Controller.php",
     ["app", "Http", "Requests"] ++ suffixed (parts b.entity.pascal) "Request.php",
     ["app", "Http", "Resources"] ++ suffixed (parts b.entity.pascal) "Resource.php"] ++
    Action.all.map fun a => ["app", "UseCases"] ++ parts b.entity.pascal ++
      prefixed a.name (suffixed (parts b.entity.pascal) "UseCase.php") := by
  have hmodel : parts (model b).path = ["app", "Models"] ++ suffixed (parts b.entity.pascal) ".php" :=
    parts_class b.entity _ (by decide) (by decide)
  have hcontroller : parts (controller p b).path =
      ["app", "Http", "Controllers"] ++ suffixed (parts b.entity.pascal) "Controller.php" :=
    parts_class b.entity _ (by decide) (by decide)
  have hrequest : parts (request b).path =
      ["app", "Http", "Requests"] ++ suffixed (parts b.entity.pascal) "Request.php" :=
    parts_class b.entity _ (by decide) (by decide)
  have hresource : parts (resource b).path =
      ["app", "Http", "Resources"] ++ suffixed (parts b.entity.pascal) "Resource.php" :=
    parts_class b.entity _ (by decide) (by decide)
  simp only [ArtifactSet.paths, artifacts, List.map_append, List.map_cons, List.map_nil,
    List.map_map, Function.comp_def, hmodel, parts_migration, hcontroller, hrequest, hresource,
    parts_useCase]

end LaravelModule

/-! ## React -/

namespace ReactFeature

/-- The directory of the feature. -/
def dirParts (e : Entity) : List String := ["src", "features"] ++ parts e.module

theorem parts_featureDir (e : Entity) : parts (featureDir e) = dirParts e :=
  parts_below ["src", "features"] (by decide) e.module

theorem parts_file (e : Entity) {name leaf : String} (h : parts leaf = ["", name]) :
    parts (featureDir e ++ leaf) = dirParts e ++ [name] := by
  rw [parts_append_rooted h, parts_featureDir]

theorem parts_component (e : Entity) {suffix : String} (h : '/' ∉ suffix.toList) :
    parts (featureDir e ++ "/components/" ++ e.pascal ++ suffix) =
      dirParts e ++ ["components"] ++ suffixed (parts e.pascal) suffix := by
  rw [String.append_assoc, parts_within ["components"] (by decide), parts_featureDir,
    parts_suffixed _ h]

theorem parts_paths (b : Blueprint) : (artifacts b).paths.map parts =
    [dirParts b.entity ++ ["types.ts"], dirParts b.entity ++ ["api.ts"],
     dirParts b.entity ++ ["hooks.ts"],
     dirParts b.entity ++ ["components"] ++ suffixed (parts b.entity.pascal) "List.tsx",
     dirParts b.entity ++ ["components"] ++ suffixed (parts b.entity.pascal) "Form.tsx",
     dirParts b.entity ++ ["index.ts"]] := by
  have htypes : parts (types b).path = dirParts b.entity ++ ["types.ts"] :=
    parts_file b.entity (by decide)
  have hapi : parts (api b).path = dirParts b.entity ++ ["api.ts"] :=
    parts_file b.entity (by decide)
  have hhooks : parts (hooks b).path = dirParts b.entity ++ ["hooks.ts"] :=
    parts_file b.entity (by decide)
  have hlist : parts (list b).path =
      dirParts b.entity ++ ["components"] ++ suffixed (parts b.entity.pascal) "List.tsx" :=
    parts_component b.entity (by decide)
  have hform : parts (form b).path =
      dirParts b.entity ++ ["components"] ++ suffixed (parts b.entity.pascal) "Form.tsx" :=
    parts_component b.entity (by decide)
  have hindex : parts (index b).path = dirParts b.entity ++ ["index.ts"] :=
    parts_file b.entity (by decide)
  simp only [ArtifactSet.paths, artifacts, List.map_cons, List.map_nil, htypes, hapi, hhooks, hlist,
    hform, hindex]

end ReactFeature

/-! ## Flutter -/

namespace FlutterFeature

/-- The directory of the feature. -/
def dirParts (e : Entity) : List String := ["lib", "features"] ++ parts e.module

theorem parts_file (e : Entity) (dirs : List String) {between stem suffix : String}
    (h : parts between = "" :: (dirs ++ [""])) (hsuffix : '/' ∉ suffix.toList)
    (hstem : stem ++ ".dart" = suffix) :
    parts (featureDir e ++ between ++ (e.module ++ stem) ++ ".dart") =
      dirParts e ++ dirs ++ suffixed (parts e.module) suffix := by
  rw [String.append_assoc, @String.append_assoc e.module, hstem, parts_within dirs h, featureDir,
    parts_below ["lib", "features"] (by decide), parts_suffixed _ hsuffix]
  rfl

theorem parts_paths (p : Pagination) (b : Blueprint) : (artifacts p b).paths.map parts =
    [dirParts b.entity ++ ["data", "models"] ++ suffixed (parts b.entity.module) "_model.dart",
     dirParts b.entity ++ ["data", "repositories"] ++
       suffixed (parts b.entity.module) "_repository.dart",
     dirParts b.entity ++ ["presentation", "providers"] ++
       suffixed (parts b.entity.module) "_provider.dart",
     dirParts b.entity ++ ["presentation", "screens"] ++
       suffixed (parts b.entity.module) "_list_screen.dart"] := by
  have hmodel : parts (model b).path =
      dirParts b.entity ++ ["data", "models"] ++ suffixed (parts b.entity.module) "_model.dart" :=
    parts_file b.entity _ (by decide) (by decide) (by decide)
  have hrepository : parts (repository p b).path = dirParts b.entity ++ ["data", "repositories"] ++
      suffixed (parts b.entity.module) "_repository.dart" :=
    parts_file b.entity _ (by decide) (by decide) (by decide)
  have hproviders : parts (providers b).path = dirParts b.entity ++ ["presentation", "providers"] ++
      suffixed (parts b.entity.module) "_provider.dart" :=
    parts_file b.entity _ (by decide) (by decide) (by decide)
  have hscreen : parts (screen b).path = dirParts b.entity ++ ["presentation", "screens"] ++
      suffixed (parts b.entity.module) "_list_screen.dart" :=
    parts_file b.entity _ (by decide) (by decide) (by decide)
  simp only [ArtifactSet.paths, artifacts, List.map_cons, List.map_nil, hmodel, hrepository,
    hproviders, hscreen]

end FlutterFeature

end Scaffold
