import Scaffold.Proofs.CompleteSets
import Scaffold.Proofs.Containment

/-!
# Generations that write out completely

An entity whose name has no slash gives paths that do not get in each other's way, whatever else the
name holds: it may be empty, `.` or `..` (`Generator.independent`). So its files are written
completely below every empty directory (`Generator.write_complete`).
-/

set_option autoImplicit false

namespace Scaffold

open Scaffold.Path

namespace Path

theorem Independent.sublist {files fewer : List (List String)} (h : Independent files)
    (hs : fewer.Sublist files) : Independent fewer where
  names ps hp := h.names ps (hs.subset hp)
  distinct := h.distinct.sublist (hs.map _)
  clear ps hp qs hq := h.clear ps (hs.subset hp) qs (hs.subset hq)

theorem land_nil (loc : Location) : land loc [] = loc := rfl

theorem passed_nil (loc : Location) : passed loc [] = [] := rfl

section Names

variable {part : String} {ps : List String} {loc : Location}

theorem land_cons_name (h : IsName part) : land loc (part :: ps) = land (loc ++ [part]) ps := by
  simp [land, h.1, h.2]

theorem passed_cons_name (h : IsName part) :
    passed loc (part :: ps) = (loc ++ [part]) :: passed (loc ++ [part]) ps := by
  simp [passed, h.1, h.2]

theorem land_cons_idle (h : isIdle part = true) : land loc (part :: ps) = land loc ps := by
  simp [land, h]

theorem passed_cons_idle (h : isIdle part = true) : passed loc (part :: ps) = passed loc ps := by
  simp [passed, h]

theorem land_cons_up (h : part = "..") : land loc (part :: ps) = land loc.dropLast ps := by
  rw [h, land_up]

theorem passed_cons_up (h : part = "..") : passed loc (part :: ps) = passed loc.dropLast ps := by
  rw [h]
  rfl

end Names

end Path

/-! ## Layouts

The part that is the entity's own directory is idle, `..` or a name; in each case the places and the
directories on the way to them can be listed. -/

namespace GoModule

theorem independent_layout (m : String) : Independent
    [["pkg", "database", m ++ ".go"],
     ["internal", "modules", m, "dtos", m ++ "_dto.go"],
     ["internal", "modules", m, "usecases", m ++ "_usecase.go"],
     ["internal", "modules", m, "controllers", m ++ "_controller.go"],
     ["internal", "modules", m, "init.go"],
     ["internal", "modules", m, "validators", m ++ "_validator.go"]] := by
  rcases part_cases m with hi | hu | hn
  · constructor <;> simp +decide [land_cons_idle hi, passed_cons_idle hi, land_cons_name,
      passed_cons_name, land_nil, passed_nil, isName_append_right]
  · constructor <;> simp +decide [land_cons_up hu, passed_cons_up hu, land_cons_name,
      passed_cons_name, land_nil, passed_nil, isName_append_right]
  · constructor <;> simp +decide [land_cons_name hn, passed_cons_name hn, land_cons_name,
      passed_cons_name, land_nil, passed_nil, isName_append_right]

theorem independent (p : Pagination) {b : Blueprint}
    (hm : parts b.entity.module = [b.entity.module]) :
    Independent ((artifacts p b).paths.map parts) := by
  refine (independent_layout b.entity.module).sublist ?_
  rw [parts_paths, dirParts, hm]
  split
  · exact .refl _
  · exact List.sublist_append_left _ [_]

end GoModule

namespace LaravelModule

theorem independent_layout (entity plural : String) : Independent
    [["app", "Models", entity ++ ".php"],
     ["database", "migrations", "create_" ++ (plural ++ "_table.php")],
     ["app", "Http", "Controllers", entity ++ "Controller.php"],
     ["app", "Http", "Requests", entity ++ "Request.php"],
     ["app", "Http", "Resources", entity ++ "Resource.php"],
     ["app", "UseCases", entity, "Create" ++ (entity ++ "UseCase.php")],
     ["app", "UseCases", entity, "Update" ++ (entity ++ "UseCase.php")],
     ["app", "UseCases", entity, "Delete" ++ (entity ++ "UseCase.php")]] := by
  rcases part_cases entity with hi | hu | hn
  · constructor <;> simp +decide [land_cons_idle hi, passed_cons_idle hi, land_cons_name,
      passed_cons_name, land_nil, passed_nil, isName_append_right, isName_append_left]
  · constructor <;> simp +decide [land_cons_up hu, passed_cons_up hu, land_cons_name,
      passed_cons_name, land_nil, passed_nil, isName_append_right, isName_append_left]
    -- the classes of the use cases stand beside `Models`, `Http` and `UseCases`
    rw [hu]
    decide
  · constructor <;> simp +decide [land_cons_name hn, passed_cons_name hn, land_cons_name,
      passed_cons_name, land_nil, passed_nil, isName_append_right, isName_append_left]

theorem independent (p : Pagination) {b : Blueprint}
    (hp : parts b.entity.pascal = [b.entity.pascal])
    (hm : parts b.entity.modulePlural = [b.entity.modulePlural]) :
    Independent ((artifacts p b).paths.map parts) := by
  rw [parts_paths, hp, hm]
  exact independent_layout b.entity.pascal b.entity.modulePlural

end LaravelModule

namespace ReactFeature

theorem independent_layout (m entity : String) : Independent
    [["src", "features", m, "types.ts"], ["src", "features", m, "api.ts"],
     ["src", "features", m, "hooks.ts"],
     ["src", "features", m, "components", entity ++ "List.tsx"],
     ["src", "features", m, "components", entity ++ "Form.tsx"],
     ["src", "features", m, "index.ts"]] := by
  rcases part_cases m with hi | hu | hn
  · constructor <;> simp +decide [land_cons_idle hi, passed_cons_idle hi, land_cons_name,
      passed_cons_name, land_nil, passed_nil, isName_append_right]
  · constructor <;> simp +decide [land_cons_up hu, passed_cons_up hu, land_cons_name,
      passed_cons_name, land_nil, passed_nil, isName_append_right]
  · constructor <;> simp +decide [land_cons_name hn, passed_cons_name hn, land_cons_name,
      passed_cons_name, land_nil, passed_nil, isName_append_right]

theorem independent {b : Blueprint} (hm : parts b.entity.module = [b.entity.module])
    (hp : parts b.entity.pascal = [b.entity.pascal]) :
    Independent ((artifacts b).paths.map parts) := by
  rw [parts_paths, dirParts, hm, hp]
  exact independent_layout b.entity.module b.entity.pascal

end ReactFeature

namespace FlutterFeature

theorem independent_layout (m : String) : Independent
    [["lib", "features", m, "data", "models", m ++ "_model.dart"],
     ["lib", "features", m, "data", "repositories", m ++ "_repository.dart"],
     ["lib", "features", m, "presentation", "providers", m ++ "_provider.dart"],
     ["lib", "features", m, "presentation", "screens", m ++ "_list_screen.dart"]] := by
  rcases part_cases m with hi | hu | hn
  · constructor <;> simp +decide [land_cons_idle hi, passed_cons_idle hi, land_cons_name,
      passed_cons_name, land_nil, passed_nil, isName_append_right]
  · constructor <;> simp +decide [land_cons_up hu, passed_cons_up hu, land_cons_name,
      passed_cons_name, land_nil, passed_nil, isName_append_right]
  · constructor <;> simp +decide [land_cons_name hn, passed_cons_name hn, land_cons_name,
      passed_cons_name, land_nil, passed_nil, isName_append_right]

theorem independent (p : Pagination) {b : Blueprint}
    (hm : parts b.entity.module = [b.entity.module]) :
    Independent ((artifacts p b).paths.map parts) := by
  rw [parts_paths, dirParts, hm]
  exact independent_layout b.entity.module

end FlutterFeature

/-! ## Generations -/

theorem Generator.independent (g : Generator) {name : String} (h : '/' ∉ name.toList)
    (fields : List Field) (project : String) (options : Options) :
    Independent ((g.artifacts ⟨.named name, fields, project, options⟩).paths.map parts) := by
  obtain ⟨hmodule, hpascal, hplural⟩ := Entity.parts_names h
  cases g with
  | go p => exact GoModule.independent p hmodule
  | laravel p => exact LaravelModule.independent p hpascal hplural
  | react => exact ReactFeature.independent hmodule hpascal
  | flutter p => exact FlutterFeature.independent p hmodule

theorem Generator.nul_not_mem_path (g : Generator) {name : String} (hslash : '/' ∉ name.toList)
    (hnul : '\x00' ∉ name.toList) (fields : List Field) (project : String) (options : Options) :
    ∀ a ∈ g.artifacts ⟨.named name, fields, project, options⟩, '\x00' ∉ a.path.toList := by
  have hmodule := Entity.not_mem_module (show Text.Caseless '\x00' by decide +kernel) hnul
  have hpascal := Entity.not_mem_pascal (show Text.Caseless '\x00' by decide +kernel) hnul
  have hplural := Entity.not_mem_modulePlural (show Text.Caseless '\x00' by decide +kernel) hnul
    (by decide)
  obtain ⟨hm, hp, hM⟩ := Entity.parts_names hslash
  have hparts : ∀ ps ∈ (g.artifacts ⟨.named name, fields, project, options⟩).paths.map parts,
      ∀ part ∈ ps, '\x00' ∉ part.toList := by
    cases g with
    | go p =>
      rw [artifacts, GoModule.parts_paths]
      split <;> simp +decide [GoModule.dirParts, hm, suffixed, hmodule]
    | laravel p =>
      rw [artifacts, LaravelModule.parts_paths]
      simp +decide [LaravelModule.Action.all, LaravelModule.Action.name, hp, hM, suffixed, prefixed,
        hpascal, hplural]
    | react =>
      rw [artifacts, ReactFeature.parts_paths]
      simp +decide [ReactFeature.dirParts, hm, hp, suffixed, hmodule, hpascal]
    | flutter p =>
      rw [artifacts, FlutterFeature.parts_paths]
      simp +decide [FlutterFeature.dirParts, hm, suffixed, hmodule]
  intro a ha hc
  obtain ⟨part, hpart, hc⟩ := mem_parts_of_mem (by decide) hc
  exact ArtifactSet.forall_parts.2 hparts a ha part hpart hc

theorem Generator.writable (g : Generator) {name : String} (hslash : '/' ∉ name.toList)
    (hnul : '\x00' ∉ name.toList) (fields : List Field) (project : String) (options : Options) :
    (g.artifacts ⟨.named name, fields, project, options⟩).Writable where
  relative := g.isAbsolute_of_mem_artifacts _
  stays := (g.stay_iff _).2 (Entity.staysBelow_of_slash_not_mem hslash g.stack)
  noNul := g.nul_not_mem_path hslash hnul fields project options
  independent := g.independent hslash fields project options

/-- **Complete generations.** The paths of a generation are distinct, so that each leads to its own
artifact, and below an empty directory of a disk without limits all files are written, in order and
in either mode: they read back, and there are no others. -/
theorem Generator.write_complete (g : Generator) (name : String) (fields : List Field)
    (project : String) (options : Options) (hslash : '/' ∉ name.toList)
    (hnul : '\x00' ∉ name.toList) :
    (g.artifacts ⟨.named name, fields, project, options⟩).paths.Nodup ∧
    (∀ a ∈ g.artifacts ⟨.named name, fields, project, options⟩,
      (g.artifacts ⟨.named name, fields, project, options⟩).get? a.path = some a) ∧
    ∀ (d : Disk) (root : String) (mode : Overwrite), d.limits = none → d.IsTree → d.IsListing →
      d.IsEmptyDir root → ∃ d',
        (g.artifacts ⟨.named name, fields, project, options⟩).write root mode d =
          (.ok ((g.artifacts ⟨.named name, fields, project, options⟩).map fun a =>
            ⟨join root a.path, .written⟩), d') ∧
        (∀ a ∈ g.artifacts ⟨.named name, fields, project, options⟩,
          d'.read (join root a.path) = .ok a.content) ∧
        (d'.filesBelow (d'.place root)).length =
          (g.artifacts ⟨.named name, fields, project, options⟩).length := by
  have h := g.writable hslash hnul fields project options
  refine ⟨h.nodup_paths, fun a ha => h.get?_path ha, ?_⟩
  intro d root mode hlimits tree hlisting hempty
  exact h.write_eq_ok tree hempty hlimits hlisting mode

/-- The name `..` puts the use cases of a Laravel module into `app` itself. -/
theorem Generator.write_complete_up :
    '/' ∉ "..".toList ∧ '\x00' ∉ "..".toList ∧
      ∃ d', ((laravel {}).artifacts ⟨.named "..", [], "", {}⟩).write "out" .ifMissing
          ⟨[(["out"], .dir)], [], none⟩ =
        (.ok (((laravel {}).artifacts ⟨.named "..", [], "", {}⟩).map fun a =>
          ⟨join "out" a.path, .written⟩), d') ∧
        (∀ a ∈ (laravel {}).artifacts ⟨.named "..", [], "", {}⟩,
          d'.read (join "out" a.path) = .ok a.content) ∧
        (d'.filesBelow (d'.place "out")).length =
          ((laravel {}).artifacts ⟨.named "..", [], "", {}⟩).length := by
  have hempty : Disk.IsEmptyDir ⟨[(["out"], .dir)], [], none⟩ "out" := by
    refine ⟨by decide +kernel, fun rest hne => ?_⟩
    have hplace : Disk.place ⟨[(["out"], .dir)], [], none⟩ "out" = ["out"] := by decide +kernel
    obtain ⟨part, rest, rfl⟩ := List.exists_cons_of_ne_nil hne
    simp [hplace, Disk.find?, List.lookup_cons]
  exact ⟨by decide, by decide, ((laravel {}).write_complete ".." [] "" {} (by decide) (by decide)).2.2
    ⟨[(["out"], .dir)], [], none⟩ "out" .ifMissing rfl (by decide) (by decide) hempty⟩

end Scaffold
