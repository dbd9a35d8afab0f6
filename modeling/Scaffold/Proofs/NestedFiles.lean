import Scaffold.Generator
import Scaffold.Proofs.NestedFiles.FlutterFeature
import Scaffold.Proofs.NestedFiles.GoModule
import Scaffold.Proofs.NestedFiles.LaravelModule
import Scaffold.Proofs.NestedFiles.ReactFeature

/-!
# Generated files are nested

Whatever the stack: if the name of the entity, the project and the names and the types of the fields
are nested, then every generated file is (`Generator.artifacts_nested`).
-/

set_option autoImplicit false

namespace Scaffold

open Text

theorem Blueprint.IsNested.artifacts {b : Blueprint} (h : b.IsNested) (g : Generator) :
    ∀ a ∈ g.artifacts b, Nested a.content := by
  cases g with
  | go p => exact GoModule.nested_artifacts h p
  | laravel p => exact LaravelModule.nested_artifacts h p
  | react => exact ReactFeature.nested_artifacts h
  | flutter p => exact FlutterFeature.nested_artifacts h p

/-- No generated file leaves a bracket open, closes one that is not open or crosses two pairs. -/
theorem Generator.artifacts_nested (g : Generator) (name : String) (fields : List Field)
    (project : String) (options : Options) (hname : Nested name) (hproject : Nested project)
    (hfields : ∀ f ∈ fields, Nested f.name ∧ Nested f.type) :
    ∀ a ∈ g.artifacts ⟨.named name, fields, project, options⟩, Nested a.content :=
  have hb : Blueprint.IsNested ⟨.named name, fields, project, options⟩ :=
    { entity := Entity.isNested_named hname
      project := hproject
      fields := fun f hf => ⟨(hfields f hf).1, (hfields f hf).2⟩ }
  hb.artifacts g

/-- Brackets in the name, the project and the fields are allowed in pairs. -/
theorem Generator.artifacts_nested_maps :
    Nested "(sub)_order" ∧ Nested "shop[eu]" ∧
      ∀ a ∈ (Generator.go {}).artifacts
        ⟨.named "(sub)_order", [⟨"tags", "map[string][]string", false⟩], "shop[eu]", ⟨true⟩⟩,
        Nested a.content :=
  ⟨by decide, by decide,
    artifacts_nested (.go {}) "(sub)_order" [⟨"tags", "map[string][]string", false⟩] "shop[eu]" ⟨true⟩
      (by decide) (by decide) (by decide)⟩

end Scaffold
