import Scaffold.Generator
import Scaffold.Proofs.GoReferences
import Scaffold.Proofs.LaravelReferences
import Scaffold.Proofs.ReactReferences

/-!
# References between the files of one module

What the files of a Go module, of a Laravel module and of a React feature refer to is in the files
that are generated with them, whatever the entity is called (`Entity.references_resolve`). A slash or
a backslash in the name would move files to other directories.
-/

set_option autoImplicit false

namespace Scaffold

open Code Text

/-- The references between the files of one module resolve, for Go, Laravel and React. -/
theorem Entity.references_resolve {name : String} (hslash : '/' ∉ name.toList)
    (hbackslash : '\\' ∉ name.toList) (p : Pagination) (fields : List Field) (project : String)
    (options : Options) :
    let b : Blueprint := ⟨named name, fields, project, options⟩
    GoModule.Resolves p b ∧ LaravelModule.Resolves p b ∧ ReactFeature.Resolves b := by
  have hseparator : Caseless '/' := by decide +kernel
  have hnamespace : Caseless '\\' := by decide +kernel
  exact ⟨GoModule.resolves p (not_mem_module hseparator hslash),
    LaravelModule.resolves p (not_mem_pascal hnamespace hbackslash),
    ReactFeature.resolves (not_mem_pascal hseparator hslash)⟩

/-- A module of a shop: the file with the requests is imported by its directory, and its names spell
no reference. -/
theorem Entity.references_resolve_product :
    let b : Blueprint := ⟨named "product", [⟨"name", "string", true⟩], "github.com/acme/shop", {}⟩
    '/' ∉ "product".toList ∧ '\\' ∉ "product".toList ∧
      (∀ s ∈ b.entity.pascal :: (GoModule.scope {} b).given,
        isQuietFrom (GoModule.scope {} b).qualifiers [] s.toList = true) ∧
      GoModule.Resolves {} b ∧ LaravelModule.Resolves {} b ∧ ReactFeature.Resolves b := by
  intro b
  exact ⟨by decide, by decide, by decide +kernel,
    references_resolve (by decide) (by decide) {} [⟨"name", "string", true⟩]
      "github.com/acme/shop" {}⟩

end Scaffold
