import Scaffold.Generator

/-!
# The registry of generators

A registry holds at most one generator for each stack, in the order in which the stacks were first
registered. `Registry.run` answers a request: it looks the stack up by name, lets the generator read
the fields and generates the files. What a registry asks of its generators is in `Codegen`, so it
may also hold generators of other types than `Generator`.
-/

set_option autoImplicit false

namespace Scaffold

/-- What a registry asks of a generator. -/
class Codegen (γ : Type) where
  /-- The stack that the files are made for. -/
  stack : γ → Stack
  /-- Reads the specification of the fields. -/
  parseFields : γ → String → List Field
  /-- The files made from a blueprint. -/
  artifacts : γ → Blueprint → ArtifactSet

instance : Codegen Generator where
  stack := Generator.stack
  parseFields g := g.stack.parseFields
  artifacts := Generator.artifacts

/-- Generators of distinct stacks. -/
structure Registry (γ : Type := Generator) [Codegen γ] where
  generators : List γ
  nodup : (generators.map Codegen.stack).Nodup

/-- A text that names no registered stack. -/
structure UnsupportedStack where
  /-- The text as it was given. -/
  stack : String
  /-- The names of the registered stacks. -/
  registered : List String
  deriving DecidableEq, Repr

namespace UnsupportedStack

def message (e : UnsupportedStack) : String := "unsupported stack '" ++ e.stack ++ "'"

def available (e : UnsupportedStack) : String := String.intercalate ", " e.registered

def help (e : UnsupportedStack) : String := "available stacks: " ++ e.available

def code : String := "modgen::unsupported_stack"

end UnsupportedStack

/-- What to generate. -/
structure Request where
  /-- The name or an alias of the stack. -/
  stack : String
  name : String
  /-- The specification of the fields. -/
  fields : String
  project : String := ""
  options : Options := {}
  deriving DecidableEq, Repr

/-- The result of a request. -/
structure Generation where
  stack : Stack
  entity : Entity
  fields : List Field
  artifacts : ArtifactSet
  deriving DecidableEq, Repr

namespace Registry

section
variable {γ : Type} [Codegen γ]

def empty : Registry γ := ⟨[], .nil⟩

/-- `generators` with `g` in the place of a generator of the same stack, or else at the end. -/
def put (g : γ) : List γ → List γ
  | [] => [g]
  | other :: rest =>
    if Codegen.stack other = Codegen.stack g then g :: rest else other :: put g rest

theorem mem_map_stack_put {g : γ} {s : Stack} {generators : List γ}
    (h : s ∈ (put g generators).map Codegen.stack) :
    s = Codegen.stack g ∨ s ∈ generators.map Codegen.stack := by
  induction generators with
  | nil => exact .inl (by simpa [put] using h)
  | cons other rest ih =>
    unfold put at h
    split at h
    · simp only [List.map_cons, List.mem_cons] at h ⊢
      exact h.imp_right .inr
    · simp only [List.map_cons, List.mem_cons] at h ⊢
      rcases h with h | h
      · exact .inr (.inl h)
      · exact (ih h).imp_right .inr

theorem nodup_put (g : γ) {generators : List γ} (h : (generators.map Codegen.stack).Nodup) :
    ((put g generators).map Codegen.stack).Nodup := by
  induction generators with
  | nil => simp [put]
  | cons other rest ih =>
    simp only [List.map_cons, List.nodup_cons] at h
    unfold put
    split
    · rename_i heq
      simpa [← heq] using h
    · rename_i hne
      simp only [List.map_cons, List.nodup_cons]
      refine ⟨fun hmem => ?_, ih h.2⟩
      rcases mem_map_stack_put hmem with hs | hs
      · exact hne hs
      · exact h.1 hs

/-- Registers `g`, in the place of the stack's earlier generator if there is one. -/
def register (r : Registry γ) (g : γ) : Registry γ :=
  ⟨put g r.generators, nodup_put g r.nodup⟩

def names (r : Registry γ) : List String := r.generators.map fun g => (Codegen.stack g).name

/-- The generator of a stack. -/
def find? (r : Registry γ) (s : Stack) : Option γ :=
  r.generators.find? (Codegen.stack · = s)

/-- The generator of the stack that a name or an alias denotes. -/
def get (r : Registry γ) (name : String) : Except UnsupportedStack γ :=
  match (Stack.parse? name).bind r.find? with
  | some g => .ok g
  | none => .error ⟨name, r.names⟩

/-- Generates the files of a request. -/
def run (r : Registry γ) (q : Request) : Except UnsupportedStack Generation := do
  let g ← r.get q.stack
  let entity := Entity.named q.name
  let fields := Codegen.parseFields g q.fields
  return {
    stack := Codegen.stack g, entity, fields
    artifacts := Codegen.artifacts g
      { entity, fields, project := q.project, options := q.options } }

end

/-- The generators of all stacks, with the standard pagination. -/
def standard : Registry :=
  (Stack.all.map (Generator.ofStack {})).foldl register empty

end Registry

end Scaffold
