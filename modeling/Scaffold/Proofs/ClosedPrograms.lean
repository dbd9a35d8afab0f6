import Scaffold.Blueprint
import Scaffold.Proofs.Nesting
import Scaffold.SearchColumn

/-!
# Programs with nested text

A program is `Closed` if its text is nested wherever it is indented. There is one rule for each way
to build a program; a block is closed if its two lines together are nested and its body is closed
(`Closed.block`), and so is a body that two lines of their own enclose (`Closed.enclosed`).
-/

set_option autoImplicit false

namespace Scaffold.Code

open Text

/-- The program is plain, and its text is nested at every level. -/
structure Closed (program : Program) : Prop where
  plain : Op.allPlain program = true
  nested : ∀ (unit : Indent) (level : Nat), Nested (unlines (Op.allWritten unit level program))

theorem nested_margin (unit : Indent) (level : Nat) : Nested (Page.margin unit level) := by
  refine nested_join fun item hitem => ?_
  rw [List.eq_of_mem_replicate hitem]
  unfold Indent.unit
  split <;> decide

/-- The line that a text stands in leads where the text does. -/
theorem leads_lineAt {s : String} {a b : List Char} (h : Leads s a b) (unit : Indent) (level : Nat) :
    Leads (lineAt unit level s ++ "\n") a b :=
  .append (.append (.of_nested (nested_margin unit level)) h) (.ofList rfl)

namespace Closed

variable {P rest body : Program} {s header close : String}

theorem nil : Closed [] := ⟨rfl, fun _ _ => by rw [Op.allWritten, unlines_nil]; decide⟩

theorem append (hp : Closed P) (hrest : Closed rest) : Closed (P ++ rest) where
  plain := by
    rw [Op.allPlain_eq, List.all_append, ← Op.allPlain_eq, ← Op.allPlain_eq, hp.plain, hrest.plain]
    rfl
  nested unit level := by
    rw [Op.allWritten_append, unlines_append]
    exact (hp.nested unit level).append (hrest.nested unit level)

theorem line (hs : Leads s [] []) (hrest : Closed rest) : Closed (.line s :: rest) := by
  refine append (P := [.line s]) ⟨rfl, fun unit level => ?_⟩ hrest
  simpa [Op.allWritten, Op.written] using nested_iff.2 (leads_lineAt hs unit level)

theorem blank (hrest : Closed rest) : Closed (.blank :: rest) :=
  append (P := [.blank]) ⟨rfl, fun _ _ => by simp [Op.allWritten, Op.written]; decide⟩ hrest

/-- A closed body may stand wherever brackets are open. -/
theorem leads_block (hc : Leads (header ++ close) [] []) (hbody : Closed body) (unit : Indent)
    (level : Nat) :
    Leads (unlines (Op.allWritten unit level [.block header body close])) [] [] := by
  obtain ⟨opened, hheader, hclose⟩ : ∃ opened, Leads header [] opened ∧ Leads close opened [] := by
    rwa [Leads, String.toList_append, pending_append, Option.bind_eq_some_iff] at hc
  have hlines : unlines (Op.allWritten unit level [.block header body close]) =
      lineAt unit level header ++ "\n" ++ unlines (Op.allWritten unit (level + 1) body) ++
        (lineAt unit level close ++ "\n") := by
    simp [Op.allWritten, Op.written, String.append_assoc]
  rw [hlines]
  exact .append (.append (leads_lineAt hheader unit level)
    (.of_nested (hbody.nested unit (level + 1)))) (leads_lineAt hclose unit level)

theorem block (hc : Leads (header ++ close) [] []) (hbody : Closed body) (hrest : Closed rest) :
    Closed (.block header body close :: rest) := by
  refine append (P := [.block header body close]) ⟨?_, fun unit level => ?_⟩ hrest
  · simp [Op.allPlain, Op.isPlain, hbody.plain]
  · exact nested_iff.2 (leads_block hc hbody unit level)

theorem indented (hbody : Closed body) (hrest : Closed rest) : Closed (.indented body :: rest) := by
  refine append (P := [.indented body]) ⟨?_, fun unit level => ?_⟩ hrest
  · simp [Op.allPlain, Op.isPlain, hbody.plain]
  · simpa [Op.allWritten, Op.written] using hbody.nested unit (level + 1)

/-- Two lines around a body are written as a block is. -/
theorem enclosed (hc : Leads (header ++ close) [] []) (hbody : Closed body) (hrest : Closed rest) :
    Closed (.line header :: .indented body :: .line close :: rest) := by
  refine append (P := [.line header, .indented body, .line close]) ⟨?_, fun unit level => ?_⟩ hrest
  · simp [Op.allPlain, Op.isPlain, hbody.plain]
  · have hblock := leads_block hc hbody unit level
    rw [nested_iff]
    simpa [Op.allWritten, Op.written] using hblock

theorem each {α : Type} {items : List α} {body : α → Program}
    (h : ∀ item ∈ items, Closed (body item)) : Closed (Program.each items body) := by
  induction items with
  | nil => exact .nil
  | cons item rest ih =>
    obtain ⟨hitem, hrest⟩ := List.forall_mem_cons.1 h
    exact append hitem (ih hrest)

theorem ops {α : Type} {items : List α} {op : α → Op} (h : ∀ item ∈ items, Closed [op item]) :
    Closed (items.map op) := by
  rw [List.map_eq_flatMap]
  exact each h

theorem lines {α : Type} {items : List α} {s : α → String} (h : ∀ item ∈ items, Nested (s item)) :
    Closed (items.map fun item => .line (s item)) :=
  ops fun item hitem => line (nested_iff.1 (h item hitem)) nil

theorem when {condition : Bool} (h : Closed body) : Closed (Program.when condition body) := by
  unfold Program.when
  split
  · exact h
  · exact nil

theorem separated : ∀ {programs : List Program}, (∀ P ∈ programs, Closed P) →
    Closed (Program.separated programs)
  | [], _ => nil
  | [P], h => by
    rw [Program.separated_one]
    exact h P (.head _)
  | P :: Q :: rest, h => by
    obtain ⟨hp, hrest⟩ := List.forall_mem_cons.1 h
    rw [Program.separated_cons_cons]
    exact append (append hp (blank nil)) (separated hrest)

theorem render (h : Closed P) (unit : Indent) : Nested (P.render unit) := by
  rw [Program.render_eq h.plain]
  exact h.nested unit 0

end Closed

end Scaffold.Code

namespace Scaffold

open Text

/-! ## Blueprints -/

/-- The identifiers and the route of the entity are nested. -/
structure Entity.IsNested (e : Entity) : Prop where
  module : Nested e.module
  modulePlural : Nested e.modulePlural
  pascal : Nested e.pascal
  camel : Nested e.camel
  route : Nested e.routeSegment

theorem Entity.isNested_named {name : String} (h : Nested name) : (named name).IsNested where
  module := h.lower
  modulePlural := h.lower.pluralize
  pascal := h.lower.pascal
  camel := h.lower.camel
  route := h.lower.pluralize.kebab

/-- The name and the type of the field are nested. -/
structure Field.IsNested (f : Field) : Prop where
  name : Nested f.name
  type : Nested f.type

/-- The names and the types that a generation starts from are nested. -/
structure Blueprint.IsNested (b : Blueprint) : Prop where
  entity : b.entity.IsNested
  project : Nested b.project
  fields : ∀ f ∈ b.fields, f.IsNested

theorem Stack.nested_nullable {type : String} (h : Nested type) (stack : Stack) :
    Nested (stack.nullable type) := by
  have hmarks : Nested "*" ∧ Nested "?" ∧ Nested " | null" := by decide
  cases stack <;> simp only [nullable] <;> split
  · exact h
  · exact hmarks.1.append h
  · exact h
  · exact hmarks.2.1.append h
  · exact h
  · exact h.append hmarks.2.2
  · exact h
  · exact h.append hmarks.2.1

theorem Field.IsNested.responseType {f : Field} (h : f.IsNested) (stack : Stack) :
    Nested (f.responseType stack) :=
  nested_ite h.type (Stack.nested_nullable h.type stack)

/-- The searched column is the name of a field or the fallback. -/
theorem nested_searchColumn {fields : List Field} (h : ∀ f ∈ fields, f.IsNested)
    (stringType : String) : Nested (searchColumn fields stringType) := by
  unfold searchColumn
  split
  · rename_i f hf
    exact (h f (List.mem_of_find?_eq_some hf)).name
  · decide

end Scaffold
