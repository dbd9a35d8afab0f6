import Scaffold.Artifact
import Scaffold.Proofs.PlainPrograms
import Scaffold.SearchColumn

/-!
# Templates of files that list fields

A `Template` is a file up to its fields: constant texts and, between them, sections with one piece
for each field, in declared order. `Lists` says that a text is made of such parts, `ListsFrom` says
it of a program, with one rule for each way to build one, and `Templated` of the files of a
generation.
-/

set_option autoImplicit false

namespace Scaffold

open Code

/-! ## Templates -/

/-- A part of a generated file. -/
inductive Part where
  /-- The same text for all fields. -/
  | text (s : String)
  /-- One piece for each field. -/
  | each (piece : Field → String)
  /-- The items of the fields that have one, with commas between them. -/
  | items (item? : Field → Option String)
  /-- The column that a list query searches. -/
  | column (stringType : String)
  /-- A text that stands if some field is required. -/
  | whenRequired (s : String)
  /-- A text that stands if there are fields. -/
  | whenAny (s : String)

namespace Part

/-- The part depends on the fields. -/
def isSection : Part → Bool
  | text _ => false
  | _ => true

def fill (fields : List Field) : Part → String
  | text s => s
  | each piece => String.join (fields.map piece)
  | items item? => String.intercalate ", " (fields.filterMap item?)
  | column stringType => searchColumn fields stringType
  | whenRequired s => if fields.any (·.required) then s else ""
  | whenAny s => if fields.isEmpty then "" else s

def fillAll (parts : List Part) (fields : List Field) : String :=
  String.join (parts.map (fill fields))

/-- One line for each field. -/
def line (unit : Indent) (level : Nat) (s : Field → String) : Part :=
  each fun f => lineAt unit level (s f) ++ "\n"

/-- The lines of one body for each field. -/
def bodies (unit : Indent) (level : Nat) (body : Field → Program) : Part :=
  each fun f => unlines (Op.allWritten unit level (body f))

end Part

/-- A file up to its fields. -/
structure Template where
  path : String
  kind : ArtifactKind
  parts : List Part

namespace Template

def fill (fields : List Field) (t : Template) : Artifact :=
  ⟨t.path, t.kind, Part.fillAll t.parts fields⟩

/-- The parts that depend on the fields. -/
def sections (t : Template) : List Part := t.parts.filter Part.isSection

end Template

/-! ## Texts and programs that list fields -/

/-- The text consists of parts, among them these sections. -/
def Lists (text : List Field → String) (sections : List Part) : Prop :=
  ∃ parts : List Part, parts.filter Part.isSection = sections ∧
    ∀ fields, text fields = Part.fillAll parts fields

namespace Lists

theorem const (s : String) : Lists (fun _ => s) [] :=
  ⟨[.text s], rfl, fun _ => by simp [Part.fillAll, Part.fill]⟩

theorem part (p : Part) (h : p.isSection = true) : Lists (p.fill ·) [p] :=
  ⟨[p], by simp [h], fun _ => by simp [Part.fillAll]⟩

theorem append {s t : List Field → String} {a b : List Part} (hs : Lists s a) (ht : Lists t b) :
    Lists (fun fields => s fields ++ t fields) (a ++ b) := by
  obtain ⟨ps, rfl, hs⟩ := hs
  obtain ⟨qs, rfl, ht⟩ := ht
  refine ⟨ps ++ qs, List.filter_append .., fun fields => ?_⟩
  simp only [hs, ht, Part.fillAll, List.map_append, String.join_append]

theorem congr {s t : List Field → String} {a : List Part} (h : Lists s a)
    (heq : ∀ fields, t fields = s fields) : Lists t a :=
  (funext heq : t = s) ▸ h

/-- A text that does not depend on the fields. -/
theorem unread {s : List Field → String} (h : ∀ fields, s fields = s []) : Lists s [] :=
  (const (s [])).congr h

/-- All fields as items. -/
theorem items (item : Field → String) :
    Lists (fun fields => String.intercalate ", " (fields.map item))
      [.items fun f => some (item f)] :=
  (part (.items fun f => some (item f)) rfl).congr fun fields => by
    simp [Part.fill, List.filterMap_eq_map']

end Lists

/-- The program is plain and lists fields in these sections when it runs from a level. -/
structure ListsFrom (unit : Indent) (level : Nat) (program : List Field → Program)
    (sections : List Part) : Prop where
  plain : ∀ fields, Op.allPlain (program fields) = true
  written : Lists (fun fields => unlines (Op.allWritten unit level (program fields))) sections

namespace ListsFrom

variable {unit : Indent} {level : Nat} {a b : List Part} {P Q : List Field → Program}

theorem const {program : Program} (h : Op.allPlain program = true) :
    ListsFrom unit level (fun _ => program) [] := ⟨fun _ => h, .const _⟩

theorem of_eq (h : ListsFrom unit level P a) (heq : a = b) : ListsFrom unit level P b := heq ▸ h

theorem append (hp : ListsFrom unit level P a) (hq : ListsFrom unit level Q b) :
    ListsFrom unit level (fun fields => P fields ++ Q fields) (a ++ b) where
  plain fields := by
    simpa [Op.allPlain_eq] using ⟨by simpa [Op.allPlain_eq] using hp.plain fields,
      by simpa [Op.allPlain_eq] using hq.plain fields⟩
  written := (hp.written.append hq.written).congr fun fields => by
    simp [Op.allWritten_eq]

theorem cons {op : List Field → Op} (hop : ListsFrom unit level (fun fields => [op fields]) a)
    (hq : ListsFrom unit level Q b) :
    ListsFrom unit level (fun fields => op fields :: Q fields) (a ++ b) :=
  hop.append hq

theorem line {s : List Field → String} (h : Lists s a) :
    ListsFrom unit level (fun fields => [.line (s fields)]) a where
  plain _ := rfl
  written := by
    simpa [Op.allWritten, Op.written, lineAt] using
      ((Lists.const (Page.margin unit level)).append h).append (.const "\n")

theorem block {header close : String} (h : ListsFrom unit (level + 1) P a) :
    ListsFrom unit level (fun fields => [.block header (P fields) close]) a where
  plain fields := by simp [Op.allPlain, Op.isPlain, h.plain]
  written := by
    simpa [Op.allWritten, Op.written, String.append_assoc] using
      ((Lists.const (lineAt unit level header ++ "\n")).append h.written).append
        (.const (lineAt unit level close ++ "\n"))

theorem bodies {body : Field → Program} (h : ∀ f, Op.allPlain (body f) = true) :
    ListsFrom unit level (fun fields => Program.each fields body) [.bodies unit level body] where
  plain fields := by
    simp only [Op.allPlain_eq] at h
    simp [Program.each, Op.allPlain_eq, List.all_flatMap, h]
  written := (Lists.part (.bodies unit level body) rfl).congr fun fields => by
    simp only [Program.each, Op.allWritten_eq, List.flatMap_assoc, unlines_flatMap, Part.bodies,
      Part.fill]

theorem ops {op : Field → Op} (h : ∀ f, (op f).isPlain = true) :
    ListsFrom unit level (fun fields => fields.map op) [.bodies unit level fun f => [op f]] := by
  have hbodies : ListsFrom unit level (fun fields => Program.each fields fun f => [op f])
      [.bodies unit level fun f => [op f]] :=
    bodies fun f => by simp [Op.allPlain_eq, h f]
  simpa only [Program.each, ← List.map_eq_flatMap] using hbodies

theorem lines (s : Field → String) :
    ListsFrom unit level (fun fields => fields.map fun f => .line (s f)) [.line unit level s] :=
  of_eq (ops fun _ => rfl) (by simp [Part.bodies, Part.line, Op.allWritten, Op.written])

/-- Lines that stand between the same lines for all fields. -/
theorem between {first last : Program} (hfirst : Op.allPlain first = true)
    (hlast : Op.allPlain last = true) (s : Field → String) :
    ListsFrom unit level (fun fields => first ++ (fields.map fun f => .line (s f)) ++ last)
      [.line unit level s] :=
  ((const hfirst).append (lines s)).append (const hlast)

/-- One line for each item, where the same items stand around those of the fields. -/
theorem around {α : Type} (first last : List α) (item : Field → α) (s : α → String) :
    ListsFrom unit level
      (fun fields => (first ++ fields.map item ++ last).map fun a => .line (s a))
      [.line unit level fun f => s (item f)] := by
  simp only [List.map_append, List.map_map]
  exact between (Op.allPlain_lines first s) (Op.allPlain_lines last s) _

theorem whenRequired {body : Program} (h : Op.allPlain body = true) :
    ListsFrom unit level (fun fields => Program.when (fields.any (·.required)) body)
      [.whenRequired (unlines (Op.allWritten unit level body))] where
  plain fields := by
    unfold Program.when
    split
    · exact h
    · rfl
  written := (Lists.part (.whenRequired _) rfl).congr fun fields => by
    unfold Program.when Part.fill
    split <;> simp [Op.allWritten]

theorem whenAny {body : Program} (h : Op.allPlain body = true) :
    ListsFrom unit level (fun fields => Program.when (!fields.isEmpty) body)
      [.whenAny (unlines (Op.allWritten unit level body))] where
  plain fields := by
    unfold Program.when
    split
    · exact h
    · rfl
  written := (Lists.part (.whenAny _) rfl).congr fun fields => by
    cases fields <;> simp [Program.when, Part.fill, Op.allWritten]

theorem one (h : ListsFrom unit level P a) :
    ListsFrom unit level (fun fields => Program.separated [P fields]) a := by
  simpa only [Program.separated_one] using h

theorem separated (hp : ListsFrom unit level P a) {R : List Field → List Program}
    (hq : ListsFrom unit level (fun fields => Program.separated (Q fields :: R fields)) b) :
    ListsFrom unit level (fun fields => Program.separated (P fields :: Q fields :: R fields))
      (a ++ b) := by
  have hblank : ListsFrom unit level (fun _ => [.blank]) [] := const rfl
  simpa [Program.separated_cons_cons] using (hp.append hblank).append hq

/-- The text of a program that lists fields. -/
theorem render (h : ListsFrom unit 0 P a) : Lists (fun fields => (P fields).render unit) a :=
  h.written.congr fun fields => Program.render_eq (h.plain fields) unit

end ListsFrom

/-! ## Files -/

/-- The files are templates with these kinds and sections, filled with the fields. -/
def Templated (files : List Field → ArtifactSet) (table : List (ArtifactKind × List Part)) : Prop :=
  ∃ templates : List Template, templates.map (fun t => (t.kind, t.sections)) = table ∧
    ∀ fields, files fields = templates.map (Template.fill fields)

namespace Templated

theorem nil : Templated (fun _ => []) [] := ⟨[], rfl, fun _ => rfl⟩

theorem cons {path : String} {kind : ArtifactKind} {content : List Field → String}
    {sections : List Part} {rest : List Field → ArtifactSet}
    {table : List (ArtifactKind × List Part)} (h : Lists content sections)
    (hrest : Templated rest table) :
    Templated (fun fields => ⟨path, kind, content fields⟩ :: rest fields)
      ((kind, sections) :: table) := by
  obtain ⟨parts, rfl, hparts⟩ := h
  obtain ⟨templates, rfl, hrest⟩ := hrest
  refine ⟨⟨path, kind, parts⟩ :: templates, rfl, fun fields => ?_⟩
  simp only [hparts, hrest, List.map_cons, Template.fill]

end Templated

end Scaffold
