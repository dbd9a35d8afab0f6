import Scaffold.Entity
import Scaffold.Proofs.Identifiers
import Scaffold.Proofs.PlainPrograms
import Scaffold.Text.Decimal
import Scaffold.Vocabulary

/-!
# Texts of one line

A text without a line feed is `OneLine`. The lines of a text that is written line by line are read
back from it (`lines_unlines`), and what is made from one-line names, types and numbers is one line
again.
-/

set_option autoImplicit false

namespace Scaffold.Text

open Code Naming

/-- No line feed occurs in the text. -/
def OneLine (s : String) : Prop := '\n' ∉ s.toList

instance (s : String) : Decidable (OneLine s) := inferInstanceAs (Decidable (_ ∉ _))

@[simp]
theorem oneLine_append {s t : String} : OneLine (s ++ t) ↔ OneLine s ∧ OneLine t := by
  simp [OneLine]

/-- A literal is checked character by character. -/
theorem oneLine_ofList {s : List Char} (h : '\n' ∉ s) : OneLine (.ofList s) := by
  simpa [OneLine] using h

theorem oneLine_ite {p : Prop} [Decidable p] {s t : String} (hs : OneLine s) (ht : OneLine t) :
    OneLine (if p then s else t) := by
  split
  · exact hs
  · exact ht

theorem oneLine_intercalate {separator : String} (h : OneLine separator) :
    ∀ {items : List String}, (∀ item ∈ items, OneLine item) →
      OneLine (String.intercalate separator items)
  | [], _ => by
    rw [String.intercalate_nil]
    decide
  | [item], hitems => by simpa using hitems
  | first :: second :: rest, hitems => by
    obtain ⟨hfirst, hrest⟩ := List.forall_mem_cons.1 hitems
    rw [String.intercalate_cons_cons, oneLine_append, oneLine_append]
    exact ⟨⟨hfirst, h⟩, oneLine_intercalate h hrest⟩

/-! ## Reading lines back -/

theorem splitFeeds_append {line : List Char} (h : '\n' ∉ line) (rest : List Char) :
    splitFeeds (line ++ '\n' :: rest) = (line :: (splitFeeds rest).1, (splitFeeds rest).2) := by
  induction line with
  | nil => simp [splitFeeds]
  | cons c line ih =>
    obtain ⟨hc, hline⟩ : '\n' ≠ c ∧ '\n' ∉ line := by simpa using h
    rw [List.cons_append, splitFeeds, ih hline]
    simp [hc.symm]

theorem splitFeeds_unlines {lines : List String} (h : ∀ line ∈ lines, OneLine line) :
    splitFeeds (unlines lines).toList = (lines.map String.toList, []) := by
  induction lines with
  | nil => rfl
  | cons line rest ih =>
    obtain ⟨hline, hrest⟩ := List.forall_mem_cons.1 h
    have htext : (unlines (line :: rest)).toList =
        line.toList ++ '\n' :: (unlines rest).toList := by simp
    rw [htext, splitFeeds_append hline, ih hrest, List.map_cons]

/-- The lines of a text that was written line by line, less the carriage returns at their ends. -/
theorem lines_unlines {lines : List String} (h : ∀ line ∈ lines, OneLine line) :
    Text.lines (unlines lines) = lines.map fun line => .ofList (dropReturn line.toList) := by
  rw [Text.lines, lineChars, splitFeeds_unlines h]
  simp

/-! ## Names, types and numbers -/

theorem caseless_newline : Caseless '\n' := by decide +kernel

theorem OneLine.lower {s : String} (h : OneLine s) : OneLine (lower s) :=
  mt caseless_newline.mem_lower.1 h

theorem OneLine.pascal {s : String} (h : OneLine s) : OneLine (pascal s) :=
  mt caseless_newline.mem_of_mem_pascal h

theorem OneLine.camel {s : String} (h : OneLine s) : OneLine (camel s) :=
  mt caseless_newline.mem_of_mem_camel h

theorem OneLine.kebab {s : String} (h : OneLine s) : OneLine (kebab s) :=
  mt (caseless_newline.mem_of_mem_kebab (by decide)) h

theorem OneLine.pluralize {s : String} (h : OneLine s) : OneLine (pluralize s) :=
  mt (mem_of_mem_pluralize (by decide)) h

/-- A numeral is made of digits and a sign. -/
theorem mem_intDigits {c : Char} {n : Int} (h : c ∈ (intDigits n).toList) :
    c = '-' ∨ c.isDigit = true := by
  rw [intDigits, natDigits, String.toList_append, String.toList_ofList, List.mem_append] at h
  refine h.imp (fun h => ?_) fun h => Nat.isDigit_of_mem_toDigits (by decide) (by decide) h
  split at h
  · simpa using h
  · cases h

theorem oneLine_intDigits (n : Int) : OneLine (intDigits n) := fun h => by
  rcases mem_intDigits h with h | h
  · cases h
  · simp at h

end Scaffold.Text

namespace Scaffold.Code

open Text

/-! ## Programs of one-line texts -/

mutual

/-- A plain instruction whose texts are one line each. -/
def Op.IsTidy : Op → Prop
  | .line s => OneLine s
  | .blank => True
  | .block header body close => OneLine header ∧ Op.AllTidy body ∧ OneLine close
  | .indented body => Op.AllTidy body
  | .lines _ | .raw _ | .indent | .dedent => False

/-- All instructions are tidy. -/
def Op.AllTidy : List Op → Prop
  | [] => True
  | op :: rest => op.IsTidy ∧ Op.AllTidy rest

end

theorem Op.allTidy_iff {ops : List Op} : Op.AllTidy ops ↔ ∀ op ∈ ops, op.IsTidy := by
  induction ops with
  | nil => simp [Op.AllTidy]
  | cons op rest ih => simp [Op.AllTidy, ih]

theorem Op.allTidy_append {a b : List Op} :
    Op.AllTidy (a ++ b) ↔ Op.AllTidy a ∧ Op.AllTidy b := by
  simp [Op.allTidy_iff, or_imp, forall_and]

theorem Op.allTidy_lines {α : Type} {items : List α} {s : α → String}
    (h : ∀ item ∈ items, OneLine (s item)) : Op.AllTidy (items.map fun item => .line (s item)) := by
  rw [Op.allTidy_iff]
  exact List.forall_mem_map.2 h

theorem Op.allTidy_when {condition : Bool} {body : Program} (h : Op.AllTidy body) :
    Op.AllTidy (Program.when condition body) := by
  unfold Program.when
  split
  · exact h
  · trivial

theorem oneLine_lineAt {unit : Indent} {level : Nat} {s : String} (h : OneLine s) :
    OneLine (lineAt unit level s) := by
  induction level with
  | zero => rwa [lineAt_zero]
  | succ level ih =>
    rw [lineAt_succ, oneLine_append]
    refine ⟨?_, ih⟩
    unfold Indent.unit
    split <;> decide

mutual

theorem Op.IsTidy.isPlain : ∀ {op : Op}, op.IsTidy → op.isPlain = true
  | .line _, _ | .blank, _ => rfl
  | .block _ _ _, h => Op.AllTidy.allPlain h.2.1
  | .indented _, h => Op.AllTidy.allPlain h

theorem Op.AllTidy.allPlain : ∀ {ops : List Op}, Op.AllTidy ops → Op.allPlain ops = true
  | [], _ => rfl
  | _ :: _, h => by rw [Op.allPlain, h.1.isPlain, h.2.allPlain, Bool.and_self]

end

mutual

/-- A tidy instruction writes lines of one line. -/
theorem Op.IsTidy.oneLine {unit : Indent} {level : Nat} {line : String} :
    ∀ {op : Op}, op.IsTidy → line ∈ op.written unit level → OneLine line
  | .line _, h, hl => List.mem_singleton.1 hl ▸ oneLine_lineAt h
  | .blank, _, hl => by
    rw [List.mem_singleton.1 hl]
    decide
  | .block _ _ _, ⟨hheader, hbody, hclose⟩, hl => by
    rw [Op.written, List.mem_cons, List.mem_append, List.mem_singleton] at hl
    rcases hl with rfl | hl | rfl
    · exact oneLine_lineAt hheader
    · exact hbody.oneLine hl
    · exact oneLine_lineAt hclose
  | .indented _, h, hl => Op.AllTidy.oneLine h (by rwa [Op.written] at hl)

theorem Op.AllTidy.oneLine {unit : Indent} {level : Nat} {line : String} :
    ∀ {ops : List Op}, Op.AllTidy ops → line ∈ Op.allWritten unit level ops → OneLine line
  | _ :: _, ⟨hop, hrest⟩, hl => by
    rw [Op.allWritten, List.mem_append] at hl
    exact hl.elim hop.oneLine hrest.oneLine

end

end Scaffold.Code

namespace Scaffold

open Text

/-- What holds of every target holds of what is found. -/
theorem TypeTable.of_find? {t : TypeTable} {p : String → Prop} {type target : String}
    (hentries : ∀ entry ∈ t.entries, p entry.2) (h : t.find? type = some target) : p target := by
  obtain ⟨l₁, l₂, he, -⟩ := List.lookup_eq_some_iff.1 h
  exact hentries (type, target) (by simp [he])

/-- What holds of the fallback and of every target holds of what is looked up. -/
theorem TypeTable.forall_lookup {t : TypeTable} {p : String → Prop} (h : p t.fallback)
    (hentries : ∀ entry ∈ t.entries, p entry.2) (type : String) : p (t.lookup type) := by
  unfold lookup
  cases hl : t.find? type with
  | none => exact h
  | some target => exact of_find? hentries hl

/-- The identifiers and the route of the entity are one line each. -/
structure Entity.IsOneLine (e : Entity) : Prop where
  module : OneLine e.module
  pascal : OneLine e.pascal
  camel : OneLine e.camel
  route : OneLine e.routeSegment

theorem Entity.isOneLine_named {name : String} (h : OneLine name) : (named name).IsOneLine where
  module := h.lower
  pascal := h.lower.pascal
  camel := h.lower.camel
  route := h.lower.pluralize.kebab

theorem Stack.oneLine_nullable {type : String} (h : OneLine type) (stack : Stack) :
    OneLine (stack.nullable type) := by
  have hmarks : OneLine "*" ∧ OneLine "?" ∧ OneLine " | null" := by decide
  cases stack <;> simp only [nullable] <;> split <;> simp [h, hmarks]

end Scaffold
