import Scaffold.Code.Program

/-!
# Programs that write whole lines

A program is plain if it is made of lines, empty lines and bodies one level deeper; all generated
files but no hand-written text are of this form. Such a program returns to the level where it
started and appends its lines, whatever stands on the page (`Op.run_eq`), so that `render` is the
text of `Op.allWritten` from level 0 (`Program.render_eq`). The lines of a composite program are
those of its parts.
-/

set_option autoImplicit false

namespace Scaffold.Code

/-! ## Lines -/

/-- The text with these lines. -/
def unlines (lines : List String) : String := String.join (lines.map (· ++ "\n"))

@[simp]
theorem unlines_nil : unlines [] = "" := by simp [unlines]

@[simp]
theorem unlines_cons (line : String) (rest : List String) :
    unlines (line :: rest) = line ++ "\n" ++ unlines rest := by
  simp [unlines]

@[simp]
theorem unlines_append (a b : List String) : unlines (a ++ b) = unlines a ++ unlines b := by
  simp [unlines]

theorem unlines_flatMap {α : Type} (items : List α) (f : α → List String) :
    unlines (items.flatMap f) = String.join (items.map fun item => unlines (f item)) := by
  induction items with
  | nil => simp
  | cons item rest ih =>
    rw [List.flatMap_cons, unlines_append, ih, List.map_cons, String.join_cons]

/-- A line of `s` at a level. -/
def lineAt (unit : Indent) (level : Nat) (s : String) : String := Page.margin unit level ++ s

theorem lineAt_zero (unit : Indent) (s : String) : lineAt unit 0 s = s := by
  simp [lineAt, Page.margin]

theorem lineAt_succ (unit : Indent) (level : Nat) (s : String) :
    lineAt unit (level + 1) s = unit.unit ++ lineAt unit level s := by
  simp [lineAt, Page.margin, List.replicate_succ, String.append_assoc]

/-! ## Plain programs -/

mutual

/-- The instruction writes whole lines and keeps the level. -/
def Op.isPlain : Op → Bool
  | .line _ | .blank => true
  | .block _ body _ | .indented body => Op.allPlain body
  | .lines _ | .raw _ | .indent | .dedent => false

/-- All instructions are plain. -/
def Op.allPlain : List Op → Bool
  | [] => true
  | op :: rest => op.isPlain && Op.allPlain rest

end

mutual

/-- The lines that a plain instruction writes from a level. -/
def Op.written (unit : Indent) (level : Nat) : Op → List String
  | .line s => [lineAt unit level s]
  | .blank => [""]
  | .block header body close =>
    lineAt unit level header :: (Op.allWritten unit (level + 1) body ++ [lineAt unit level close])
  | .indented body => Op.allWritten unit (level + 1) body
  | .lines _ | .raw _ | .indent | .dedent => []

/-- The lines that plain instructions write from a level. -/
def Op.allWritten (unit : Indent) (level : Nat) : List Op → List String
  | [] => []
  | op :: rest => op.written unit level ++ Op.allWritten unit level rest

end

mutual

/-- A plain instruction appends its lines. -/
theorem Op.run_eq (unit : Indent) : ∀ (op : Op) (p : Page), op.isPlain = true →
    op.run unit p = { p with text := p.text ++ unlines (op.written unit p.level) }
  | .line s, p, _ => by
    simp [Op.run, Op.written, lineAt, Page.line, Page.append]
  | .blank, p, _ => by simp [Op.run, Op.written, Page.blank, Page.append]
  | .block header body close, p, h => by
    rw [Op.run, Op.runAll_eq unit body _ h]
    simp [Op.written, lineAt, Page.line, Page.append, Page.deeper, Page.shallower,
      String.append_assoc]
  | .indented body, p, h => by
    rw [Op.run, Op.runAll_eq unit body _ h]
    simp [Op.written, Page.deeper, Page.shallower]

theorem Op.runAll_eq (unit : Indent) : ∀ (ops : List Op) (p : Page), Op.allPlain ops = true →
    Op.runAll unit ops p = { p with text := p.text ++ unlines (Op.allWritten unit p.level ops) }
  | [], p, _ => by simp [Op.runAll, Op.allWritten]
  | op :: rest, p, h => by
    rw [Op.allPlain, Bool.and_eq_true] at h
    rw [Op.runAll, Op.run_eq unit op p h.1, Op.runAll_eq unit rest _ h.2]
    simp [Op.allWritten, String.append_assoc]

end

theorem Op.allPlain_eq (ops : List Op) : Op.allPlain ops = ops.all Op.isPlain := by
  induction ops with
  | nil => rfl
  | cons op rest ih => rw [Op.allPlain, ih, List.all_cons]

theorem Op.allPlain_lines {α : Type} (items : List α) (s : α → String) :
    Op.allPlain (items.map fun item => .line (s item)) = true := by
  simp [Op.allPlain_eq, Op.isPlain]

theorem Op.allWritten_eq (unit : Indent) (level : Nat) (ops : List Op) :
    Op.allWritten unit level ops = ops.flatMap (Op.written unit level) := by
  induction ops with
  | nil => rfl
  | cons op rest ih => rw [Op.allWritten, ih, List.flatMap_cons]

theorem Op.allWritten_append (unit : Indent) (level : Nat) (a b : List Op) :
    Op.allWritten unit level (a ++ b) = Op.allWritten unit level a ++ Op.allWritten unit level b := by
  simp [Op.allWritten_eq]

theorem Op.allWritten_lines (unit : Indent) (level : Nat) {α : Type} (items : List α)
    (s : α → String) : Op.allWritten unit level (items.map fun item => .line (s item)) =
      items.map fun item => lineAt unit level (s item) := by
  rw [Op.allWritten_eq, List.flatMap_map, List.map_eq_flatMap]
  rfl

theorem Op.mem_allWritten_of_mem {unit : Indent} {level : Nat} {op : Op} {ops : List Op}
    {line : String} (h : op ∈ ops) (hl : line ∈ op.written unit level) :
    line ∈ Op.allWritten unit level ops := by
  rw [Op.allWritten_eq]
  exact List.mem_flatMap.2 ⟨op, h, hl⟩

theorem Op.infix_allWritten (unit : Indent) (level : Nat) {a b : List Op} (h : a <:+: b) :
    Op.allWritten unit level a <:+: Op.allWritten unit level b := by
  obtain ⟨s, t, rfl⟩ := h
  rw [Op.allWritten_append, Op.allWritten_append]
  exact List.infix_append ..

/-! ## Lines by level -/

mutual

/-- A line below the outermost level is indented or empty. -/
theorem Op.indented_of_mem_written {unit : Indent} {level : Nat} {line : String} :
    ∀ {op : Op}, line ∈ op.written unit (level + 1) → line = "" ∨ ∃ s, line = unit.unit ++ s
  | .line s, h => .inr ⟨_, (List.mem_singleton.1 h).trans (lineAt_succ unit level s)⟩
  | .blank, h => .inl (List.mem_singleton.1 h)
  | .block header body close, h => by
    rw [Op.written, List.mem_cons, List.mem_append, List.mem_singleton] at h
    rcases h with h | h | h
    · exact .inr ⟨_, h.trans (lineAt_succ unit level header)⟩
    · exact Op.indented_of_mem_allWritten h
    · exact .inr ⟨_, h.trans (lineAt_succ unit level close)⟩
  | .indented body, h => Op.indented_of_mem_allWritten (by rwa [Op.written] at h)

theorem Op.indented_of_mem_allWritten {unit : Indent} {level : Nat} {line : String} :
    ∀ {ops : List Op}, line ∈ Op.allWritten unit (level + 1) ops →
      line = "" ∨ ∃ s, line = unit.unit ++ s
  | op :: rest, h => by
    rw [Op.allWritten, List.mem_append] at h
    exact h.elim Op.indented_of_mem_written Op.indented_of_mem_allWritten

end

/-- The texts that stand at the level of the instruction. -/
def Op.heads : Op → List String
  | .line s => [s]
  | .block header _ close => [header, close]
  | _ => []

/-- A line of the outermost level is indented, empty or a head. -/
theorem Op.head_of_mem_written {unit : Indent} {line : String} {op : Op}
    (h : line ∈ op.written unit 0) :
    line ∈ op.heads ∨ line = "" ∨ ∃ s, line = unit.unit ++ s := by
  cases op with
  | line s => exact .inl (by simpa [Op.written, Op.heads, lineAt_zero] using h)
  | blank => exact .inr (.inl (List.mem_singleton.1 h))
  | block header body close =>
    rw [Op.written, List.mem_cons, List.mem_append, List.mem_singleton, lineAt_zero,
      lineAt_zero] at h
    rcases h with rfl | h | rfl
    · exact .inl (by simp [Op.heads])
    · exact .inr (Op.indented_of_mem_allWritten h)
    · exact .inl (by simp [Op.heads])
  | indented body => exact .inr (Op.indented_of_mem_allWritten (by rwa [Op.written] at h))
  | _ => cases h

/-- The heads of an instruction are lines of the outermost level. -/
theorem Op.mem_allWritten_of_mem_heads {unit : Indent} {s : String} {op : Op} {ops : List Op}
    (h : op ∈ ops) (hs : s ∈ op.heads) : s ∈ Op.allWritten unit 0 ops := by
  refine Op.mem_allWritten_of_mem h ?_
  cases op with
  | line t => simpa [Op.written, Op.heads, lineAt_zero] using hs
  | block header body close =>
    simp only [Op.heads, List.mem_cons, List.not_mem_nil, or_false] at hs
    rcases hs with rfl | rfl <;> simp [Op.written, lineAt_zero]
  | _ => cases hs

namespace Program

theorem all_when (condition : Bool) (body : Program) (p : Op → Bool) :
    (when condition body).all p = (!condition || body.all p) := by
  cases condition <;> simp [when]

/-- The text of a plain program. -/
theorem render_eq {program : Program} (h : Op.allPlain program = true) (unit : Indent) :
    program.render unit = unlines (Op.allWritten unit 0 program) := by
  simp [render, run, Op.runAll_eq unit program _ h]

theorem separated_one (program : Program) : separated [program] = program := by
  simp [separated]

theorem separated_cons_cons (first second : Program) (rest : List Program) :
    separated (first :: second :: rest) = first ++ [.blank] ++ separated (second :: rest) := by
  simp [separated, List.intercalate]

/-- Besides the empty lines, separated programs hold the instructions of all of them. -/
theorem mem_separated {op : Op} : ∀ {programs : List Program},
    op ∈ separated programs → op = .blank ∨ ∃ program ∈ programs, op ∈ program
  | [], h => by cases h
  | [first], h => .inr ⟨first, .head _, by rwa [separated_one] at h⟩
  | first :: second :: rest, h => by
    rw [separated_cons_cons, List.mem_append, List.mem_append, List.mem_singleton] at h
    rcases h with (h | h) | h
    · exact .inr ⟨first, .head _, h⟩
    · exact .inl h
    · exact (mem_separated h).imp_right fun ⟨program, hp, h⟩ => ⟨program, .tail _ hp, h⟩

/-- Behind the first program there are only empty lines and the others. -/
theorem exists_separated_cons (first : Program) (programs : List Program) :
    ∃ rest, separated (first :: programs) = first ++ rest ∧
      ∀ op ∈ rest, op = .blank ∨ ∃ program ∈ programs, op ∈ program := by
  cases programs with
  | nil => exact ⟨[], by rw [separated_one, List.append_nil], nofun⟩
  | cons second programs =>
    refine ⟨[.blank] ++ separated (second :: programs), ?_, ?_⟩
    · rw [separated_cons_cons, List.append_assoc]
    · rw [List.forall_mem_append, List.forall_mem_singleton]
      exact ⟨.inl rfl, fun op => mem_separated⟩

/-- Each of the programs stands in one piece. -/
theorem infix_separated {program : Program} :
    ∀ {programs : List Program}, program ∈ programs → program <:+: separated programs
  | [first], h => by
    obtain rfl := List.mem_singleton.1 h
    exact ⟨[], [], by simp [separated_one]⟩
  | first :: second :: rest, h => by
    rw [separated_cons_cons]
    rcases List.mem_cons.1 h with rfl | h
    · rw [List.append_assoc]
      exact (List.prefix_append ..).isInfix
    · exact (infix_separated h).trans (List.suffix_append ..).isInfix

end Program

end Scaffold.Code
