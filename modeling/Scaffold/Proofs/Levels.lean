import Mathlib.Algebra.BigOperators.Group.List.Basic
import Mathlib.Data.List.Induction
import Scaffold.Code.Program

/-!
# What a program does to a page

A program appends a text that depends on the level of the page and not on what stands there
(`Program.run_eq_textFrom`), and moves the level. Level 0 is kept by a move back, so that the moves
of a program do not add up. They act as a `Shift`: some levels back, as far as there are any, and
then some levels deeper; two shifts after one another are a shift again. The shift of a program
counts the moves that are left when every move deeper is cancelled against its move back
(`cancels_iff`), with those that a block or an indented body makes on its own among them.
-/

set_option autoImplicit false

namespace Scaffold.Code

/-! ## Moves -/

/-- A change of the level by one. -/
inductive Move where
  | deeper
  | back
  deriving DecidableEq

mutual

/-- The moves of an instruction, in the order in which they are made. -/
def Op.moves : Op → List Move
  | .line _ | .lines _ | .raw _ | .blank => []
  | .indent => [.deeper]
  | .dedent => [.back]
  | .block _ body _ | .indented body => .deeper :: (Op.allMoves body ++ [.back])

/-- The moves of instructions one after the other. -/
def Op.allMoves : List Op → List Move
  | [] => []
  | op :: rest => op.moves ++ Op.allMoves rest

end

/-! ## Shifts -/

/-- Some levels back, as far as there are any, and then some levels deeper. -/
@[ext]
structure Shift where
  down : Nat
  up : Nat
  deriving DecidableEq

namespace Shift

variable {s t : Shift} {level : Nat}

def apply (s : Shift) (level : Nat) : Nat := level - s.down + s.up

/-- One shift after the other: the way down of the second is first taken from the way up of the
first. -/
instance : Mul Shift := ⟨fun s t => ⟨s.down + (t.down - s.up), s.up - t.down + t.up⟩⟩

instance : One Shift := ⟨⟨0, 0⟩⟩

@[simp] theorem down_mul : (s * t).down = s.down + (t.down - s.up) := rfl
@[simp] theorem up_mul : (s * t).up = s.up - t.down + t.up := rfl
@[simp] theorem down_one : (1 : Shift).down = 0 := rfl
@[simp] theorem up_one : (1 : Shift).up = 0 := rfl

instance : Monoid Shift where
  mul_assoc r s t := by ext <;> simp <;> omega
  one_mul s := by ext <;> simp
  mul_one s := by ext <;> simp

theorem apply_one : (1 : Shift).apply level = level := rfl

theorem apply_mul : (s * t).apply level = t.apply (s.apply level) := by
  simp only [apply, down_mul, up_mul]
  omega

/-- A shift is known from what it does to level 0 and to one level that is deep enough. -/
theorem eq_of_apply (h : ∀ level, s.apply level = t.apply level) : s = t := by
  have hzero := h 0
  have hdeep := h (s.down + t.down)
  simp only [apply] at hzero hdeep
  ext <;> omega

/-- No way down is lost at level 0 if none is lost in the first shift, and none in the second one
from where the first one leads. -/
theorem down_mul_le_iff : (s * t).down ≤ level ↔ s.down ≤ level ∧ t.down ≤ s.apply level := by
  simp only [apply, down_mul]
  omega

end Shift

/-- The shift of one move. -/
def Move.shift : Move → Shift
  | deeper => ⟨0, 1⟩
  | back => ⟨1, 0⟩

/-- The shift of moves one after the other. -/
def shiftOf (moves : List Move) : Shift := (moves.map Move.shift).prod

section
variable (v w : List Move)

@[simp] theorem shiftOf_nil : shiftOf [] = 1 := rfl

@[simp]
theorem shiftOf_cons (m : Move) : shiftOf (m :: w) = m.shift * shiftOf w := by
  rw [shiftOf, List.map_cons, List.prod_cons, ← shiftOf]

@[simp]
theorem shiftOf_append : shiftOf (v ++ w) = shiftOf v * shiftOf w := by
  rw [shiftOf, List.map_append, List.prod_append, ← shiftOf, ← shiftOf]

/-- Every move back is part of the way down or undoes a move deeper. -/
theorem count_add_up : w.count .back + (shiftOf w).up = w.count .deeper + (shiftOf w).down := by
  induction w using List.reverseRecOn with
  | nil => rfl
  | append_singleton w m ih => cases m <;> simp [Move.shift] <;> omega

end

/-! ## Unmatched moves -/

/-- The second word is what is left of the first one when moves deeper are cancelled, each against
the move back right behind it. -/
inductive Cancels : List Move → List Move → Prop
  | refl (w : List Move) : Cancels w w
  | pair {u v w : List Move} (rest : Cancels (u ++ v) w) :
      Cancels (u ++ .deeper :: .back :: v) w

namespace Cancels

variable {u v w : List Move}

theorem trans (h : Cancels u v) (h' : Cancels v w) : Cancels u w := by
  induction h with
  | refl => exact h'
  | pair _ ih => exact .pair (ih h')

theorem append_right (h : Cancels v w) (u : List Move) : Cancels (v ++ u) (w ++ u) := by
  induction h with
  | refl w => exact .refl _
  | @pair a b w _ ih =>
    rw [List.append_assoc, List.cons_append, List.cons_append]
    exact .pair (by rwa [List.append_assoc] at ih)

theorem shiftOf_eq (h : Cancels v w) : shiftOf v = shiftOf w := by
  induction h with
  | refl => rfl
  | pair _ ih =>
    rw [← ih]
    ext <;> simp [Move.shift]

end Cancels

/-- The moves of a shift, none of which cancels another. -/
def Shift.word (s : Shift) : List Move :=
  List.replicate s.down .back ++ List.replicate s.up .deeper

theorem shiftOf_replicate_back (n : Nat) : shiftOf (.replicate n .back) = ⟨n, 0⟩ := by
  induction n with
  | zero => rfl
  | succ n ih =>
    rw [List.replicate_succ', shiftOf_append, ih]
    rfl

theorem shiftOf_replicate_deeper (n : Nat) : shiftOf (.replicate n .deeper) = ⟨0, n⟩ := by
  induction n with
  | zero => rfl
  | succ n ih =>
    rw [List.replicate_succ', shiftOf_append, ih]
    ext <;> simp [Move.shift]

theorem Shift.shiftOf_word (s : Shift) : shiftOf s.word = s := by
  rw [word, shiftOf_append, shiftOf_replicate_back, shiftOf_replicate_deeper]
  ext <;> simp

/-- A move behind a word that is cancelled already cancels its last move deeper or stays. -/
theorem Shift.cancels_word_append (s : Shift) (m : Move) :
    Cancels (s.word ++ [m]) (s * m.shift).word := by
  obtain ⟨down, up⟩ := s
  cases m with
  | deeper =>
    have hword : word ⟨down, up⟩ ++ [.deeper] = (⟨down, up⟩ * Move.deeper.shift : Shift).word := by
      simp [word, Move.shift, List.replicate_succ']
    rw [hword]
    exact .refl _
  | back =>
    cases up with
    | zero =>
      have hword : word ⟨down, 0⟩ ++ [.back] = (⟨down, 0⟩ * Move.back.shift : Shift).word := by
        simp [word, Move.shift, List.replicate_succ']
      rw [hword]
      exact .refl _
    | succ up =>
      have hword : word ⟨down, up + 1⟩ ++ [.back] = word ⟨down, up⟩ ++ [.deeper, .back] := by
        simp [word, List.replicate_succ']
      have hshift : (⟨down, up + 1⟩ * Move.back.shift : Shift) = ⟨down, up⟩ := by
        ext <;> simp [Move.shift]
      rw [hword, hshift]
      exact .pair (by rw [List.append_nil]; exact .refl _)

theorem cancels_word (w : List Move) : Cancels w (shiftOf w).word := by
  induction w using List.reverseRecOn with
  | nil => exact .refl _
  | append_singleton w m ih =>
    have hm : shiftOf (w ++ [m]) = shiftOf w * m.shift := by simp
    rw [hm]
    exact (ih.append_right [m]).trans (Shift.cancels_word_append _ m)

/-- The shift of a word counts its unmatched moves. -/
theorem cancels_iff {w : List Move} {s : Shift} : Cancels w s.word ↔ shiftOf w = s := by
  constructor
  · exact fun h => h.shiftOf_eq.trans s.shiftOf_word
  · rintro rfl
    exact cancels_word w

/-- A word has no unmatched move back exactly if none of its beginnings has more moves back than
moves deeper. -/
theorem down_shiftOf_eq_zero_iff {w : List Move} :
    (shiftOf w).down = 0 ↔ ∀ v, v <+: w → v.count .back ≤ v.count .deeper := by
  constructor
  · rintro h v ⟨u, rfl⟩
    rw [shiftOf_append, Shift.down_mul] at h
    have := count_add_up v
    omega
  · intro h
    induction w using List.reverseRecOn with
    | nil => rfl
    | append_singleton w m ih =>
      have hdown := ih fun v hv => h v (hv.trans (List.prefix_append w [m]))
      have hcount := h _ (List.prefix_refl (w ++ [m]))
      have hbalance := count_add_up w
      cases m with
      | deeper => simp [Move.shift, hdown]
      | back =>
        simp only [List.count_append, List.count_singleton] at hcount
        simp [Move.shift, hdown] at hcount ⊢
        omega

/-! ## Pages -/

namespace Page

/-- The page with a text before what stands on it. -/
def after (w : String) (p : Page) : Page := { p with text := w ++ p.text }

variable {unit : Indent} {w s : String} {p : Page}

@[simp] theorem level_after : (p.after w).level = p.level := rfl
@[simp] theorem text_after : (p.after w).text = w ++ p.text := rfl
@[simp] theorem deeper_after : (p.after w).deeper = p.deeper.after w := rfl
@[simp] theorem shallower_after : (p.after w).shallower = p.shallower.after w := rfl

@[simp]
theorem append_after : (p.after w).append s = (p.append s).after w := by
  simp [append, after, String.append_assoc]

@[simp]
theorem line_after : (p.after w).line unit s = (p.line unit s).after w := by
  rw [line, append_after, level_after, ← line]

@[simp]
theorem blank_after : (p.after w).blank = p.blank.after w := append_after

@[simp]
theorem lines_after : (p.after w).lines unit s = (p.lines unit s).after w := by
  unfold lines
  induction Text.lines s generalizing p with
  | nil => rfl
  | cons line rest ih =>
    rw [List.foldl_cons, List.foldl_cons]
    split
    · rw [blank_after, ih]
    · rw [line_after, ih]

theorem level_lines : (p.lines unit s).level = p.level := by
  unfold lines
  induction Text.lines s generalizing p with
  | nil => rfl
  | cons line rest ih =>
    rw [List.foldl_cons, ih]
    split <;> rfl

end Page

/-! ## Programs -/

mutual

/-- What stands on the page changes nothing of what is written behind it. -/
theorem Op.run_after (unit : Indent) (w : String) : ∀ (op : Op) (p : Page),
    op.run unit (p.after w) = (op.run unit p).after w
  | .line _, p | .lines _, p | .raw _, p | .blank, p | .indent, p | .dedent, p => by
    simp [Op.run]
  | .block header body close, p => by
    rw [Op.run, Op.run, Page.line_after, Page.deeper_after, Op.runAll_after unit w body,
      Page.shallower_after, Page.line_after]
  | .indented body, p => by
    rw [Op.run, Op.run, Page.deeper_after, Op.runAll_after unit w body, Page.shallower_after]

theorem Op.runAll_after (unit : Indent) (w : String) : ∀ (ops : List Op) (p : Page),
    Op.runAll unit ops (p.after w) = (Op.runAll unit ops p).after w
  | [], _ => rfl
  | op :: rest, p => by
    rw [Op.runAll, Op.runAll, Op.run_after unit w op, Op.runAll_after unit w rest]

end

mutual

theorem Op.level_run (unit : Indent) : ∀ (op : Op) (p : Page),
    (op.run unit p).level = (shiftOf op.moves).apply p.level
  | .line _, _ | .raw _, _ | .blank, _ | .indent, _ | .dedent, _ => rfl
  | .lines _, _ => Page.level_lines
  | .block header body _, p => by
    have hbody := Op.level_runAll unit body (p.line unit header).deeper
    rw [Op.run, Op.moves, shiftOf_cons, shiftOf_append, Shift.apply_mul, Shift.apply_mul]
    exact congrArg (· - 1) hbody
  | .indented body, p => by
    have hbody := Op.level_runAll unit body p.deeper
    rw [Op.run, Op.moves, shiftOf_cons, shiftOf_append, Shift.apply_mul, Shift.apply_mul]
    exact congrArg (· - 1) hbody

theorem Op.level_runAll (unit : Indent) : ∀ (ops : List Op) (p : Page),
    (Op.runAll unit ops p).level = (shiftOf (Op.allMoves ops)).apply p.level
  | [], _ => rfl
  | op :: rest, p => by
    rw [Op.runAll, Op.level_runAll unit rest, Op.level_run unit op, Op.allMoves, shiftOf_append,
      Shift.apply_mul]

end

namespace Program

/-- The unmatched moves of a program. -/
def shift (P : Program) : Shift := shiftOf (Op.allMoves P)

/-- The text that a program writes from a level. -/
def textFrom (unit : Indent) (P : Program) (level : Nat) : String := (P.run unit { level }).text

variable (unit : Indent) (P Q : Program) (p : Page)

theorem run_eq_textFrom :
    P.run unit p = ⟨P.shift.apply p.level, p.text ++ P.textFrom unit p.level⟩ := by
  have hp : p = Page.after p.text { level := p.level } := by simp [Page.after]
  have hlevel : (P.run unit p).level = P.shift.apply p.level := Op.level_runAll unit P p
  have htext : (P.run unit p).text = p.text ++ P.textFrom unit p.level := by
    conv_lhs => rw [hp]
    exact congrArg Page.text (Op.runAll_after unit p.text P _)
  rw [← hlevel, ← htext]

theorem run_append : (P ++ Q).run unit p = Q.run unit (P.run unit p) := by
  induction P generalizing p with
  | nil => rfl
  | cons op rest ih => exact ih (op.run unit p)

theorem run_when (condition : Bool) :
    (when condition P).run unit p = if condition then P.run unit p else p := by
  cases condition <;> rfl

theorem run_each {α : Type} (items : List α) (body : α → Program) :
    (each items body).run unit p = items.foldl (fun p item => (body item).run unit p) p := by
  induction items generalizing p with
  | nil => rfl
  | cons item rest ih =>
    have hcons : each (item :: rest) body = body item ++ each rest body := List.flatMap_cons
    rw [hcons, run_append, ih, List.foldl_cons]

/-- A program that keeps the level as a body is one that keeps it altogether. -/
theorem level_body {P : Program} (h : P.shift = 1) (header close : String) :
    (Op.run unit (.block header P close) p).level = p.level ∧
      (Op.run unit (.indented P) p).level = p.level := by
  have hmoves : shiftOf (.deeper :: (Op.allMoves P ++ [.back])) = 1 := by
    rw [shiftOf_cons, shiftOf_append, ← shift, h]
    rfl
  constructor
  · rw [Op.level_run, Op.moves, hmoves, Shift.apply_one]
  · rw [Op.level_run, Op.moves, hmoves, Shift.apply_one]

/-- What a program does to a page. -/
structure Composes (P : Program) : Prop where
  /-- It appends a text that hangs on the level alone and shifts the level. -/
  run_eq : ∀ unit p, P.run unit p =
    ⟨p.level - P.shift.down + P.shift.up, p.text ++ P.textFrom unit p.level⟩
  /-- The shift consists of the moves that are left when those that match are struck out. -/
  unmatched : Cancels (Op.allMoves P)
    (.replicate P.shift.down .back ++ .replicate P.shift.up .deeper)
  /-- No other shift moves every level as the program does. -/
  shift_unique : ∀ down up,
    (∀ unit level, (P.run unit { level }).level = level - down + up) ↔
      down = P.shift.down ∧ up = P.shift.up
  /-- As a body, a program without unmatched moves keeps the level. -/
  body : P.shift = ⟨0, 0⟩ → ∀ header close unit p,
    (Op.run unit (.block header P close) p).level = p.level ∧
      (Op.run unit (.indented P) p).level = p.level
  append : ∀ Q unit p, (P ++ Q).run unit p = Q.run unit (P.run unit p)
  when : ∀ condition unit p,
    (when condition P).run unit p = if condition then P.run unit p else p

/-- **Programs are compositional.** A program appends a text that hangs on the level alone and shifts
the level by its unmatched moves, which no other shift does. A body without unmatched moves keeps the
level, and programs after one another, a conditional one and a repeated one run as they read. -/
theorem run_compositional :
    (∀ P : Program, P.Composes) ∧
    ∀ {α : Type} (items : List α) (body : α → Program) unit p,
      (each items body).run unit p = items.foldl (fun p item => (body item).run unit p) p := by
  refine ⟨fun P => ?_, fun items body unit p => run_each unit p items body⟩
  have hlevel : ∀ unit level, (P.run unit { level }).level = P.shift.apply level :=
    fun unit level => Op.level_runAll unit P { level }
  exact {
    run_eq := fun unit p => run_eq_textFrom unit P p
    unmatched := cancels_word _
    shift_unique := fun down up => by
      constructor
      · intro h
        have hshift : (⟨down, up⟩ : Shift) = P.shift := Shift.eq_of_apply fun level =>
          (h .tab level).symm.trans (hlevel .tab level)
        rw [← hshift]
        exact ⟨rfl, rfl⟩
      · rintro ⟨rfl, rfl⟩
        exact hlevel
    body := fun h header close unit p => level_body unit p h header close
    append := fun Q unit p => run_append unit P Q p
    when := fun condition unit p => run_when unit P p condition }

theorem run_compositional_body :
    shift [.indent, .line "1,", .dedent] = ⟨0, 0⟩ ∧
    (Op.run .tab (.block "[" [.indent, .line "1,", .dedent] "]") { level := 2 }).level = 2 :=
  ⟨by decide, ((run_compositional.1 _).body (by decide) "[" "]" .tab { level := 2 }).1⟩

/-- A move back from level 0 is lost, and a later move deeper does not make up for it. -/
example : shift [.dedent, .indented [.dedent, .dedent], .indent] = ⟨3, 1⟩ := by decide

end Program

end Scaffold.Code
