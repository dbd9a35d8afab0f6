import Scaffold.Code.Indent
import Scaffold.Text.Lines

/-!
# Code programs

Generated code is described by a program: a list of instructions that append text to a page and
move its indentation level. `Op.run` and `Program.run` execute instructions on a `Page`;
`Program.render` is the text that a program writes on an empty page.
-/

set_option autoImplicit false

namespace Scaffold.Code

/-- The text written so far and the indentation level of the next line. -/
structure Page where
  level : Nat := 0
  text : String := ""
  deriving DecidableEq, Repr

namespace Page

def append (p : Page) (s : String) : Page := { p with text := p.text ++ s }

/-- The indentation in front of a line at `level`. -/
def margin (indent : Indent) (level : Nat) : String :=
  String.join (List.replicate level indent.unit)

/-- Writes a line at the current level. -/
def line (indent : Indent) (s : String) (p : Page) : Page :=
  p.append (margin indent p.level ++ s ++ "\n")

/-- Ends the current line, without indentation. -/
def blank (p : Page) : Page := p.append "\n"

/-- Writes each line of a text at the current level; empty lines are not indented. -/
def lines (indent : Indent) (s : String) (p : Page) : Page :=
  (Text.lines s).foldl (fun p s => if s.isEmpty then p.blank else p.line indent s) p

def deeper (p : Page) : Page := { p with level := p.level + 1 }

/-- One level less; level 0 is kept. -/
def shallower (p : Page) : Page := { p with level := p.level - 1 }

end Page

/-- An instruction of a code program. -/
inductive Op where
  /-- A line at the current level. -/
  | line (s : String)
  /-- Each line of a text at the current level, empty lines without indentation. -/
  | lines (s : String)
  /-- Text as it is, without indentation or line ending. -/
  | raw (s : String)
  /-- An empty line. -/
  | blank
  /-- From here on one level deeper. -/
  | indent
  /-- From here on one level less deep. -/
  | dedent
  /-- A body one level deeper, between two lines. -/
  | block (header : String) (body : List Op) (close : String)
  /-- A body one level deeper. -/
  | indented (body : List Op)

/-- A list of instructions. -/
abbrev Program := List Op

/-- The text between curly braces. -/
def braced (s : String) : String := "\x7b" ++ s ++ "\x7d"

/-- The text between double quotes. -/
def quoted (s : String) : String := "\"" ++ s ++ "\""

/-- A body between `header` with an opening curly brace and a line with the closing one. -/
def Op.braces (header : String) (body : Program) (tail : String := "") : Op :=
  .block (header ++ "\x7b") body ("\x7d" ++ tail)

mutual

/-- Executes one instruction. -/
def Op.run (unit : Indent) : Op → Page → Page
  | .line s, p => p.line unit s
  | .lines s, p => p.lines unit s
  | .raw s, p => p.append s
  | .blank, p => p.blank
  | .indent, p => p.deeper
  | .dedent, p => p.shallower
  | .block header body close, p =>
    (Op.runAll unit body (p.line unit header).deeper).shallower.line unit close
  | .indented body, p => (Op.runAll unit body p.deeper).shallower

/-- Executes instructions in order. -/
def Op.runAll (unit : Indent) : List Op → Page → Page
  | [], p => p
  | op :: rest, p => Op.runAll unit rest (op.run unit p)

end

namespace Program

/-- Executes a program. -/
def run (unit : Indent) (program : Program) (p : Page) : Page := Op.runAll unit program p

/-- The text of a program on an empty page. -/
def render (unit : Indent) (program : Program) : String := (program.run unit {}).text

/-- `body`, provided that `condition` holds. -/
def when (condition : Bool) (body : Program) : Program :=
  if condition then body else []

/-- The bodies of all items, in order. -/
def each {α : Type} (items : List α) (body : α → Program) : Program :=
  items.flatMap body

/-- The programs in order, with an empty line between neighbours. -/
def separated (programs : List Program) : Program :=
  [.blank].intercalate programs

/-- The text that each program appends when they run one after the other from `level`. -/
def texts (unit : Indent) : List Program → Nat → List String
  | [], _ => []
  | program :: rest, level =>
    let p := program.run unit { level }
    p.text :: texts unit rest p.level

end Program

end Scaffold.Code
