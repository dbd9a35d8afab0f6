import Scaffold.Text.CaseTable
import Scaffold.Text.Cased

/-!
# Upper and lower case

Full case mappings: a character's image is a list of characters. The lower case of a whole text
differs from that of its characters in one letter, the capital sigma, which becomes `ς` at the end
of a word and `σ` elsewhere.
-/

set_option autoImplicit false

namespace Scaffold.Text

/-- The lower case of a character that stands alone. -/
def lowerChar (c : Char) : List Char :=
  if c = 'İ' then ['i', '\u0307'] else [.ofNat (CaseRun.image lowerRuns c.toNat)]

/-- The upper case of a character that stands alone. -/
def upperChar (c : Char) : List Char :=
  match upperExpansions.lookup c.toNat with
  | some image => image.map .ofNat
  | none => [.ofNat (CaseRun.image upperRuns c.toNat)]

/-- Past the case-ignorable characters there is a cased one. -/
def startsCased (s : List Char) : Bool :=
  match s.dropWhile isCaseIgnorable with
  | [] => false
  | c :: _ => isCased c

/-- The lower case of a capital sigma between `before`, read backwards, and `after`. -/
def lowerSigma (before after : List Char) : Char :=
  if startsCased before && !startsCased after then 'ς' else 'σ'

/-- The lower case of a text that follows `before`, which is read backwards. -/
def lowerFrom (before : List Char) : List Char → List Char
  | [] => []
  | c :: rest =>
    (if c = 'Σ' then [lowerSigma before rest] else lowerChar c) ++ lowerFrom (c :: before) rest

/-- The lower case of a text. -/
def lowerChars (s : List Char) : List Char :=
  lowerFrom [] s

/-- The lower case of a text. -/
def lower (s : String) : String :=
  .ofList (lowerChars s.toList)

end Scaffold.Text
