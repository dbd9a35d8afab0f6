import Scaffold.Proofs.Levels
import Scaffold.Proofs.OneLine

/-!
# Indenting a program

A program that runs `k` levels deeper writes the same lines, `k` units further to the right. The two
runs are compared page by page (`Page.Under`): every instruction that writes whole lines keeps the
pages `k` levels apart, as long as no move back is lost at level 0 of the outer page
(`Op.run_under`). None is lost in a program that never goes back behind the level of its start, so
its text is indented as a whole (`Program.textFrom_add`).
-/

set_option autoImplicit false

namespace Scaffold.Code

open Text

/-! ## Indented texts -/

/-- A line behind a margin; an empty line stays empty. -/
def indentLine (margin line : String) : String := if line = "" then "" else margin ++ line

/-- The text with a margin in front of each of its lines, but for the empty ones. -/
def indentText (margin text : String) : String :=
  String.intercalate "\n" ((text.toList.splitOn '\n').map fun line => indentLine margin (.ofList line))

/-- Lines with an ending each are joined like lines with separators and an empty last one. -/
theorem intercalate_eq_unlines (lines : List String) :
    String.intercalate "\n" (lines ++ [""]) = unlines lines := by
  induction lines with
  | nil => simp
  | cons line rest ih =>
    obtain ⟨next, more, hmore⟩ := List.exists_cons_of_ne_nil
      (List.append_ne_nil_of_right_ne_nil rest (List.cons_ne_nil "" []))
    rw [List.cons_append, hmore, String.intercalate_cons_cons, ← hmore, ih, unlines_cons]

/-- Every line has an ending, so that an empty piece is left at the end. -/
theorem splitOn_unlines {lines : List String} (h : ∀ line ∈ lines, OneLine line) :
    (unlines lines).toList.splitOn '\n' = lines.map String.toList ++ [[]] := by
  rw [← intercalate_eq_unlines, String.toList_intercalate]
  refine (List.splitOn_intercalate '\n' ?_ (by simp)).trans ?_
  · simpa [or_imp, forall_and, OneLine] using h
  · simp

theorem indentText_unlines (margin : String) {lines : List String}
    (h : ∀ line ∈ lines, OneLine line) :
    indentText margin (unlines lines) = unlines (lines.map (indentLine margin)) := by
  rw [indentText, splitOn_unlines h, List.map_append, List.map_map, ← intercalate_eq_unlines]
  simp [Function.comp_def, indentLine.eq_def margin ""]

/-- A line at a deeper level is the line behind the units of the difference. -/
theorem lineAt_add (unit : Indent) (level k : Nat) (s : String) :
    lineAt unit (level + k) s = Page.margin unit k ++ lineAt unit level s := by
  induction k with
  | zero => simp [Page.margin]
  | succ k ih =>
    have hmargin : Page.margin unit (k + 1) = unit.unit ++ Page.margin unit k := by
      simp [Page.margin, List.replicate_succ]
    rw [← Nat.add_assoc, lineAt_succ, ih, hmargin, String.append_assoc]

theorem newline_not_mem_splitFeeds : ∀ s : List Char,
    (∀ line ∈ (splitFeeds s).1, '\n' ∉ line) ∧ '\n' ∉ (splitFeeds s).2
  | [] => by simp [splitFeeds]
  | c :: rest => by
    obtain ⟨hended, hlast⟩ := newline_not_mem_splitFeeds rest
    rw [splitFeeds]
    grind

/-- The lines of a text hold no line feed. -/
theorem oneLine_of_mem_lines {s line : String} (h : line ∈ Text.lines s) : OneLine line := by
  obtain ⟨chars, hchars, rfl⟩ := List.mem_map.1 h
  obtain ⟨hended, hlast⟩ := newline_not_mem_splitFeeds s.toList
  refine oneLine_ofList ?_
  rw [lineChars, List.mem_append] at hchars
  rcases hchars with hchars | hchars
  · obtain ⟨line, hline, rfl⟩ := List.mem_map.1 hchars
    unfold dropReturn
    split
    · exact fun hmem => hended line hline (List.dropLast_subset line hmem)
    · exact hended line hline
  · split at hchars
    · cases hchars
    · rwa [List.mem_singleton.1 hchars]

/-! ## Pages on different levels -/

/-- The second page is `k` levels deeper and has the lines of the first one, indented by `k`
units. -/
structure Page.Under (unit : Indent) (k : Nat) (p q : Page) : Prop where
  level : q.level = p.level + k
  text : ∃ lines : List String, (∀ line ∈ lines, OneLine line) ∧ p.text = unlines lines ∧
    q.text = unlines (lines.map (indentLine (Page.margin unit k)))

/-- A text of one line that is not empty. -/
def IsLine (s : String) : Prop := s ≠ "" ∧ OneLine s

instance (s : String) : Decidable (IsLine s) := inferInstanceAs (Decidable (_ ∧ _))

namespace Page.Under

variable {unit : Indent} {k : Nat} {p q : Page} (h : p.Under unit k q)
include h

theorem write {line : String} (hline : OneLine line) :
    (p.append (line ++ "\n")).Under unit k
      (q.append (indentLine (margin unit k) line ++ "\n")) := by
  obtain ⟨lines, hlines, hp, hq⟩ := h.text
  refine ⟨h.level, lines ++ [line], ?_, ?_, ?_⟩
  · simpa [or_imp, forall_and, hline] using hlines
  · simp [append, hp]
  · simp [append, hq]

theorem line {s : String} (hs : IsLine s) :
    (p.line unit s).Under unit k (q.line unit s) := by
  have hne : lineAt unit p.level s ≠ "" := fun he => hs.1 <| by
    simpa [lineAt, String.append_eq_empty_iff] using (String.append_eq_empty_iff.1 he).2
  have hq : q.line unit s = q.append (indentLine (margin unit k) (lineAt unit p.level s) ++ "\n") := by
    rw [indentLine, if_neg hne, ← lineAt_add, ← h.level]
    rfl
  rw [hq]
  exact h.write (oneLine_lineAt hs.2)

theorem blank : p.blank.Under unit k q.blank := h.write (show OneLine "" by decide)

theorem deeper : p.deeper.Under unit k q.deeper :=
  ⟨(congrArg (· + 1) h.level).trans (Nat.add_right_comm ..), h.text⟩

/-- At level 0 of the outer page the inner one alone would go back. -/
theorem shallower (hlevel : 1 ≤ p.level) : p.shallower.Under unit k q.shallower :=
  ⟨by simp only [Page.shallower, h.level]; omega, h.text⟩

end Page.Under

/-! ## Programs that write whole lines -/

mutual

/-- The instruction writes whole lines, and those that it holds singly are not empty. -/
def Op.IsLined : Op → Prop
  | .line s => IsLine s
  | .lines _ | .blank | .indent | .dedent => True
  | .raw _ => False
  | .block header body close => IsLine header ∧ Op.AllLined body ∧ IsLine close
  | .indented body => Op.AllLined body

/-- All instructions write whole lines. -/
def Op.AllLined : List Op → Prop
  | [] => True
  | op :: rest => op.IsLined ∧ Op.AllLined rest

end

/-- No beginning of the program leads back behind the level of its start. -/
def Program.Stays (P : Program) : Prop :=
  ∀ moves, moves <+: Op.allMoves P → moves.count .back ≤ moves.count .deeper

theorem Program.stays_iff {P : Program} : P.Stays ↔ P.shift.down = 0 :=
  down_shiftOf_eq_zero_iff.symm

/-! ## The run of a program -/

section
variable {unit : Indent} {k : Nat}

theorem Page.Under.lines {p q : Page} (h : p.Under unit k q) (s : String) :
    (p.lines unit s).Under unit k (q.lines unit s) := by
  have hlines : ∀ line ∈ Text.lines s, OneLine line := fun _ => oneLine_of_mem_lines
  unfold Page.lines
  generalize Text.lines s = lines at hlines ⊢
  induction lines generalizing p q with
  | nil => exact h
  | cons line rest ih =>
    obtain ⟨hline, hrest⟩ := List.forall_mem_cons.1 hlines
    rw [List.foldl_cons, List.foldl_cons]
    split
    · exact ih h.blank hrest
    · rename_i hne
      exact ih (h.line ⟨by simpa using hne, hline⟩) hrest

/-- A body one level deeper, if its run keeps pages apart. -/
theorem Op.body_under {body : List Op}
    (hrun : ∀ {p q : Page}, (shiftOf (Op.allMoves body)).down ≤ p.level → p.Under unit k q →
      (Op.runAll unit body p).Under unit k (Op.runAll unit body q))
    {p q : Page} (hdown : (shiftOf (.deeper :: (Op.allMoves body ++ [.back]))).down ≤ p.level)
    (h : p.Under unit k q) :
    (Op.runAll unit body p.deeper).shallower.Under unit k
      (Op.runAll unit body q.deeper).shallower := by
  rw [shiftOf_cons, shiftOf_append, Shift.down_mul_le_iff, Shift.down_mul_le_iff] at hdown
  obtain ⟨-, hinner, hback⟩ := hdown
  refine (hrun hinner h.deeper).shallower ?_
  rw [Op.level_runAll]
  exact hback

mutual

/-- An instruction keeps two pages `k` levels apart if it loses no move back on the outer one. -/
theorem Op.run_under : ∀ {op : Op} {p q : Page}, op.IsLined →
    (shiftOf op.moves).down ≤ p.level → p.Under unit k q →
    (op.run unit p).Under unit k (op.run unit q)
  | .line _, _, _, hs, _, h => h.line hs
  | .lines s, _, _, _, _, h => h.lines s
  | .blank, _, _, _, _, h => h.blank
  | .indent, _, _, _, _, h => h.deeper
  | .dedent, _, _, _, hdown, h => h.shallower hdown
  | .block header _ _, p, _, hlined, hdown, h =>
    (Op.body_under (p := p.line unit header) (Op.runAll_under hlined.2.1) hdown
      (h.line hlined.1)).line hlined.2.2
  | .indented _, _, _, hbody, hdown, h => Op.body_under (Op.runAll_under hbody) hdown h

theorem Op.runAll_under : ∀ {ops : List Op} {p q : Page}, Op.AllLined ops →
    (shiftOf (Op.allMoves ops)).down ≤ p.level → p.Under unit k q →
    (Op.runAll unit ops p).Under unit k (Op.runAll unit ops q)
  | [], _, _, _, _, h => h
  | op :: _, p, _, hlined, hdown, h => by
    rw [Op.allMoves, shiftOf_append, Shift.down_mul_le_iff, ← Op.level_run unit op p] at hdown
    rw [Op.runAll, Op.runAll]
    exact Op.runAll_under hlined.2 hdown.2 (Op.run_under hlined.1 hdown.1 h)

end

end

/-- A program that never goes back behind its start is indented as a whole: from a level that is
`k` deeper it writes its text with `k` units in front of every line that is not empty. -/
theorem Program.textFrom_add {P : Program} (lined : Op.AllLined P) (stays : P.Stays)
    (unit : Indent) (level k : Nat) :
    P.textFrom unit (level + k) = indentText (Page.margin unit k) (P.textFrom unit level) := by
  have hstart : Page.Under unit k { level } { level := level + k } :=
    ⟨rfl, [], by simp, rfl, rfl⟩
  have hdown : P.shift.down ≤ level := stays_iff.1 stays ▸ Nat.zero_le level
  obtain ⟨lines, hlines, hp, hq⟩ := (Op.runAll_under (p := { level }) lined hdown hstart).text
  calc P.textFrom unit (level + k)
      = unlines (lines.map (indentLine (Page.margin unit k))) := hq
    _ = indentText (Page.margin unit k) (unlines lines) := (indentText_unlines _ hlines).symm
    _ = indentText (Page.margin unit k) (P.textFrom unit level) := by rw [← hp]; rfl

theorem Program.textFrom_add_mixed :
    Op.AllLined [.lines "a\r\n\n\rb", .block "[" [.dedent, .line "c", .indent] "]"] ∧
    Stays [.lines "a\r\n\n\rb", .block "[" [.dedent, .line "c", .indent] "]"] ∧
    textFrom .tab [.lines "a\r\n\n\rb", .block "[" [.dedent, .line "c", .indent] "]"] (0 + 2) =
      "\t\ta\n\n\t\t\rb\n\t\t[\n\t\tc\n\t\t]\n" := by
  have lined : Op.AllLined [.lines "a\r\n\n\rb", .block "[" [.dedent, .line "c", .indent] "]"] := by
    simp only [Op.AllLined, Op.IsLined]
    decide
  have stays : Stays [.lines "a\r\n\n\rb", .block "[" [.dedent, .line "c", .indent] "]"] :=
    stays_iff.2 (by decide)
  refine ⟨lined, stays, (textFrom_add lined stays .tab 0 2).trans ?_⟩
  decide +kernel

end Scaffold.Code
