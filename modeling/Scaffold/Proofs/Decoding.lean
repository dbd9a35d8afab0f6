import Scaffold.Proofs.OneLine

/-!
# What a text tells

Two texts tell `R` if they agree only where `R` holds, whatever follows them, and if they then end
at the same place (`Tells`). Texts that never agree tell everything (`Tells.apart`); a text up to a
mark that it does not hold tells itself (`Tells.upto`). Pieces that stand one after the other tell
what each of them does, up to a stop that is none of them (`Tells.listing`) or if their number is
known (`Tells.pieces`). `TellsFrom` says the same of the texts that programs write.
-/

set_option autoImplicit false

namespace Scaffold.Text

/-- There is one way to cut a text at the first place of a mark. -/
theorem append_cons_inj {c : Char} {as bs us vs : List Char} (ha : c ∉ as) (hb : c ∉ bs)
    (h : as ++ c :: us = bs ++ c :: vs) : as = bs ∧ us = vs := by
  induction as generalizing bs with
  | nil =>
    cases bs with
    | nil => exact ⟨rfl, List.tail_eq_of_cons_eq h⟩
    | cons b bs => exact absurd (List.head_eq_of_cons_eq h) (List.ne_of_not_mem_cons hb)
  | cons a as ih =>
    cases bs with
    | nil => exact absurd (List.head_eq_of_cons_eq h).symm (List.ne_of_not_mem_cons ha)
    | cons b bs =>
      obtain ⟨hab, hrest⟩ := List.cons.inj h
      obtain ⟨has, hus⟩ :=
        ih (List.not_mem_of_not_mem_cons ha) (List.not_mem_of_not_mem_cons hb) hrest
      exact ⟨List.cons_eq_cons.2 ⟨hab, has⟩, hus⟩

/-- The texts agree, whatever follows them, only if `R` holds and they end at the same place. -/
def Tells (s t : String) (R : Prop) : Prop := ∀ u v : String, s ++ u = t ++ v → R ∧ u = v

namespace Tells

variable {s t s' t' : String} {R S : Prop}

theorem same (s : String) : Tells s s True := fun _ _ h => ⟨trivial, (String.append_right_inj s).1 h⟩

theorem imp (h : Tells s t R) (hRS : R → S) : Tells s t S := fun u v heq =>
  (h u v heq).imp_left hRS

/-- What the first texts tell may be used to read the second ones. -/
theorem append (h : Tells s t R) (hrest : R → Tells s' t' S) :
    Tells (s ++ s') (t ++ t') (R ∧ S) := fun u v heq => by
  rw [String.append_assoc, String.append_assoc] at heq
  obtain ⟨hR, heq⟩ := h _ _ heq
  obtain ⟨hS, heq⟩ := hrest hR u v heq
  exact ⟨⟨hR, hS⟩, heq⟩

/-- The texts start alike. -/
theorem behind (h : Tells s t R) (front : String) : Tells (front ++ s) (front ++ t) R :=
  ((same front).append fun _ => h).imp And.right

/-- The texts end alike. -/
theorem before (h : Tells s t R) (rest : String) : Tells (s ++ rest) (t ++ rest) R :=
  (h.append fun _ => same rest).imp And.left

theorem symm (h : Tells s t R) : Tells t s R := fun u v heq =>
  (h v u heq.symm).imp_right Eq.symm

/-- Texts of which neither begins the other one never agree. -/
theorem apart (hst : ¬ s.toList <+: t.toList) (hts : ¬ t.toList <+: s.toList) :
    Tells s t False := fun u v heq => by
  have hs : s.toList <+: (t ++ v).toList := by simp [← heq]
  have ht : t.toList <+: (t ++ v).toList := by simp
  exact ((List.prefix_or_prefix_of_prefix hs ht).elim hst hts).elim

/-- Texts that never agree do not however they go on. -/
theorem extend (h : Tells s t False) (s' : String) : Tells (s ++ s') t R := fun u v heq =>
  (h (s' ++ u) v (by rw [← String.append_assoc, heq])).1.elim

theorem extend_both (h : Tells s t False) (s' t' : String) : Tells (s ++ s') (t ++ t') R :=
  ((h.extend s').symm.extend t').symm

/-- One of two texts tells which of them it is. -/
theorem ite (h : Tells s t False) (p q : Bool) :
    Tells (if p then s else t) (if q then s else t) (p = q) := by
  cases p <;> cases q
  · exact (same t).imp fun _ => rfl
  · exact h.symm.imp False.elim
  · exact h.imp False.elim
  · exact (same s).imp fun _ => rfl

/-- Texts that end at a mark which they do not hold tell themselves. -/
theorem upto {c : Char} (hs : c ∉ s.toList) (ht : c ∉ t.toList) :
    Tells (s ++ String.singleton c) (t ++ String.singleton c) (s = t) := fun u v heq => by
  have heq : s.toList ++ c :: u.toList = t.toList ++ c :: v.toList := by
    simpa using congrArg String.toList heq
  obtain ⟨hst, huv⟩ := append_cons_inj hs ht heq
  exact ⟨String.toList_inj.1 hst, String.toList_inj.1 huv⟩

/-- A line tells itself. -/
theorem oneLine (hs : OneLine s) (ht : OneLine t) : Tells (s ++ "\n") (t ++ "\n") (s = t) := by
  have hfeed : "\n" = String.singleton '\n' := by decide
  rw [hfeed]
  exact upto hs ht

section Pieces

variable {α β : Type} {piece : α → String} {key : α → β} {xs ys : List α}

/-- As many pieces on either side. -/
theorem pieces (hlen : xs.length = ys.length)
    (h : ∀ x ∈ xs, ∀ y ∈ ys, Tells (piece x) (piece y) (key x = key y)) :
    Tells (String.join (xs.map piece)) (String.join (ys.map piece)) (xs.map key = ys.map key) := by
  induction xs generalizing ys with
  | nil =>
    obtain rfl := List.length_eq_zero_iff.1 hlen.symm
    exact (same _).imp fun _ => rfl
  | cons x xs ih =>
    obtain ⟨y, ys, rfl⟩ := List.exists_cons_of_length_eq_add_one hlen.symm
    simp only [List.map_cons, String.join_cons, List.cons.injEq]
    refine (h x (.head _) y (.head _)).append fun _ => ?_
    exact ih (Nat.succ.inj hlen) fun x hx y hy => h x (.tail _ hx) y (.tail _ hy)

/-- Pieces up to a stop. -/
theorem listing {stop : String} (hx : ∀ x ∈ xs, Tells (piece x) stop False)
    (hy : ∀ y ∈ ys, Tells (piece y) stop False)
    (h : ∀ x ∈ xs, ∀ y ∈ ys, Tells (piece x) (piece y) (key x = key y)) :
    Tells (String.join (xs.map piece) ++ stop) (String.join (ys.map piece) ++ stop)
      (xs.map key = ys.map key) := by
  induction xs generalizing ys with
  | nil =>
    cases ys with
    | nil => exact (same _).imp fun _ => rfl
    | cons y ys =>
      simp only [List.map_cons, List.map_nil, String.join_cons, String.join_nil,
        String.empty_append, String.append_assoc]
      exact ((hy y (.head _)).extend _).symm
  | cons x xs ih =>
    cases ys with
    | nil =>
      simp only [List.map_cons, List.map_nil, String.join_cons, String.join_nil,
        String.empty_append, String.append_assoc]
      exact (hx x (.head _)).extend _
    | cons y ys =>
      simp only [List.map_cons, String.join_cons, List.cons.injEq, String.append_assoc]
      refine (h x (.head _) y (.head _)).append fun _ => ?_
      exact ih (fun x hx' => hx x (.tail _ hx')) (fun y hy' => hy y (.tail _ hy'))
        fun x hx y hy => h x (.tail _ hx) y (.tail _ hy)

end Pieces

end Tells

end Scaffold.Text

namespace Scaffold.Code

open Text

/-- The lines that the programs write from a level tell `R`. -/
def TellsFrom (unit : Indent) (level : Nat) (P Q : Program) (R : Prop) : Prop :=
  Tells (unlines (Op.allWritten unit level P)) (unlines (Op.allWritten unit level Q)) R

/-- A deeper line never agrees with one that does not start with a blank. -/
theorem tells_lineAt_succ {unit : Indent} {close : String} (h : Tells unit.unit close False)
    (level : Nat) (s : String) :
    Tells (lineAt unit (level + 1) s) (lineAt unit level close) False := by
  have hdeeper : lineAt unit (level + 1) s = Page.margin unit level ++ (unit.unit ++ s) := by
    simp [lineAt, Page.margin, List.replicate_succ', String.append_assoc]
  rw [hdeeper]
  exact (h.extend s).behind _

namespace TellsFrom

variable {unit : Indent} {level : Nat} {P Q P' Q' : Program} {R S : Prop}
  {s t header close : String}

theorem same (P : Program) : TellsFrom unit level P P True := Tells.same _

theorem of_eq (h : P = Q) : TellsFrom unit level P Q True := h ▸ same P

theorem imp (h : TellsFrom unit level P Q R) (hRS : R → S) : TellsFrom unit level P Q S :=
  Tells.imp h hRS

theorem symm (h : TellsFrom unit level P Q R) : TellsFrom unit level Q P R := Tells.symm h

theorem append (h : TellsFrom unit level P Q R) (hrest : R → TellsFrom unit level P' Q' S) :
    TellsFrom unit level (P ++ P') (Q ++ Q') (R ∧ S) := by
  unfold TellsFrom
  rw [Op.allWritten_append, Op.allWritten_append, unlines_append, unlines_append]
  exact Tells.append h hrest

/-- The programs start with the same instructions. -/
theorem skip (front : Program) (h : TellsFrom unit level P Q R) :
    TellsFrom unit level (front ++ P) (front ++ Q) R :=
  ((same front).append fun _ => h).imp And.right

theorem cons (op : Op) (h : TellsFrom unit level P Q R) :
    TellsFrom unit level (op :: P) (op :: Q) R := skip [op] h

/-- The programs end with the same instructions. -/
theorem last (h : TellsFrom unit level P Q R) (rest : Program) :
    TellsFrom unit level (P ++ rest) (Q ++ rest) R :=
  (h.append fun _ => same rest).imp And.left

theorem line (h : Tells (s ++ "\n") (t ++ "\n") R) :
    TellsFrom unit level [.line s] [.line t] R := by
  have hline := h.behind (Page.margin unit level)
  simpa [TellsFrom, Op.allWritten, Op.written, lineAt, String.append_assoc] using hline

/-- A text without a feed that ends a line tells itself. -/
theorem rest (front : String) (hs : OneLine s) (ht : OneLine t) :
    TellsFrom unit level [.line (front ++ s)] [.line (front ++ t)] (s = t) := by
  refine line ?_
  rw [String.append_assoc, String.append_assoc]
  exact (Tells.oneLine hs ht).behind front

theorem block (h : TellsFrom unit (level + 1) P Q R) :
    TellsFrom unit level [.block header P close] [.block header Q close] R := by
  have hblock := (Tells.before h (lineAt unit level close ++ "\n")).behind
    (lineAt unit level header ++ "\n")
  simpa [TellsFrom, Op.allWritten, Op.written, String.append_assoc] using hblock

/-- Programs whose first lines never agree tell everything. -/
theorem heads {a b : Op} (ha : a.heads.head? = some s) (hb : b.heads.head? = some t)
    (h : Tells s t False) : TellsFrom unit level (a :: P) (b :: Q) R := by
  have hlines : ∀ {op : Op} {s : String} (rest : Program), op.heads.head? = some s →
      ∃ text, unlines (Op.allWritten unit level (op :: rest)) = lineAt unit level s ++ text := by
    intro op s rest hop
    cases op with
    | line | block =>
      obtain rfl := Option.some.inj hop
      exact ⟨_, by rw [Op.allWritten, Op.written, List.cons_append, unlines_cons,
        String.append_assoc]⟩
    | _ => cases hop
  obtain ⟨u, hu⟩ := hlines P ha
  obtain ⟨v, hv⟩ := hlines Q hb
  unfold TellsFrom
  rw [hu, hv]
  exact (h.behind _).extend_both u v

/-- Instructions may be missing before a line that they do not start with. -/
theorem when_append {op a b : Op} {front : Program} (hop : op.heads.head? = some s)
    (ha : a.heads.head? = some t) (hb : b.heads.head? = some t) (hst : Tells s t False)
    (h : TellsFrom unit level (a :: P) (b :: Q) R) (p q : Bool) :
    TellsFrom unit level (Program.when p (op :: front) ++ a :: P)
      (Program.when q (op :: front) ++ b :: Q) R := by
  cases p <;> cases q
  · exact h
  · exact heads ha hop hst.symm
  · exact heads hop hb hst
  · exact h.skip _

/-- A deeper body whose first part tells something by itself. -/
theorem indented_append {body body' : Program} (h : TellsFrom unit (level + 1) P Q R)
    (hrest : R → TellsFrom unit level (.indented body :: P') (.indented body' :: Q') S) :
    TellsFrom unit level (.indented (P ++ body) :: P') (.indented (Q ++ body') :: Q') (R ∧ S) := by
  have happend := Tells.append h hrest
  simpa [TellsFrom, Op.allWritten, Op.written, Op.allWritten_eq, String.append_assoc] using happend

/-- A line may be missing at the end of a deeper body. -/
theorem indented_when (hclose : Tells unit.unit close False) (p q : Bool) :
    TellsFrom unit level
      (.indented (Program.when p [.line s]) :: [.line close])
      (.indented (Program.when q [.line s]) :: [.line close]) (p = q) := by
  have hline : ∀ R, TellsFrom unit level (.indented [.line s] :: [.line close])
      (.indented [] :: [.line close]) R := fun R => by
    have htext := (tells_lineAt_succ hclose level s).extend_both (R := R)
      ("\n" ++ lineAt unit level close ++ "\n") "\n"
    simpa [TellsFrom, Op.allWritten, Op.written, String.append_assoc] using htext
  cases p <;> cases q
  · exact (same _).imp fun _ => rfl
  · exact (hline _).symm
  · exact hline _
  · exact (same _).imp fun _ => rfl

theorem one (h : TellsFrom unit level P Q R) :
    TellsFrom unit level (Program.separated [P]) (Program.separated [Q]) R := by
  rwa [Program.separated_one, Program.separated_one]

theorem separated {Ps Qs : List Program} (h : TellsFrom unit level P Q R)
    (hrest : R → TellsFrom unit level (Program.separated (P' :: Ps)) (Program.separated (Q' :: Qs))
      S) :
    TellsFrom unit level (Program.separated (P :: P' :: Ps)) (Program.separated (Q :: Q' :: Qs))
      (R ∧ S) := by
  rw [Program.separated_cons_cons, Program.separated_cons_cons]
  exact (h.last [.blank]).append hrest

section Bodies

variable {α β : Type} {body : α → Program} {key : α → β} {text : α → String} {xs ys : List α}

theorem unlines_allWritten_each (xs : List α) (body : α → Program) :
    unlines (Op.allWritten unit level (Program.each xs body)) =
      String.join (xs.map fun x => unlines (Op.allWritten unit level (body x))) := by
  simp only [Program.each, Op.allWritten_eq, List.flatMap_assoc, unlines_flatMap]

/-- As many bodies on either side. -/
theorem each (hlen : xs.length = ys.length)
    (h : ∀ x ∈ xs, ∀ y ∈ ys, TellsFrom unit level (body x) (body y) (key x = key y)) :
    TellsFrom unit level (Program.each xs body) (Program.each ys body)
      (xs.map key = ys.map key) := by
  unfold TellsFrom
  rw [unlines_allWritten_each, unlines_allWritten_each]
  exact Tells.pieces hlen h

/-- Bodies up to a program that never starts like one. -/
theorem each_until {stop : Program} (hx : ∀ x ∈ xs, TellsFrom unit level (body x) stop False)
    (hy : ∀ y ∈ ys, TellsFrom unit level (body y) stop False)
    (h : ∀ x ∈ xs, ∀ y ∈ ys, TellsFrom unit level (body x) (body y) (key x = key y)) :
    TellsFrom unit level (Program.each xs body ++ stop) (Program.each ys body ++ stop)
      (xs.map key = ys.map key) := by
  unfold TellsFrom
  rw [Op.allWritten_append, Op.allWritten_append, unlines_append, unlines_append,
    unlines_allWritten_each, unlines_allWritten_each]
  exact Tells.listing hx hy h

/-- As many lines on either side. -/
theorem lines (hlen : xs.length = ys.length)
    (h : ∀ x ∈ xs, ∀ y ∈ ys, Tells (text x ++ "\n") (text y ++ "\n") (key x = key y)) :
    TellsFrom unit level (xs.map fun x => .line (text x)) (ys.map fun y => .line (text y))
      (xs.map key = ys.map key) := by
  rw [List.map_eq_flatMap, List.map_eq_flatMap]
  exact each hlen fun x hx y hy => line (h x hx y hy)

/-- The lines of a block, up to its closing line. -/
theorem listing (hclose : Tells unit.unit close False)
    (h : ∀ x ∈ xs, ∀ y ∈ ys, Tells (text x ++ "\n") (text y ++ "\n") (key x = key y)) :
    TellsFrom unit level [.block header (xs.map fun x => .line (text x)) close]
      [.block header (ys.map fun y => .line (text y)) close] (xs.map key = ys.map key) := by
  have hstop : ∀ x : α, Tells (lineAt unit (level + 1) (text x) ++ "\n")
      (lineAt unit level close ++ "\n") False := fun x =>
    (tells_lineAt_succ hclose level (text x)).extend_both _ _
  have hlines : ∀ xs : List α, unlines (Op.allWritten unit level
      [.block header (xs.map fun x => .line (text x)) close]) =
      lineAt unit level header ++ "\n" ++
        (String.join (xs.map fun x => lineAt unit (level + 1) (text x) ++ "\n") ++
          (lineAt unit level close ++ "\n")) := fun xs => by
    simp [Op.allWritten, Op.written, Op.allWritten_eq, List.flatMap_map, unlines_flatMap,
      String.append_assoc]
  unfold TellsFrom
  rw [hlines, hlines]
  refine Tells.behind (Tells.listing (fun x _ => hstop x) (fun y _ => hstop y) ?_) _
  intro x hx y hy
  simpa [lineAt, String.append_assoc] using (h x hx y hy).behind (Page.margin unit (level + 1))

end Bodies

section Render

variable (hP : Op.allPlain P = true) (hQ : Op.allPlain Q = true)
  (heq : P.render unit = Q.render unit)
include hP hQ heq

/-- What the first instructions of two programs tell holds if their texts are equal. -/
theorem of_take (n : Nat) (h : TellsFrom unit 0 (P.take n) (Q.take n) R) : R := by
  rw [Program.render_eq hP, Program.render_eq hQ, ← List.take_append_drop n P,
    ← List.take_append_drop n Q, Op.allWritten_append, Op.allWritten_append, unlines_append,
    unlines_append] at heq
  exact (h _ _ heq).1

/-- What two programs tell holds if their texts are equal. -/
theorem of_render_eq (h : TellsFrom unit 0 P Q R) : R := by
  rw [Program.render_eq hP, Program.render_eq hQ] at heq
  exact (h "" "" (by rw [heq])).1

end Render

end TellsFrom

end Scaffold.Code
