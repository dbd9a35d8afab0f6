import Scaffold.Proofs.Dependencies
import Scaffold.Proofs.FieldRecovery
import Scaffold.Proofs.Routes
import Scaffold.Proofs.SourceFiles

/-!
# The pagination recovered from files

A generator writes its pagination into list endpoints. Two paginations give the same files exactly
if they agree on the values that the stack writes (`Generator.artifacts_pagination_iff`): a Go
module shows all three of them, a Laravel module the page size alone, a Flutter feature the page and
the page size, and a React feature none.
-/

set_option autoImplicit false

namespace Scaffold

open Code Text

/-! ## Numerals -/

namespace Text

theorem natDigits_inj {m n : Nat} (h : natDigits m = natDigits n) : m = n := by
  have hdigits : Nat.toDigits 10 m = Nat.toDigits 10 n := String.ofList_inj.1 h
  rw [← Nat.ofDigitChars_ten_toDigits (n := m), hdigits, Nat.ofDigitChars_ten_toDigits]

theorem intDigits_inj {m n : Int} (h : intDigits m = intDigits n) : m = n := by
  have hminus : ∀ k : Nat, '-' ∉ (natDigits k).toList := fun k hk => by
    rw [natDigits, String.toList_ofList] at hk
    exact absurd (Nat.isDigit_of_mem_toDigits (by decide) (by decide) hk) (by decide)
  unfold intDigits at h
  split at h <;> split at h
  · have := natDigits_inj ((String.append_right_inj "-").1 h)
    omega
  · refine absurd ?_ (hminus n.natAbs)
    simpa using congrArg ('-' ∈ String.toList ·) h
  · refine absurd ?_ (hminus m.natAbs)
    simpa using congrArg ('-' ∈ String.toList ·) h
  · have := natDigits_inj ((String.append_right_inj "").1 h)
    omega

end Text

/-! ## Parts of programs -/

namespace Code

/-- Separated programs around one of them. -/
theorem Program.separated_append_cons (front : List Program) (P : Program)
    (back : List Program) :
    separated (front ++ P :: back) =
      front.flatMap (· ++ [.blank]) ++ (P ++ back.flatMap ([.blank] ++ ·)) := by
  induction front generalizing P with
  | nil =>
    induction back generalizing P with
    | nil => simp [separated_one]
    | cons next back ih =>
      have hback := ih next
      rw [List.nil_append] at hback ⊢
      rw [separated_cons_cons, hback]
      simp
  | cons first front ih =>
    obtain ⟨next, rest, hrest⟩ : ∃ next rest, front ++ P :: back = next :: rest :=
      List.exists_cons_of_ne_nil (by simp)
    rw [List.cons_append, hrest, separated_cons_cons, ← hrest, ih]
    simp

namespace TellsFrom

variable {unit : Indent} {level : Nat} {P Q : Program} {R : Prop} {s t : String}

/-- The line before a body. -/
theorem header (h : Tells (s ++ "\n") (t ++ "\n") R) (body : Program) (close : String) :
    TellsFrom unit level [.block s body close] [.block t body close] R := by
  have hline := (h.behind (Page.margin unit level)).before
    (unlines (Op.allWritten unit (level + 1) body) ++ (lineAt unit level close ++ "\n"))
  simpa [TellsFrom, Op.allWritten, Op.written, lineAt, String.append_assoc] using hline

theorem indented (h : TellsFrom unit (level + 1) P Q R) :
    TellsFrom unit level [.indented P] [.indented Q] R := by
  simpa [TellsFrom, Op.allWritten, Op.written] using h

/-- One of several programs. -/
theorem among (h : TellsFrom unit level P Q R) (front back : List Program) :
    TellsFrom unit level (Program.separated (front ++ P :: back))
      (Program.separated (front ++ Q :: back)) R := by
  rw [Program.separated_append_cons, Program.separated_append_cons]
  exact (h.last _).skip _

end TellsFrom

end Code

/-! ## The files that show a pagination -/

namespace GoModule

variable {p q : Pagination}

theorem tells_listRequest (entity : String) :
    TellsFrom .go 0 [(Decl.struct (listRequest entity) (listRequestMembers p)).op]
      [(Decl.struct (listRequest entity) (listRequestMembers q)).op]
      (intDigits p.maxPerPage.toInt = intDigits q.maxPerPage.toInt) := by
  have hquote : ∀ n : Int, '"' ∉ (intDigits n).toList := fun n h => by
    rcases mem_intDigits h with h | h <;> cases h
  have hline := (((Tells.upto (hquote p.maxPerPage.toInt) (hquote q.maxPerPage.toInt)).before
    "`\n").behind "form:\"per_page\" binding:\"omitempty,min=1,max=").behind
      (column 8 "PerPage" ++ column 7 "int" ++ "`")
  simp only [Decl.op, Op.braces]
  refine .block (.cons _ (.last (.line ?_) [_]))
  simpa [Member.text, String.append_assoc] using hline

theorem tells_clampPages {level : Nat} :
    TellsFrom .go level (clampPages p) (clampPages q)
      (intDigits p.defaultPage.toInt = intDigits q.defaultPage.toInt ∧
        intDigits p.defaultPerPage.toInt = intDigits q.defaultPerPage.toInt) :=
  .cons _ <| .append
    (.block (.rest "page = " (oneLine_intDigits _) (oneLine_intDigits _)))
    fun _ => .block (.rest "perPage = " (oneLine_intDigits _) (oneLine_intDigits _))

theorem tells_listMethod (entity : String) (fields : List Field) :
    TellsFrom .go 0 [(listMethod p entity fields).op] [(listMethod q entity fields).op]
      (intDigits p.defaultPage.toInt = intDigits q.defaultPage.toInt ∧
        intDigits p.defaultPerPage.toInt = intDigits q.defaultPerPage.toInt) := by
  simp only [listMethod, usecaseMethod, Decl.op, Op.braces]
  exact .block (.last (tells_clampPages.skip _) _)

theorem allPlain_usecaseFile (p : Pagination) (b : Blueprint) :
    Op.allPlain (usecaseFile p b).program = true :=
  allPlain_of_mem (show (usecases p b, usecaseFile p b) ∈ sourceFiles p b by simp [sourceFiles])

/-- A module tells its pagination. -/
theorem pagination_inj {b : Blueprint} (h : artifacts p b = artifacts q b) : p = q := by
  -- The file of the requests shows the limit, that of the operations shows the defaults.
  have hdto : some (dto p b) = some (dto q b) := congrArg (·[1]?) h
  have huse : some (usecases p b) = some (usecases q b) := congrArg (·[2]?) h
  have hdtoText : (dto p b).content = (dto q b).content := by rw [Option.some.inj hdto]
  have huseText : (usecases p b).content = (usecases q b).content := by rw [Option.some.inj huse]
  have hmax : intDigits p.maxPerPage.toInt = intDigits q.maxPerPage.toInt :=
    TellsFrom.of_render_eq (allPlain_dtoFile p b) (allPlain_dtoFile q b) hdtoText <|
      .among (tells_listRequest b.entity.pascal) [_, _, _, _] _
  obtain ⟨hpage, hperPage⟩ :=
    TellsFrom.of_render_eq (allPlain_usecaseFile p b) (allPlain_usecaseFile q b) huseText <|
      .among (tells_listMethod b.entity.pascal b.fields) [_, _, _, _, _, _, _, _] []
  obtain ⟨page, perPage, maxPerPage⟩ := p
  obtain ⟨page', perPage', maxPerPage'⟩ := q
  rw [Pagination.mk.injEq]
  exact ⟨Int64.toInt_inj.1 (intDigits_inj hpage), Int64.toInt_inj.1 (intDigits_inj hperPage),
    Int64.toInt_inj.1 (intDigits_inj hmax)⟩

end GoModule

namespace LaravelModule

variable {p q : Pagination}

theorem tells_indexMethod (b : Blueprint) :
    TellsFrom .php 1 (indexMethod p b) (indexMethod q b)
      (intDigits p.defaultPerPage.toInt = intDigits q.defaultPerPage.toInt) := by
  have hone : ∀ n : Int, OneLine (intDigits n ++ "));") := fun n =>
    oneLine_append.2 ⟨oneLine_intDigits n, by decide⟩
  have hline : TellsFrom .php 3
      [.line ("->paginate($request->get('per_page', " ++ intDigits p.defaultPerPage.toInt ++ "));")]
      [.line ("->paginate($request->get('per_page', " ++ intDigits q.defaultPerPage.toInt ++ "));")]
      (intDigits p.defaultPerPage.toInt = intDigits q.defaultPerPage.toInt) := by
    rw [String.append_assoc, String.append_assoc]
    exact (TellsFrom.rest _ (hone _) (hone _)).imp (String.append_left_inj _).1
  exact .cons _ <| .block <| .skip [_, _, _, _, _] <| .last (.indented hline) [_, _]

theorem allPlain_controllerFile (p : Pagination) (b : Blueprint) :
    Op.allPlain (controllerFile p b).program = true :=
  allPlain_of_mem (show (controller p b, controllerFile p b) ∈ sourceFiles p b by
    simp [sourceFiles])

/-- A module tells its page size. -/
theorem defaultPerPage_inj {b : Blueprint} (h : artifacts p b = artifacts q b) :
    p.defaultPerPage = q.defaultPerPage := by
  have hfile : some (controller p b) = some (controller q b) := congrArg (·[2]?) h
  have hcontent : (controller p b).content = (controller q b).content := by
    rw [Option.some.inj hfile]
  have hprogram : TellsFrom .php 0 (controllerFile p b).program (controllerFile q b).program
      (intDigits p.defaultPerPage.toInt = intDigits q.defaultPerPage.toInt) := by
    simp only [SourceFile.program, controllerFile, Op.braces]
    refine .skip _ (.cons _ (.cons _ (.block ?_)))
    exact .among (tells_indexMethod b) [] _
  exact Int64.toInt_inj.1 (intDigits_inj (hprogram.of_render_eq (allPlain_controllerFile p b)
    (allPlain_controllerFile q b) hcontent))

end LaravelModule

namespace FlutterFeature

variable {p q : Pagination}

theorem tells_getAllMethod (b : Blueprint) :
    TellsFrom .dart 1 [getAllMethod p b] [getAllMethod q b]
      (intDigits p.defaultPage.toInt = intDigits q.defaultPage.toInt ∧
        intDigits p.defaultPerPage.toInt = intDigits q.defaultPerPage.toInt) := by
  have hcomma : ∀ n : Int, ',' ∉ (intDigits n).toList := fun n h => by
    rcases mem_intDigits h with h | h <;> cases h
  have hpage := Tells.upto (hcomma p.defaultPage.toInt) (hcomma q.defaultPage.toInt)
  have hperPage := Tells.upto (hcomma p.defaultPerPage.toInt) (hcomma q.defaultPerPage.toInt)
  have hheader := ((hpage.append fun _ => (hperPage.behind " int perPage = ").before
    " String? search\x7d) async \x7b\n").behind "int page = ").behind
      ("Future<List<" ++ b.entity.pascal ++ ">> getAll(\x7b")
  have htext : ∀ r : Pagination, "Future<" ++ ("List<" ++ b.entity.pascal ++ ">") ++ "> " ++
      "getAll" ++ "(" ++ braced ("int page = " ++ intDigits r.defaultPage.toInt ++
        ", int perPage = " ++ intDigits r.defaultPerPage.toInt ++ ", String? search") ++
      ") async " ++ "\x7b" ++ "\n" =
      "Future<List<" ++ b.entity.pascal ++ ">> getAll(\x7b" ++ ("int page = " ++
        (intDigits r.defaultPage.toInt ++ String.singleton ',' ++ (" int perPage = " ++
          (intDigits r.defaultPerPage.toInt ++ String.singleton ',') ++
            " String? search\x7d) async \x7b\n"))) := fun r => by
    simp [← String.toList_inj, braced]
  refine .header ?_ _ _
  rw [htext, htext]
  exact hheader

theorem allPlain_repositoryFile (p : Pagination) (b : Blueprint) :
    Op.allPlain (repositoryFile p b).program = true :=
  allPlain_of_mem (show (repository p b, repositoryFile p b) ∈ sourceFiles p b by
    simp [sourceFiles])

/-- A feature tells its page and its page size. -/
theorem defaults_inj {b : Blueprint} (h : artifacts p b = artifacts q b) :
    p.defaultPage = q.defaultPage ∧ p.defaultPerPage = q.defaultPerPage := by
  have hfile : some (repository p b) = some (repository q b) := congrArg (·[1]?) h
  have hcontent : (repository p b).content = (repository q b).content := by
    rw [Option.some.inj hfile]
  obtain ⟨hpage, hperPage⟩ :=
    TellsFrom.of_render_eq (allPlain_repositoryFile p b) (allPlain_repositoryFile q b) hcontent <|
      .among (.block (.among (tells_getAllMethod b) [_, _] _)) [_] []
  exact ⟨Int64.toInt_inj.1 (intDigits_inj hpage), Int64.toInt_inj.1 (intDigits_inj hperPage)⟩

end FlutterFeature

/-! ## The stacks -/

/-- The files of a stack do not tell the paginations apart. -/
def Pagination.AgreeFor (p q : Pagination) : Stack → Prop
  | .go => p = q
  | .laravel => p.defaultPerPage = q.defaultPerPage
  | .react => True
  | .flutter => p.defaultPage = q.defaultPage ∧ p.defaultPerPage = q.defaultPerPage

/-- The files show what a stack writes of a pagination, and nothing else of it. -/
theorem Generator.artifacts_pagination_iff (stack : Stack) (p q : Pagination) (b : Blueprint) :
    (ofStack p stack).artifacts b = (ofStack q stack).artifacts b ↔ p.AgreeFor q stack := by
  constructor
  · intro h
    cases stack with
    | go => exact GoModule.pagination_inj h
    | laravel => exact LaravelModule.defaultPerPage_inj h
    | react => trivial
    | flutter => exact FlutterFeature.defaults_inj h
  · intro h
    have hfiles := stack.respected b.entity b.options ⟨b.fields, b.project, p⟩
      ⟨b.fields, b.project, q⟩
    refine hfiles.eq_of_agree ?_
    cases stack <;> simp_all [Pagination.AgreeFor, Stack.reads, Stack.toggled, Reading.Agree]

end Scaffold
