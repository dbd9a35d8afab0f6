import Scaffold.FlutterFeature
import Scaffold.Proofs.OneLine

/-!
# The lines of Dart files

A Dart file whose texts are one line each is tidy (`SourceFile.IsTidy`), and so are the files of a
feature if the name of its entity and the names and the types of its fields are one line each. In
the text of a tidy file, the lines that import something are the imports of the file
(`SourceFile.IsTidy.import_mem_lines_iff`): no declaration begins as they do, and what stands inside
of one is indented.
-/

set_option autoImplicit false

namespace Scaffold.FlutterFeature

open Code Text

/-! ## Import lines -/

/-- The line that imports a target. -/
def importLine (target : String) : String := "import '" ++ target ++ "';"

/-- A declaration of one-line texts, none of which begins as an import does. -/
structure IsDecl (P : Program) : Prop where
  tidy : Op.AllTidy P
  heads : ∀ op ∈ P, ∀ s ∈ op.heads, s.toList.head? ≠ some 'i'

theorem importLine_inj {s t : String} (h : importLine s = importLine t) : s = t := by
  simpa [importLine, ← String.toList_inj] using h

theorem dropReturn_importLine (target : String) :
    dropReturn (importLine target).toList = (importLine target).toList := by
  have hlast : (importLine target).toList.getLast? = some ';' := by
    rw [importLine, String.toList_append, List.getLast?_append]
    simp
  rw [dropReturn, hlast, if_neg (by decide)]

/-- A carriage return at the end of a line does not hide that it begins as an import does. -/
theorem head?_of_dropReturn {line target : String}
    (h : String.ofList (dropReturn line.toList) = importLine target) :
    line.toList.head? = some 'i' := by
  have hhead : (dropReturn line.toList).head? = some 'i' := by
    rw [← String.toList_ofList (l := dropReturn line.toList), h]
    simp [importLine]
  unfold dropReturn at hhead
  split at hhead
  · cases hl : line.toList with
    | nil => simp [hl] at hhead
    | cons c rest => cases rest <;> simp_all
  · exact hhead

namespace SourceFile

variable {f : SourceFile}

/-- A file of one-line texts. -/
structure IsTidy (f : SourceFile) : Prop where
  imports : ∀ target ∈ f.imports, OneLine target
  parts : ∀ part ∈ f.parts, OneLine part
  decls : ∀ P ∈ f.decls, IsDecl P

theorem mem_program {op : Op} (h : op ∈ f.program) :
    op = .blank ∨ (∃ target ∈ f.imports, op = .line (importLine target)) ∨
      (∃ part ∈ f.parts, op = .line ("part '" ++ part ++ "';")) ∨ ∃ P ∈ f.decls, op ∈ P := by
  refine (Program.mem_separated h).imp_right fun ⟨P, hP, hop⟩ => ?_
  simp only [List.mem_append, List.mem_singleton] at hP
  rcases hP with (rfl | hP) | hP
  · obtain ⟨target, ht, rfl⟩ := List.mem_map.1 hop
    exact .inl ⟨target, ht, rfl⟩
  · split at hP
    · cases hP
    · rw [List.mem_singleton.1 hP] at hop
      obtain ⟨part, hp, rfl⟩ := List.mem_map.1 hop
      exact .inr (.inl ⟨part, hp, rfl⟩)
  · exact .inr (.inr ⟨P, hP, hop⟩)

theorem line_mem_program {target : String} (h : target ∈ f.imports) :
    .line (importLine target) ∈ f.program := by
  have hline : Op.line (importLine target) ∈ f.imports.map (.line <| importLine ·) :=
    List.mem_map.2 ⟨target, h, rfl⟩
  exact (Program.infix_separated (List.mem_append_left _ <|
    List.mem_append_left _ (.head _))).subset hline

theorem oneLine_importLine {target : String} (h : OneLine target) :
    OneLine (importLine target) := by
  rw [importLine, oneLine_append, oneLine_append]
  exact ⟨⟨by decide, h⟩, by decide⟩

namespace IsTidy

variable (h : f.IsTidy)
include h

theorem allTidy : Op.AllTidy f.program := by
  rw [Op.allTidy_iff]
  intro op hop
  rcases mem_program hop with rfl | ⟨target, ht, rfl⟩ | ⟨part, hp, rfl⟩ | ⟨P, hP, hop⟩
  · trivial
  · exact oneLine_importLine (h.imports target ht)
  · show OneLine ("part '" ++ part ++ "';")
    rw [oneLine_append, oneLine_append]
    exact ⟨⟨by decide, h.parts part hp⟩, by decide⟩
  · exact Op.allTidy_iff.1 (h.decls P hP).tidy op hop

theorem lines_render : Text.lines f.render =
    (Op.allWritten .dart 0 f.program).map fun line => .ofList (dropReturn line.toList) := by
  rw [render, Program.render_eq h.allTidy.allPlain, lines_unlines fun line => h.allTidy.oneLine]

/-- A line that begins as an import does is one. -/
theorem exists_of_mem_written {line : String} (hl : line ∈ Op.allWritten .dart 0 f.program)
    (hi : line.toList.head? = some 'i') : ∃ target ∈ f.imports, line = importLine target := by
  have hindented : ¬ (line = "" ∨ ∃ s, line = Indent.dart.unit ++ s) := by
    rintro (rfl | ⟨s, rfl⟩)
    · simp at hi
    · simp [Indent.dart, Indent.unit] at hi
  rw [Op.allWritten_eq] at hl
  obtain ⟨op, hop, hl⟩ := List.mem_flatMap.1 hl
  rcases mem_program hop with rfl | ⟨target, ht, rfl⟩ | ⟨part, hp, rfl⟩ | ⟨P, hP, hop⟩
  · exact absurd (.inl (List.mem_singleton.1 hl)) hindented
  · rw [Op.written, List.mem_singleton, lineAt_zero] at hl
    exact ⟨target, ht, hl⟩
  · rw [Op.written, List.mem_singleton, lineAt_zero] at hl
    simp [hl] at hi
  · rcases Op.head_of_mem_written hl with hl | hl
    · exact absurd hi ((h.decls P hP).heads op hop line hl)
    · exact absurd hl hindented

/-- The import lines of a tidy file are its imports. -/
theorem import_mem_lines_iff {target : String} :
    importLine target ∈ Text.lines f.render ↔ target ∈ f.imports := by
  rw [h.lines_render, List.mem_map]
  constructor
  · rintro ⟨line, hl, he⟩
    obtain ⟨target', ht, rfl⟩ := h.exists_of_mem_written hl (head?_of_dropReturn he)
    rw [dropReturn_importLine, String.ofList_toList] at he
    exact importLine_inj he ▸ ht
  · intro ht
    refine ⟨importLine target, ?_, ?_⟩
    · rw [Op.allWritten_eq, List.mem_flatMap]
      exact ⟨_, line_mem_program ht, by simp [Op.written, lineAt_zero]⟩
    · rw [dropReturn_importLine, String.ofList_toList]

end IsTidy

end SourceFile

/-! ## The declarations of the feature -/

theorem isDecl_classDecl {header : String} {body : Program} (hheader : OneLine header)
    (hbody : Op.AllTidy body) : IsDecl (classDecl header body) where
  tidy := by
    simp +decide [classDecl, Op.braces, Op.AllTidy, Op.IsTidy, *]
  heads := by simp [classDecl, Op.braces, Op.heads]

theorem isDecl_freezedClass {name : String} {params : List Param} (hname : OneLine name)
    (hparams : ∀ p ∈ params, OneLine p.text) : IsDecl (freezedClass name params) where
  tidy := by
    have hlines := Op.allTidy_lines hparams
    simp +decide [freezedClass, classDecl, Op.braces, Op.AllTidy, Op.IsTidy, *]
  heads := by simp [freezedClass, classDecl, Op.braces, Op.heads]

theorem isDecl_provider {name type params : String} {body : Program} (hname : OneLine name)
    (htype : OneLine type) (hparams : OneLine params) (hbody : Op.AllTidy body) :
    IsDecl (provider name type params body) where
  tidy := by
    simp +decide [provider, Op.braces, Op.AllTidy, Op.IsTidy, *]
  heads := by simp [provider, Op.braces, Op.heads]

theorem Param.oneLine_text {p : Param} (hname : OneLine p.name) (htype : OneLine p.type)
    (hkey : ∀ key ∈ p.jsonKey?, OneLine key) : OneLine p.text := by
  have hrequired : OneLine (if p.required = true then "required " else "") :=
    oneLine_ite (by decide) (by decide)
  rw [Param.text]
  cases hk : p.jsonKey? with
  | none =>
    simp +decide [*]
  | some key =>
    have hkey : OneLine key := hkey key hk
    simp +decide [*]

theorem oneLine_fieldParam {f : Field} (hname : OneLine f.name) (htype : OneLine f.type) :
    OneLine (fieldParam f).text := by
  refine Param.oneLine_text hname.camel ?_ fun key hk => ?_
  · exact oneLine_ite htype (Stack.oneLine_nullable htype .flutter)
  · simp only [fieldParam] at hk
    split at hk <;> simp_all

theorem oneLine_entryLine {f : Field} (hname : OneLine f.name) : OneLine (entryLine f) := by
  have hmember : OneLine (memberName f) := hname.camel
  have hencoder : OneLine (Stack.flutter.typeTable.lookup f.type) :=
    TypeTable.forall_lookup (by decide) (by decide) f.type
  have hsuffix : OneLine (if (Stack.flutter.typeTable.lookup f.type).isEmpty = true then ""
      else "!" ++ Stack.flutter.typeTable.lookup f.type) :=
    oneLine_ite (by decide) (oneLine_append.2 ⟨by decide, hencoder⟩)
  simp +decide only [entryLine, oneLine_append, *]

/-- The parameters of the constructor of an update class. -/
theorem oneLine_constructorParams {fields : List Field} (h : ∀ f ∈ fields, OneLine f.name) :
    OneLine (if fields.isEmpty = true then "" else
      braced (String.intercalate ", " (fields.map fun f => "this." ++ memberName f))) := by
  have hitems : OneLine (String.intercalate ", " (fields.map fun f => "this." ++ memberName f)) := by
    refine oneLine_intercalate (by decide) (List.forall_mem_map.2 fun f hf => ?_)
    exact oneLine_append.2 ⟨by decide, (h f hf).camel⟩
  refine oneLine_ite (by decide) ?_
  exact oneLine_append.2 ⟨oneLine_append.2 ⟨by decide, hitems⟩, by decide⟩

theorem isDecl_updateClass {name : String} {fields : List Field} (hn : OneLine name)
    (hfields : ∀ f ∈ fields, OneLine f.name ∧ OneLine f.type) :
    IsDecl (updateClass name fields) := by
  have hmembers : Op.AllTidy (fields.map fun f =>
      .line ("final " ++ nullableType f ++ " " ++ memberName f ++ ";")) := by
    refine Op.allTidy_lines fun f hf => ?_
    have hmember : OneLine (memberName f) := (hfields f hf).1.camel
    have hnullable : OneLine (nullableType f) := Stack.oneLine_nullable (hfields f hf).2 .flutter
    simp +decide [*]
  have hblank : Op.AllTidy (Program.when (!fields.isEmpty) [.blank]) :=
    Op.allTidy_when ⟨trivial, trivial⟩
  have hparams := oneLine_constructorParams fun f hf => (hfields f hf).1
  have hentries : Op.AllTidy (fields.map fun f => .line (entryLine f)) :=
    Op.allTidy_lines fun f hf => oneLine_entryLine (hfields f hf).1
  refine isDecl_classDecl hn ?_
  simp +decide only [Op.allTidy_append, Op.AllTidy, Op.IsTidy, Op.braces, oneLine_append, and_true,
    *]

theorem Param.oneLine_entityParams {fields : List Field}
    (hfields : ∀ f ∈ fields, OneLine f.name ∧ OneLine f.type) :
    ∀ p ∈ entityParams fields, OneLine p.text := by
  have hmanaged : ∀ p ∈ [(⟨"id", "String", true, none⟩ : Param),
      ⟨"createdAt", "DateTime", true, some "created_at"⟩,
      ⟨"updatedAt", "DateTime", true, some "updated_at"⟩], OneLine p.text := by decide
  intro p hp
  simp only [entityParams, List.mem_append, List.mem_map] at hp
  rcases hp with (hp | ⟨f, hf, rfl⟩) | hp
  · exact hmanaged p (by simp_all)
  · exact oneLine_fieldParam (hfields f hf).1 (hfields f hf).2
  · exact hmanaged p (List.mem_cons_of_mem _ hp)

/-! ## The files -/

theorem oneLine_createRequest {entity : String} (h : OneLine entity) :
    OneLine (createRequest entity) :=
  oneLine_append.2 ⟨oneLine_append.2 ⟨by decide, h⟩, by decide⟩

theorem oneLine_updateRequest {entity : String} (h : OneLine entity) :
    OneLine (updateRequest entity) :=
  oneLine_append.2 ⟨oneLine_append.2 ⟨by decide, h⟩, by decide⟩

section Files

variable {b : Blueprint} (he : b.entity.IsOneLine)
include he

theorem isTidy_modelFile (hfields : ∀ f ∈ b.fields, OneLine f.name ∧ OneLine f.type) :
    (modelFile b).IsTidy where
  imports := by
    rw [modelFile, List.forall_mem_singleton]
    exact oneLine_ofList (by decide)
  parts := by
    have hmodule := he.module
    simp +decide [modelFile, modelStem, *]
  decls := by
    simp only [modelFile, List.forall_mem_cons]
    exact ⟨isDecl_freezedClass he.pascal (Param.oneLine_entityParams hfields),
      isDecl_freezedClass (oneLine_createRequest he.pascal)
        (List.forall_mem_map.2 fun f hf => oneLine_fieldParam (hfields f hf).1 (hfields f hf).2),
      isDecl_updateClass (oneLine_updateRequest he.pascal) hfields, List.forall_mem_nil _⟩

theorem isTidy_repositoryFile (p : Pagination) : (repositoryFile p b).IsTidy where
  imports := by
    have hmodule := he.module
    simp +decide [repositoryFile, modelStem, *]
  parts := nofun
  decls := by
    have hpascal := he.pascal
    have hroute := he.route
    have hcreate := oneLine_createRequest he.pascal
    have hupdate := oneLine_updateRequest he.pascal
    have hpage := oneLine_intDigits p.defaultPage.toInt
    have hperPage := oneLine_intDigits p.defaultPerPage.toInt
    rw [repositoryFile, List.forall_mem_singleton]
    refine isDecl_classDecl (oneLine_append.2 ⟨hpascal, oneLine_ofList (by decide)⟩) ?_
    unfold getAllMethod requestOne request
    simp +decide [Program.separated_cons_cons, Program.separated_one, asyncMethod, braced,
      idPlaceholder, Entity.itemPath, Entity.collectionPath, Op.braces, Op.AllTidy, Op.IsTidy, *]

theorem isTidy_providerFile : (providerFile b).IsTidy where
  imports := by
    have hmodule := he.module
    simp +decide [providerFile, modelStem, repositoryStem, *]
  parts := nofun
  decls := by
    have hpascal := he.pascal
    have hcamel := he.camel
    simp only [providerFile, fromRepository, List.forall_mem_cons]
    refine ⟨isDecl_provider ?_ ?_ (oneLine_ofList (by decide)) ?_,
      isDecl_provider ?_ ?_ (oneLine_ofList (by decide)) ?_,
      isDecl_provider ?_ ?_ (oneLine_ofList (by decide)) ?_, List.forall_mem_nil _⟩
    all_goals
      simp +decide [Op.AllTidy, Op.IsTidy, *]

theorem isTidy_screenFile : (screenFile b).IsTidy where
  imports := by
    have hmodule := he.module
    simp +decide [screenFile, providerStem, *]
  parts := nofun
  decls := by
    have hpascal := he.pascal
    have hcamel := he.camel
    rw [screenFile, List.forall_mem_singleton]
    refine isDecl_classDecl ?_ ?_
    · simp +decide [*]
    · simp +decide [page, listView, call, braced, Op.braces, Op.AllTidy, Op.IsTidy, *]

end Files

end Scaffold.FlutterFeature
