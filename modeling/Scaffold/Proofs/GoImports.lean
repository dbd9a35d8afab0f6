import Mathlib.Data.List.TakeWhile
import Scaffold.Proofs.Layouts
import Scaffold.Proofs.SourceFiles

/-!
# The imports of a Go module

A package is imported by the directory of its files, below the path of the project. The paths that
stand in the import lines of a file are its imports (`SourceFile.imported_iff`), and each of them
that ends in the name of a package of the module is the directory of the file of that package
(`imported_eq_directory`).
-/

set_option autoImplicit false

namespace Scaffold

namespace Path

/-- The directory of the file at `path`. -/
def directory (path : String) : String := ofParts (parts path).dropLast

theorem directory_append_slash (dir : String) {leaf : String} (h : '/' ∉ leaf.toList) :
    directory (dir ++ "/" ++ leaf) = dir := by
  rw [directory, parts_append_slash, parts_of_slash_not_mem h, List.dropLast_concat, ofParts_parts]

end Path

namespace GoModule

open Code Scaffold.Path

/-! ## Import lines -/

/-- The lines from `import (` up to the bracket that closes it. -/
def importBlock (lines : List String) : List String :=
  (lines.dropWhile (· ≠ "import (")).takeWhile (· ≠ ")")

/-- The lines import the path, alone or in the block of imports. -/
def Imported (lines : List String) (path : String) : Prop :=
  "import \"" ++ path ++ "\"" ∈ lines ∨ "\t\"" ++ path ++ "\"" ∈ importBlock lines

theorem importBlock_eq_nil {lines : List String} (h : "import (" ∉ lines) :
    importBlock lines = [] := by
  have hdrop : lines.dropWhile (· ≠ "import (") = [] :=
    List.dropWhile_eq_nil_iff.2 fun line hline => by simpa using ne_of_mem_of_not_mem hline h
  rw [importBlock, hdrop, List.takeWhile_nil]

theorem importBlock_eq {before block after : List String} (hbefore : "import (" ∉ before)
    (hblock : ")" ∉ block) :
    importBlock (before ++ "import (" :: (block ++ ")" :: after)) = "import (" :: block := by
  have hkept : ∀ line ∈ block, decide (line ≠ ")") = true := fun line hline => by
    simpa using ne_of_mem_of_not_mem hline hblock
  rw [importBlock, List.dropWhile_append_of_pos fun line hline => by
      simpa using ne_of_mem_of_not_mem hline hbefore,
    List.dropWhile_cons_of_neg (by simp), List.takeWhile_cons_of_pos (by decide),
    List.takeWhile_append_of_pos hkept, List.takeWhile_cons_of_neg (by simp), List.append_nil]

theorem opening_ne (path : String) : "import (" ≠ "import \"" ++ path ++ "\"" := fun h => by
  have hchar := congrArg (fun line : String => line.toList.drop 7) h
  simp at hchar

/-- No head of a declaration begins as an import does. -/
theorem Decl.head?_of_mem_heads {d : Decl} {s : String} (h : s ∈ d.op.heads) :
    s.toList.head? ≠ some 'i' := by
  cases d <;> simp only [Decl.op, Op.braces, Op.heads, List.mem_cons, List.not_mem_nil,
    or_false] at h <;> rcases h with rfl | rfl <;> simp

/-- The package and the imports come first, and no other line begins as an import does. -/
theorem SourceFile.exists_lines_eq (f : SourceFile) :
    ∃ rest, f.lines =
        ("package " ++ f.package) :: "" :: (Op.allWritten .go 0 f.imports.program ++ rest) ∧
      ∀ line ∈ rest, line.toList.head? ≠ some 'i' := by
  obtain ⟨ops, hprogram, hops⟩ :=
    Program.exists_separated_cons f.imports.program (f.decls.map fun d => [d.op])
  refine ⟨Op.allWritten .go 0 ops, ?_, fun line hline => ?_⟩
  · rw [lines, program, Program.separated_cons_cons, hprogram]
    simp [Op.allWritten, Op.written, Op.allWritten_append, lineAt_zero]
  · rw [Op.allWritten_eq] at hline
    obtain ⟨op, hop, hline⟩ := List.mem_flatMap.1 hline
    rcases hops op hop with rfl | ⟨program, hprogram, hop⟩
    · simp [List.mem_singleton.1 hline]
    · obtain ⟨d, -, rfl⟩ := List.mem_map.1 hprogram
      rw [List.mem_singleton.1 hop] at hline
      rcases Op.head_of_mem_written hline with hline | rfl | ⟨s, rfl⟩
      · exact Decl.head?_of_mem_heads hline
      · simp
      · simp [Indent.go, Indent.unit]

/-- The lines of the groups of a block. -/
theorem mem_groups_lines {groups : List (List String)} {line : String} :
    line ∈ Op.allWritten .go 1
        (Program.separated (groups.map (·.map fun path => .line (quoted path)))) ∧ line ≠ "" ↔
      ∃ path ∈ groups.flatten, line = "\t\"" ++ path ++ "\"" := by
  have hwritten : ∀ path, (Op.line (quoted path)).written .go 1 = ["\t\"" ++ path ++ "\""] := by
    simp [Op.written, lineAt, Page.margin, Indent.unit, Indent.go, quoted, ← String.toList_inj]
  constructor
  · rintro ⟨hline, hne⟩
    rw [Op.allWritten_eq] at hline
    obtain ⟨op, hop, hline⟩ := List.mem_flatMap.1 hline
    rcases Program.mem_separated hop with rfl | ⟨program, hprogram, hop⟩
    · exact absurd (List.mem_singleton.1 hline) hne
    · obtain ⟨group, hgroup, rfl⟩ := List.mem_map.1 hprogram
      obtain ⟨path, hpath, rfl⟩ := List.mem_map.1 hop
      rw [hwritten, List.mem_singleton] at hline
      exact ⟨path, List.mem_flatten.2 ⟨group, hgroup, hpath⟩, hline⟩
  · rintro ⟨path, hpath, rfl⟩
    obtain ⟨group, hgroup, hpath⟩ := List.mem_flatten.1 hpath
    refine ⟨?_, by simp⟩
    rw [Op.allWritten_eq]
    refine List.mem_flatMap.2 ⟨.line (quoted path), ?_, by simp [hwritten]⟩
    exact (Program.infix_separated (List.mem_map_of_mem hgroup)).subset
      (List.mem_map.2 ⟨path, hpath, rfl⟩)

section

variable {first rest : List String} (hfirst : ∀ line ∈ first, line.toList.head? ≠ some 'i')
  (hrest : ∀ line ∈ rest, line.toList.head? ≠ some 'i') {path : String}
include hfirst hrest

theorem imported_single {only : String} :
    Imported (first ++ ("import \"" ++ only ++ "\"") :: rest) path ↔ path = only := by
  have hopening : "import (" ∉ first ++ ("import \"" ++ only ++ "\"") :: rest := by
    rw [List.mem_append, List.mem_cons]
    rintro (h | h | h)
    · exact hfirst _ h rfl
    · exact opening_ne only h
    · exact hrest _ h rfl
  rw [Imported, importBlock_eq_nil hopening, or_iff_left (List.not_mem_nil), List.mem_append,
    List.mem_cons]
  constructor
  · rintro (h | h | h)
    · exact absurd (by simp) (hfirst _ h)
    · simpa [← String.toList_inj] using h
    · exact absurd (by simp) (hrest _ h)
  · rintro rfl
    exact .inr (.inl rfl)

theorem imported_grouped {block paths : List String}
    (hblock : ∀ line ∈ block, line = "" ∨ ∃ s, line = "\t" ++ s)
    (hpaths : ∀ line, line ∈ block ∧ line ≠ "" ↔ ∃ path ∈ paths, line = "\t\"" ++ path ++ "\"") :
    Imported (first ++ "import (" :: (block ++ ")" :: rest)) path ↔ path ∈ paths := by
  have hkept {line : String} (hne : line ≠ "") (ht : line.toList.head? ≠ some '\t') :
      line ∉ block := fun hmem => by
    rcases hblock line hmem with rfl | ⟨s, rfl⟩
    · exact hne rfl
    · simp at ht
  have halone : "import \"" ++ path ++ "\"" ∉ first ++ "import (" :: (block ++ ")" :: rest) := by
    simp only [List.mem_append, List.mem_cons]
    rintro (h | h | h | h | h)
    · exact hfirst _ h (by simp)
    · exact opening_ne path h.symm
    · exact hkept (by simp) (by simp) h
    · simpa using congrArg (·.toList.head?) h
    · exact hrest _ h (by simp)
  have hne (s : String) (hs : s.toList.head? ≠ some '\t') : "\t\"" ++ path ++ "\"" ≠ s := by
    rintro rfl
    simp at hs
  rw [Imported, importBlock_eq (fun h => hfirst _ h rfl) (hkept (by simp) (by simp)),
    or_iff_right halone, List.mem_cons, or_iff_right (hne "import (" (by simp)),
    ← and_iff_left (a := _ ∈ block) (hne "" (by simp)), hpaths]
  constructor
  · rintro ⟨other, hother, h⟩
    obtain rfl : path = other := by simpa [← String.toList_inj] using h
    exact hother
  · exact fun h => ⟨path, h, rfl⟩

end

/-- The paths in the import lines are the imports. -/
theorem SourceFile.imported_iff {f : SourceFile} {path : String} :
    Imported f.lines path ↔ path ∈ f.imports.paths := by
  obtain ⟨rest, hlines, hrest⟩ := f.exists_lines_eq
  have hfirst : ∀ line ∈ ["package " ++ f.package, ""], line.toList.head? ≠ some 'i' := by simp
  rw [hlines]
  cases f.imports with
  | single only =>
    have honly : Op.allWritten .go 0 (Imports.single only).program =
        ["import \"" ++ only ++ "\""] := by
      simp [Imports.program, Op.allWritten, Op.written, lineAt_zero, quoted, ← String.toList_inj]
    rw [honly, Imports.paths, List.mem_singleton]
    exact imported_single hfirst hrest
  | grouped groups =>
    have hgrouped : Op.allWritten .go 0 (Imports.grouped groups).program ++ rest =
        "import (" :: (Op.allWritten .go 1 (Program.separated
          (groups.map (·.map fun path => .line (quoted path)))) ++ ")" :: rest) := by
      simp [Imports.program, Op.allWritten, Op.written, lineAt_zero]
    rw [hgrouped, Imports.paths]
    exact imported_grouped hfirst hrest (fun _ => Op.indented_of_mem_allWritten)
      fun _ => mem_groups_lines

variable {p : Pagination} {b : Blueprint}

/-- The files of a module, with the optional one. -/
def files (p : Pagination) (b : Blueprint) : List SourceFile :=
  [modelFile b, dtoFile p b, usecaseFile p b, controllerFile p b, wiringFile b, validatorFile b]

theorem mem_files {a : Artifact} {file : SourceFile} (h : (a, file) ∈ sourceFiles p b) :
    file ∈ files p b := by
  simp only [sourceFiles, List.mem_append, List.mem_cons, List.not_mem_nil, or_false,
    Prod.mk.injEq] at h
  rcases h with (⟨-, rfl⟩ | ⟨-, rfl⟩ | ⟨-, rfl⟩ | ⟨-, rfl⟩ | ⟨-, rfl⟩) | h
  iterate 5 simp [files]
  split at h
  · obtain ⟨-, rfl⟩ := Prod.mk.inj (List.mem_singleton.1 h)
    simp [files]
  · cases h

/-- The packages that a module imports from itself. -/
def ownPackages : List String := ["dtos", "usecases", "controllers", "database"]

/-- The path that a package of the module is imported by. -/
def importPath (b : Blueprint) (package : String) : String :=
  if package = "database" then databasePath b.project else packagePath b package

theorem getLast?_parts (root : String) {package : String} (h : '/' ∉ package.toList) :
    (parts (root ++ "/" ++ package)).getLast? = some package := by
  rw [parts_append_slash, parts_of_slash_not_mem h, List.getLast?_concat]

/-- `path` is the import path of a package of the module, if it ends in the name of one. -/
def IsOwnIfNamed (b : Blueprint) (path : String) : Prop :=
  ∀ package ∈ ownPackages, (parts path).getLast? = some package → path = importPath b package

theorem isOwnIfNamed_of_last {path last : String} (hlast : (parts path).getLast? = some last)
    (hown : last ∈ ownPackages → path = importPath b last) : IsOwnIfNamed b path := by
  intro package hp hpackage
  obtain rfl := Option.some.inj (hlast.symm.trans hpackage)
  exact hown hp

/-- A package of the standard library. -/
theorem isOwnIfNamed_standard {path : String} (hslash : '/' ∉ path.toList)
    (hnot : path ∉ ownPackages) : IsOwnIfNamed b path :=
  isOwnIfNamed_of_last (by rw [parts_of_slash_not_mem hslash]; rfl) fun h => absurd h hnot

/-- A package of another project, or one of this project that the module has no part in. -/
theorem isOwnIfNamed_other (root last : String) {path : String}
    (hpath : path = root ++ "/" ++ last) (hslash : '/' ∉ last.toList)
    (hnot : last ∉ ownPackages) : IsOwnIfNamed b path :=
  isOwnIfNamed_of_last (hpath ▸ getLast?_parts root hslash) fun h => absurd h hnot

theorem isOwnIfNamed_of_mem_imports (p : Pagination) (b : Blueprint) :
    ∀ file ∈ files p b, ∀ path ∈ file.imports.paths, IsOwnIfNamed b path := by
  have hpackage (package : String) (hslash : '/' ∉ package.toList) (hne : package ≠ "database") :
      IsOwnIfNamed b (packagePath b package) :=
    isOwnIfNamed_of_last (getLast?_parts _ hslash) fun _ => (if_neg hne).symm
  have hdtos := hpackage "dtos" (by decide) (by decide)
  have husecases := hpackage "usecases" (by decide) (by decide)
  have hcontrollers := hpackage "controllers" (by decide) (by decide)
  have hdatabase : IsOwnIfNamed b (databasePath b.project) := by
    have hpath : databasePath b.project = b.project ++ "/pkg" ++ "/" ++ "database" := by
      simp [databasePath, ← String.toList_inj]
    refine isOwnIfNamed_of_last ?_ fun _ => (if_pos rfl).symm
    rw [hpath]
    exact getLast?_parts _ (by decide)
  have hresponse : IsOwnIfNamed b (b.project ++ "/pkg/response") :=
    isOwnIfNamed_other (b.project ++ "/pkg") "response" (by simp [← String.toList_inj]) (by decide)
      (by decide)
  have hmiddleware : IsOwnIfNamed b (b.project ++ "/internal/middleware") :=
    isOwnIfNamed_other (b.project ++ "/internal") "middleware" (by simp [← String.toList_inj])
      (by decide) (by decide)
  have hgorm : IsOwnIfNamed b "gorm.io/gorm" :=
    isOwnIfNamed_other "gorm.io" "gorm" (by simp) (by decide) (by decide)
  have hgin : IsOwnIfNamed b "github.com/gin-gonic/gin" :=
    isOwnIfNamed_other "github.com/gin-gonic" "gin" (by simp) (by decide) (by decide)
  have huuid : IsOwnIfNamed b "github.com/google/uuid" :=
    isOwnIfNamed_other "github.com/google" "uuid" (by simp) (by decide) (by decide)
  have hhttp : IsOwnIfNamed b "net/http" :=
    isOwnIfNamed_other "net" "http" (by simp) (by decide) (by decide)
  have htime : IsOwnIfNamed b "time" := isOwnIfNamed_standard (by decide) (by decide)
  have hcontext : IsOwnIfNamed b "context" := isOwnIfNamed_standard (by decide) (by decide)
  have herrors : IsOwnIfNamed b "errors" := isOwnIfNamed_standard (by decide) (by decide)
  simp only [files, modelFile, dtoFile, usecaseFile, controllerFile, wiringFile, validatorFile,
    Imports.paths, List.flatten_cons, List.flatten_nil, List.cons_append, List.nil_append,
    List.forall_mem_cons, List.not_mem_nil, false_imp_iff, implies_true, and_true]
  and_intros <;> with_reducible assumption

/-- The packages that a module imports from itself, with the file of each. -/
def packageFiles (p : Pagination) (b : Blueprint) : List (String × Artifact × SourceFile) :=
  [("dtos", dto p b, dtoFile p b), ("usecases", usecases p b, usecaseFile p b),
   ("controllers", controllers p b, controllerFile p b), ("database", model b, modelFile b)]

theorem exists_mem_packageFiles {package : String} (h : package ∈ ownPackages) :
    ∃ target declaring, (package, target, declaring) ∈ packageFiles p b := by
  simp only [ownPackages, List.mem_cons, List.not_mem_nil, or_false] at h
  rcases h with rfl | rfl | rfl | rfl <;> simp [packageFiles]

theorem packageFiles_cases {package : String} {target : Artifact} {declaring : SourceFile}
    (h : (package, target, declaring) ∈ packageFiles p b) :
    (package = "dtos" ∧ target = dto p b ∧ declaring = dtoFile p b) ∨
    (package = "usecases" ∧ target = usecases p b ∧ declaring = usecaseFile p b) ∨
    (package = "controllers" ∧ target = controllers p b ∧ declaring = controllerFile p b) ∨
    (package = "database" ∧ target = model b ∧ declaring = modelFile b) := by
  simpa [packageFiles] using h

/-- A package is imported by the directory of its file. -/
theorem importPath_eq (hmodule : '/' ∉ b.entity.module.toList) {package : String}
    {target : Artifact} {declaring : SourceFile}
    (h : (package, target, declaring) ∈ packageFiles p b) :
    importPath b package = b.project ++ "/" ++ directory target.path := by
  have hdirectory {path : String} (dir suffix : String) (hsuffix : '/' ∉ suffix.toList)
      (hpath : path = dir ++ "/" ++ (b.entity.module ++ suffix)) : directory path = dir := by
    rw [hpath, directory_append_slash dir (by simp [hmodule, hsuffix])]
  rcases packageFiles_cases h with ⟨rfl, rfl, -⟩ | ⟨rfl, rfl, -⟩ | ⟨rfl, rfl, -⟩ | ⟨rfl, rfl, -⟩
  · rw [hdirectory (moduleDir b.entity ++ "/dtos") "_dto.go" (by decide)
      (by simp [dto, ← String.toList_inj])]
    simp [importPath, packagePath, ← String.toList_inj]
  · rw [hdirectory (moduleDir b.entity ++ "/usecases") "_usecase.go" (by decide)
      (by simp [usecases, ← String.toList_inj])]
    simp [importPath, packagePath, ← String.toList_inj]
  · rw [hdirectory (moduleDir b.entity ++ "/controllers") "_controller.go" (by decide)
      (by simp [controllers, ← String.toList_inj])]
    simp [importPath, packagePath, ← String.toList_inj]
  · rw [hdirectory "pkg/database" ".go" (by decide) (by simp [model, ← String.toList_inj])]
    simp [importPath, databasePath, ← String.toList_inj]

/-- A path that a line imports and that ends in the name of a package of the module is the directory
of the file of that package. -/
theorem imported_eq_directory (hmodule : '/' ∉ b.entity.module.toList) {package : String}
    {target : Artifact} {declaring : SourceFile}
    (h : (package, target, declaring) ∈ packageFiles p b) {a : Artifact} {file : SourceFile}
    (ha : (a, file) ∈ sourceFiles p b) {path root : String} (hpath : Imported file.lines path)
    (hroot : path = root ++ "/" ++ package) :
    path = b.project ++ "/" ++ directory target.path := by
  have hpackage : package ∈ ownPackages := by
    have hnames : (packageFiles p b).map (·.1) = ownPackages := rfl
    exact hnames ▸ List.mem_map_of_mem h
  have hslash : '/' ∉ package.toList := (by decide : ∀ q ∈ ownPackages, '/' ∉ q.toList) _ hpackage
  rw [isOwnIfNamed_of_mem_imports p b file (mem_files ha) path (SourceFile.imported_iff.1 hpath)
    package hpackage (hroot ▸ getLast?_parts root hslash)]
  exact importPath_eq hmodule h

end GoModule

end Scaffold
