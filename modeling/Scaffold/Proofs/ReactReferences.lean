import Scaffold.Proofs.FlutterImports
import Scaffold.Proofs.Layouts
import Scaffold.Proofs.References
import Scaffold.Proofs.SourceFiles

/-!
# The imports of a React feature

An import of another file of the feature names it relative to the importing file and without its
extension (`Path.Denotes`). Every such import leads to a file of the feature with lines that export
the imported names (`exists_exports_of_mem_imports`), the index exports files of the feature
(`exists_denotes_of_mem_indexSources`), and the hooks call methods of the client (`cites_hooks`).
-/

set_option autoImplicit false

namespace Scaffold

namespace Path

/-- In the file at `path`, `source` stands for the file at `target`, which has a known extension. -/
def Denotes (path source target : String) : Prop :=
  ∃ extension ∈ [".ts", ".tsx"], target = resolve path source ++ extension

theorem ofParts_concat_append (dirs : List String) (name extension : String) :
    ofParts (dirs ++ [name]) ++ extension = ofParts (dirs ++ [name ++ extension]) := by
  rcases List.eq_nil_or_concat dirs with rfl | ⟨_, _, rfl⟩
  · rfl
  · rw [ofParts_append (by simp) (by simp), ofParts_append (by simp) (by simp), String.append_assoc]
    rfl

section

variable {path source target file stem extension : String} {dirs : List String}
  (hextension : extension ∈ [".ts", ".tsx"])
include hextension

/-- From a file in a directory to one below it. -/
theorem denotes_below (sub : List String) (hnames : ∀ part ∈ sub ++ [stem], IsName part)
    (hpath : parts path = dirs ++ [file]) (hsource : parts source = "." :: (sub ++ [stem]))
    (htarget : parts target = dirs ++ sub ++ [stem ++ extension]) :
    Denotes path source target := by
  refine ⟨extension, hextension, ?_⟩
  have hresolve : resolve path source = ofParts (dirs ++ sub ++ [stem]) := by
    rw [resolve, hpath, hsource, List.dropLast_concat, ← List.singleton_append, land_append,
      land_idle (by decide), land_names hnames, List.append_assoc]
  rw [hresolve, ofParts_concat_append, ← htarget, ofParts_parts]

/-- From a file to another one in its directory. -/
theorem denotes_beside (hstem : IsName stem) (hpath : parts path = dirs ++ [file])
    (hsource : parts source = [".", stem]) (htarget : parts target = dirs ++ [stem ++ extension]) :
    Denotes path source target :=
  denotes_below hextension [] (by simpa using hstem) hpath hsource (by simpa using htarget)

/-- From a file in a directory to one in the directory around it. -/
theorem denotes_above {dir : String} (hstem : IsName stem)
    (hpath : parts path = dirs ++ [dir] ++ [file]) (hsource : parts source = ["..", stem])
    (htarget : parts target = dirs ++ [stem ++ extension]) : Denotes path source target := by
  refine ⟨extension, hextension, ?_⟩
  have hresolve : resolve path source = ofParts (dirs ++ [stem]) := by
    rw [resolve, hpath, hsource, List.dropLast_concat, land_up, List.dropLast_concat,
      land_name hstem]
  rw [hresolve, ofParts_concat_append, ← htarget, ofParts_parts]

end

end Path

namespace ReactFeature

open Code Scaffold.Path

/-- An import of another file of the feature. -/
def Import.IsRelative (i : Import) : Prop := i.source.toList.head? = some '.'

/-! ## The lines of a file -/

/-- The lines that import the names. -/
def Import.lines (i : Import) : List String :=
  let keyword := if i.types then "import type " else "import "
  let closing := "\x7d from '" ++ i.source ++ "';"
  if i.wrapped then
    (keyword ++ "\x7b") :: ((i.names.map fun name => "  " ++ name ++ ",") ++ [closing])
  else [keyword ++ "\x7b " ++ String.intercalate ", " i.names ++ " " ++ closing]

/-- A line of the file exports the name. -/
def SourceFile.Exports (f : SourceFile) (name : String) : Prop :=
  "export interface " ++ name ++ " \x7b" ∈ f.lines ∨
    "export const " ++ name ++ " = \x7b" ∈ f.lines ∨
    ∃ params, "export function " ++ name ++ "(" ++ params ++ ") \x7b" ∈ f.lines

theorem Import.allWritten_program (i : Import) :
    Op.allWritten .typescript 0 i.program = i.lines := by
  obtain ⟨names, source, types, wrapped⟩ := i
  have hname : ∀ name : String, lineAt .typescript 1 (name ++ ",") = "  " ++ name ++ "," := by
    simp [lineAt, Page.margin, Indent.unit, Indent.typescript, String.append_assoc]
  cases wrapped with
  | true =>
    have hclosing : "\x7d" ++ (" from '" ++ source ++ "';") = "\x7d from '" ++ source ++ "';" := by
      simp [← String.toList_inj]
    simp only [program, lines, Op.braces, Op.allWritten, Op.written, lineAt_zero,
      Op.allWritten_lines, hname, hclosing, if_true, List.append_nil]
  | false =>
    simp [program, lines, braced, Op.allWritten, Op.written, lineAt_zero, ← String.toList_inj]

/-- A head of a declaration stands in the lines of a file. -/
theorem SourceFile.mem_lines {f : SourceFile} {d : Decl} (h : d ∈ f.decls) {op : Op}
    (hop : op ∈ d.program) {s : String} (hs : s ∈ op.heads) : s ∈ f.lines :=
  (infix_lines h).subset (Op.mem_allWritten_of_mem_heads hop hs)

theorem SourceFile.exports_of_mem_exported {f : SourceFile} {name : String}
    (h : name ∈ f.exported) : f.Exports name := by
  obtain ⟨d, hd, hname⟩ := List.mem_filterMap.1 h
  cases d with
  | interface other members =>
    obtain rfl := Option.some.inj hname
    refine .inl (mem_lines hd (.head _) ?_)
    simp [Op.braces, Op.heads, ← String.toList_inj]
  | constant other value => cases hname
  | object other methods =>
    obtain rfl := Option.some.inj hname
    refine .inr (.inl (mem_lines hd (.head _) ?_))
    simp [Op.braces, Op.heads, ← String.toList_inj]
  | function other params body =>
    obtain rfl := Option.some.inj hname
    refine .inr (.inr ⟨params, mem_lines hd (.head _) ?_⟩)
    simp [Op.braces, Op.heads, ← String.toList_inj]

/-- No head of a declaration begins as an import does. -/
theorem Decl.head?_of_mem_heads {d : Decl} {op : Op} (hop : op ∈ d.program) {s : String}
    (hs : s ∈ op.heads) : s.toList.head? ≠ some 'i' := by
  cases d <;> obtain rfl := List.mem_singleton.1 hop <;>
    simp only [Op.braces, Op.heads, List.mem_cons, List.not_mem_nil, or_false] at hs
  case constant => simp [hs]
  all_goals rcases hs with rfl | rfl <;> simp

/-- The imports come first, and no other line begins as an import does. -/
theorem SourceFile.exists_lines_eq (f : SourceFile) :
    ∃ rest, f.lines = f.imports.flatMap Import.lines ++ rest ∧
      ∀ line ∈ rest, ¬ "import ".toList <+: line.toList := by
  obtain ⟨ops, hprogram, hops⟩ : ∃ ops, f.program = f.imports.flatMap Import.program ++ ops ∧
      ∀ op ∈ ops, op = .blank ∨ ∃ program ∈ f.decls.map Decl.program, op ∈ program := by
    unfold program
    split
    · rename_i hnil
      rw [List.isEmpty_iff.1 hnil]
      exact ⟨_, rfl, fun op => Program.mem_separated⟩
    · exact Program.exists_separated_cons _ _
  refine ⟨Op.allWritten .typescript 0 ops, ?_, fun line hline himport => ?_⟩
  · rw [lines, hprogram, Op.allWritten_append, Op.allWritten_eq, List.flatMap_assoc]
    simp only [← Op.allWritten_eq, Import.allWritten_program]
  · have hhead : line.toList.head? = some 'i' := by
      obtain ⟨rest, hrest⟩ := himport
      simp [← hrest]
    rw [Op.allWritten_eq] at hline
    obtain ⟨op, hop, hline⟩ := List.mem_flatMap.1 hline
    rcases hops op hop with rfl | ⟨program, hprogram, hop⟩
    · rw [List.mem_singleton.1 hline] at hhead
      cases hhead
    · obtain ⟨d, -, rfl⟩ := List.mem_map.1 hprogram
      rcases Op.head_of_mem_written hline with hline | rfl | ⟨s, rfl⟩
      · exact Decl.head?_of_mem_heads hop hline hhead
      · cases hhead
      · simp [Indent.typescript, Indent.unit] at hhead

/-! ## The imports of the files -/

theorem parts_sources :
    parts "./types" = [".", "types"] ∧ parts "./api" = [".", "api"] ∧
    parts "./hooks" = [".", "hooks"] ∧ parts "../types" = ["..", "types"] ∧
    parts "../hooks" = ["..", "hooks"] := by
  decide +kernel

section Paths

variable {b : Blueprint} (hentity : '/' ∉ b.entity.pascal.toList)
include hentity

theorem parts_files :
    parts (types b).path = dirParts b.entity ++ ["types" ++ ".ts"] ∧
    parts (api b).path = dirParts b.entity ++ ["api" ++ ".ts"] ∧
    parts (hooks b).path = dirParts b.entity ++ ["hooks" ++ ".ts"] ∧
    parts (list b).path =
      dirParts b.entity ++ ["components"] ++ [b.entity.pascal ++ "List" ++ ".tsx"] ∧
    parts (form b).path =
      dirParts b.entity ++ ["components"] ++ [b.entity.pascal ++ "Form" ++ ".tsx"] ∧
    parts (index b).path = dirParts b.entity ++ ["index.ts"] := by
  have hparts := parts_paths b
  rw [parts_of_slash_not_mem hentity] at hparts
  simpa [ArtifactSet.paths, artifacts, suffixed, String.append_assoc] using hparts

/-- What a file of the feature imports from another one is exported there. -/
theorem exists_exported_of_mem_imports {a : Artifact} {file : SourceFile}
    (ha : (a, file) ∈ sourceFiles b) {i : Import} (hi : i ∈ file.imports)
    (hrelative : i.IsRelative) :
    ∃ target exporting, (target, exporting) ∈ sourceFiles b ∧ Denotes a.path i.source target.path ∧
      ∀ name ∈ i.names, name ∈ exporting.exported := by
  obtain ⟨htypes, hapi, hhooks, hlist, hform, -⟩ := parts_files hentity
  obtain ⟨ptypes, papi, phooks, utypes, uhooks⟩ := parts_sources
  have hts : ".ts" ∈ [".ts", ".tsx"] := .head _
  simp only [sourceFiles, List.mem_cons, List.not_mem_nil, or_false, Prod.mk.injEq] at ha
  rcases ha with ⟨rfl, rfl⟩ | ⟨rfl, rfl⟩ | ⟨rfl, rfl⟩ | ⟨rfl, rfl⟩ | ⟨rfl, rfl⟩
  · cases hi
  · simp only [apiFile, List.mem_cons, List.not_mem_nil, or_false] at hi
    rcases hi with rfl | rfl
    · cases hrelative
    · refine ⟨types b, typesFile b, by simp [sourceFiles], ?_, ?_⟩
      · exact denotes_beside hts (by decide) hapi ptypes htypes
      · simp [SourceFile.exported, typesFile, Decl.exported?]
  · simp only [hooksFile, List.mem_cons, List.not_mem_nil, or_false] at hi
    rcases hi with rfl | rfl | rfl
    · cases hrelative
    · refine ⟨api b, apiFile b, by simp [sourceFiles], ?_, ?_⟩
      · exact denotes_beside hts (by decide) hhooks papi hapi
      · simp [SourceFile.exported, apiFile, Decl.exported?]
    · refine ⟨types b, typesFile b, by simp [sourceFiles], ?_, ?_⟩
      · exact denotes_beside hts (by decide) hhooks ptypes htypes
      · simp [SourceFile.exported, typesFile, Decl.exported?]
  · simp only [listFile, List.mem_cons, List.not_mem_nil, or_false] at hi
    rcases hi with rfl | rfl
    · refine ⟨hooks b, hooksFile b, by simp [sourceFiles], ?_, ?_⟩
      · exact denotes_above hts (by decide) hlist uhooks hhooks
      · simp [SourceFile.exported, hooksFile, queryHook, mutationHook, Decl.exported?]
    · refine ⟨types b, typesFile b, by simp [sourceFiles], ?_, ?_⟩
      · exact denotes_above hts (by decide) hlist utypes htypes
      · simp [SourceFile.exported, typesFile, Decl.exported?]
  · simp only [formFile, List.mem_cons, List.not_mem_nil, or_false] at hi
    rcases hi with rfl | rfl
    · refine ⟨hooks b, hooksFile b, by simp [sourceFiles], ?_, ?_⟩
      · exact denotes_above hts (by decide) hform uhooks hhooks
      · simp [SourceFile.exported, hooksFile, queryHook, mutationHook, Decl.exported?]
    · refine ⟨types b, typesFile b, by simp [sourceFiles], ?_, ?_⟩
      · exact denotes_above hts (by decide) hform utypes htypes
      · simp [SourceFile.exported, typesFile, Decl.exported?]

/-- A line exports what is imported. -/
theorem exists_exports_of_mem_imports {a : Artifact} {file : SourceFile}
    (ha : (a, file) ∈ sourceFiles b) {i : Import} (hi : i ∈ file.imports)
    (hrelative : i.IsRelative) :
    ∃ target exporting, (target, exporting) ∈ sourceFiles b ∧ Denotes a.path i.source target.path ∧
      ∀ name ∈ i.names, exporting.Exports name := by
  obtain ⟨target, exporting, htarget, hdenotes, hnames⟩ :=
    exists_exported_of_mem_imports hentity ha hi hrelative
  exact ⟨target, exporting, htarget, hdenotes, fun name hname =>
    SourceFile.exports_of_mem_exported (hnames name hname)⟩

/-- The index exports files of the feature. -/
theorem exists_denotes_of_mem_indexSources {source : String}
    (hsource : source ∈ indexSources b.entity.pascal) :
    ∃ target exporting, (target, exporting) ∈ sourceFiles b ∧
      Denotes (index b).path source target.path := by
  obtain ⟨htypes, hapi, hhooks, hlist, hform, hindex⟩ := parts_files hentity
  obtain ⟨ptypes, papi, phooks, -, -⟩ := parts_sources
  have hts : ".ts" ∈ [".ts", ".tsx"] := .head _
  have htsx : ".tsx" ∈ [".ts", ".tsx"] := .tail _ (.head _)
  have hcomponent (suffix : String) (hsuffix : '/' ∉ suffix.toList) :
      parts ("./components/" ++ b.entity.pascal ++ suffix) =
        "." :: (["components"] ++ [b.entity.pascal ++ suffix]) := by
    rw [String.append_assoc, parts_below [".", "components"] (by decide +kernel),
      parts_of_slash_not_mem (by simp [hentity, hsuffix])]
    rfl
  have hnames (suffix : String) (hsuffix : 3 ≤ suffix.length) :
      ∀ part ∈ ["components"] ++ [b.entity.pascal ++ suffix], IsName part := by
    simp only [List.singleton_append, List.forall_mem_cons]
    exact ⟨by decide, isName_append_right hsuffix, nofun⟩
  simp only [indexSources, List.mem_cons, List.not_mem_nil, or_false] at hsource
  rcases hsource with rfl | rfl | rfl | rfl | rfl
  · exact ⟨types b, typesFile b, by simp [sourceFiles],
      denotes_beside hts (by decide) hindex ptypes htypes⟩
  · exact ⟨api b, apiFile b, by simp [sourceFiles],
      denotes_beside hts (by decide) hindex papi hapi⟩
  · exact ⟨hooks b, hooksFile b, by simp [sourceFiles],
      denotes_beside hts (by decide) hindex phooks hhooks⟩
  · refine ⟨list b, listFile b, by simp [sourceFiles], ?_⟩
    exact denotes_below htsx ["components"] (hnames "List" (by decide)) hindex
      (hcomponent "List" (by decide)) hlist
  · refine ⟨form b, formFile b, by simp [sourceFiles], ?_⟩
    exact denotes_below htsx ["components"] (hnames "Form" (by decide)) hindex
      (hcomponent "Form" (by decide)) hform

end Paths

/-! ## The calls of the hooks -/

/-- The names of the entity that the hooks write, and the methods of the client. -/
def scope (b : Blueprint) : Scope where
  given := [b.entity.pascal, b.entity.camel, b.entity.modulePlural]
  links := [(['A', 'p', 'i'], (apiMethods b.entity.pascal).map (·.name))]
  isName := by
    simp only [List.map_cons, List.map_nil]
    decide
  apart := by
    simp only [List.map_cons, List.map_nil]
    decide

section Hooks

variable {b : Blueprint}

theorem declares_method {m : Method} (h : m ∈ apiMethods b.entity.pascal) :
    (scope b).Declares ['A', 'p', 'i'] m.name :=
  ⟨_, .head _, List.mem_map_of_mem h⟩

/-- The texts of the hooks refer to methods of the client. -/
theorem cites_hooks_texts :
    ∀ s ∈ Op.allTexts (hooksFile b).program, (scope b).Cites ['\n'] s := by
  have hpascal : (scope b).Piece b.entity.pascal := .of_mem (by simp [scope])
  have hcamel : (scope b).Piece b.entity.camel := .of_mem (by simp [scope])
  have hplural : (scope b).Piece b.entity.modulePlural := .of_mem (by simp [scope])
  have hmethods : ∀ m ∈ apiMethods b.entity.pascal, (scope b).Declares ['A', 'p', 'i'] m.name :=
    fun _ => declares_method
  simp only [apiMethods, List.forall_mem_cons] at hmethods
  obtain ⟨_, _, _, _, _, -⟩ := hmethods
  simp only [SourceFile.program, hooksFile, queryHook, mutationHook, Decl.program, Import.program,
    apiObject, createRequest, updateRequest, listParams, useCreate, useList, useOne, useUpdate,
    useDelete, List.isEmpty_cons, List.flatMap_cons, List.flatMap_nil, if_true, if_false,
    Bool.false_eq_true, List.cons_append, List.nil_append, List.append_nil, List.map_cons,
    List.map_nil, Program.separated_cons_cons, Program.separated_one, Op.braces, braced,
    Op.allTexts, Op.texts, String.intercalate_singleton, String.intercalate_cons_cons,
    List.forall_mem_cons, List.not_mem_nil, false_imp_iff, implies_true, and_true]
  and_intros
  all_goals
    try (with_reducible refine .of_append_empty ?_)
    try simp only [String.append_assoc]
    repeat' first
      | with_reducible exact Scope.Cites.nil
      | (with_reducible refine .reference_lit (by assumption) ?_ ?_); rfl
      | with_reducible refine Scope.Piece.cites (by assumption) ?_
      | (with_reducible refine .lit ?_ ?_); rfl

theorem cites_hooks : ∀ line ∈ (hooksFile b).lines, (scope b).Cites ['\n'] line := fun _ =>
  Scope.Cites.of_mem_written cites_hooks_texts

/-- The methods of the client spell no reference. -/
theorem isClear (hgiven : ∀ s ∈ (scope b).given,
    isQuietFrom (scope b).qualifiers [] s.toList = true) : (scope b).IsClear := by
  refine ⟨hgiven, fun q name hname => ?_⟩
  obtain ⟨names, hlink, hname⟩ := hname
  simp only [scope, List.mem_singleton, Prod.mk.injEq] at hlink
  obtain ⟨-, rfl⟩ := hlink
  simp only [apiMethods, List.map_cons, List.map_nil, List.mem_cons, List.not_mem_nil,
    or_false] at hname
  rcases hname with rfl | rfl | rfl | rfl | rfl <;> exact isQuietFrom_of_not_mem (by decide)

theorem exists_apiMethod {name : String} (h : (scope b).Declares ['A', 'p', 'i'] name) :
    ∃ m ∈ apiMethods b.entity.pascal, m.name = name := by
  obtain ⟨names, hlink, hname⟩ := h
  simp only [scope, List.mem_singleton, Prod.mk.injEq, true_and] at hlink
  rw [hlink] at hname
  exact List.mem_map.1 hname

end Hooks

/-- The lines of an object and of its methods. -/
theorem SourceFile.exists_object_lines {f : SourceFile} {name : String} {methods : List Method}
    (h : .object name methods ∈ f.decls) :
    ∃ body, ("export const " ++ name ++ " = \x7b") :: (body ++ ["\x7d;"]) <:+: f.lines ∧
      "\x7d;" ∉ body ∧ ∀ m ∈ methods, "  " ++ m.name ++ ": (" ++ m.params ++ ") =>" ∈ body := by
  have hheader : "export const " ++ name ++ " = " ++ "\x7b" =
      "export const " ++ name ++ " = \x7b" := by
    simp [← String.toList_inj]
  have hlines := infix_lines h
  simp only [Decl.program, Op.braces, Op.allWritten, Op.written, lineAt_zero, List.append_nil,
    hheader] at hlines
  refine ⟨_, hlines, fun hclose => ?_, fun m hm => ?_⟩
  · rcases Op.indented_of_mem_allWritten hclose with h | ⟨s, h⟩
    · simp at h
    · simpa [Indent.typescript, Indent.unit] using congrArg (·.toList.head?) h
  · refine (Op.infix_allWritten .typescript 1 <|
      Program.infix_separated (List.mem_map_of_mem hm)).subset ?_
    simp [Method.program, Op.allWritten, Op.written, lineAt, Page.margin, Indent.unit,
      Indent.typescript, ← String.toList_inj]

/-- What the files of a feature refer to is there. -/
structure Resolves (b : Blueprint) : Prop where
  artifacts : (sourceFiles b).map (·.1) ++ [index b] = artifacts b
  content : ∀ a file, (a, file) ∈ sourceFiles b → a.content = unlines file.lines
  importLines : ∀ a file, (a, file) ∈ sourceFiles b →
    ∃ rest, file.lines = file.imports.flatMap Import.lines ++ rest ∧
      ∀ line ∈ rest, ¬ "import ".toList <+: line.toList
  /-- A line of the file that is imported exports each of the names. -/
  imports : ∀ a file, (a, file) ∈ sourceFiles b → ∀ i ∈ file.imports, i.IsRelative →
    ∃ target exporting, (target, exporting) ∈ sourceFiles b ∧
      Denotes a.path i.source target.path ∧ ∀ name ∈ i.names, exporting.Exports name
  indexContent : (index b).content =
    unlines ((indexSources b.entity.pascal).map fun source => "export * from '" ++ source ++ "';")
  index : ∀ source ∈ indexSources b.entity.pascal,
    ∃ target exporting, (target, exporting) ∈ sourceFiles b ∧
      Denotes (index b).path source target.path
  /-- What the scope has behind the client are methods of the object that is exported. -/
  client : ∃ body,
    ("export const " ++ b.entity.camel ++ "Api = \x7b") :: (body ++ ["\x7d;"]) <:+:
      (apiFile b).lines ∧
    "\x7d;" ∉ body ∧ ∀ name, (scope b).Declares "Api".toList name →
      ∃ params, "  " ++ name ++ ": (" ++ params ++ ") =>" ∈ body
  /-- Every line of the hooks refers to what the scope has behind the client. -/
  cites : ∀ line ∈ (hooksFile b).lines, (scope b).Cites ['\n'] line
  /-- Unless a name that was given spells a reference, this is all that reads as one. -/
  reads : (∀ s ∈ (scope b).given, isQuietFrom (scope b).qualifiers [] s.toList = true) →
    ∀ line ∈ (hooksFile b).lines, ∀ before after,
      line.toList = before ++ "Api".toList ++ '.' :: after →
        ∃ name, (scope b).Declares "Api".toList name ∧
          ∃ rest, after = name.toList ++ rest ∧ Delimited rest

theorem resolves {b : Blueprint} (hentity : '/' ∉ b.entity.pascal.toList) : Resolves b where
  artifacts := map_fst_sourceFiles b
  content _ _ := content_eq_unlines
  importLines _ file _ := file.exists_lines_eq
  imports _ _ ha _ := exists_exports_of_mem_imports hentity ha
  indexContent := by
    have hplain : Op.allPlain (barrel (indexSources b.entity.pascal)) = true :=
      Op.allPlain_lines _ _
    rw [index, Program.render_eq hplain, barrel, Op.allWritten_lines]
    simp only [lineAt_zero]
  index _ := exists_denotes_of_mem_indexSources hentity
  client := by
    have hobject : .object (b.entity.camel ++ "Api") (apiMethods b.entity.pascal) ∈
        (apiFile b).decls := .tail _ (.head _)
    obtain ⟨body, hlines, hclose, hmethods⟩ := SourceFile.exists_object_lines hobject
    have hheader : "export const " ++ (b.entity.camel ++ "Api") ++ " = \x7b" =
        "export const " ++ b.entity.camel ++ "Api = \x7b" := by
      simp [← String.toList_inj]
    refine ⟨body, hheader ▸ hlines, hclose, fun name hname => ?_⟩
    obtain ⟨m, hm, rfl⟩ := exists_apiMethod hname
    exact ⟨m.params, hmethods m hm⟩
  cites := cites_hooks
  reads hgiven line hline _ _ :=
    (cites_hooks line hline).exists_name (.head _) (isClear hgiven)

end ReactFeature

end Scaffold
