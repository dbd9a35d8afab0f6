import Scaffold.Generator
import Scaffold.Proofs.PlainPrograms

/-!
# The source files behind the artifacts

The artifacts of a generation, each with the source file that it is the text of. `content_eq` says
so, `content_eq_unlines` says it line by line, and `map_fst_sourceFiles` that no artifact is left
out, but for the index of a React feature, which is no source file with declarations. The lines of a
declaration stand in a file in one piece (`GoModule.SourceFile.infix_lines`), and its heads among
them as they are (`GoModule.SourceFile.mem_lines`).
-/

set_option autoImplicit false

namespace Scaffold

open Code

namespace GoModule

/-- The files of a module with what they are made of. -/
def sourceFiles (p : Pagination) (b : Blueprint) : List (Artifact × SourceFile) :=
  [(model b, modelFile b), (dto p b, dtoFile p b), (usecases p b, usecaseFile p b),
   (controllers p b, controllerFile p b), (wiring b, wiringFile b)] ++
  if b.options.validators then [(validator b, validatorFile b)] else []

theorem map_fst_sourceFiles (p : Pagination) (b : Blueprint) :
    (sourceFiles p b).map (·.1) = artifacts p b := by
  rw [sourceFiles, artifacts, List.map_append]
  split <;> rfl

theorem content_eq {p : Pagination} {b : Blueprint} {a : Artifact} {file : SourceFile}
    (h : (a, file) ∈ sourceFiles p b) : a.content = file.render := by
  simp only [sourceFiles, List.mem_append, List.mem_cons, List.not_mem_nil, or_false,
    Prod.mk.injEq] at h
  rcases h with (⟨rfl, rfl⟩ | ⟨rfl, rfl⟩ | ⟨rfl, rfl⟩ | ⟨rfl, rfl⟩ | ⟨rfl, rfl⟩) | h
  iterate 5 rfl
  split at h
  · obtain ⟨rfl, rfl⟩ := Prod.mk.inj (List.mem_singleton.1 h)
    rfl
  · cases h

theorem Imports.allPlain_program (i : Imports) : Op.allPlain i.program = true := by
  cases i with
  | single path => rfl
  | grouped groups =>
    have hgroups : Op.allPlain (Program.separated
        (groups.map (·.map fun path => .line (quoted path)))) = true := by
      rw [Op.allPlain_eq, List.all_eq_true]
      intro op hop
      rcases Program.mem_separated hop with rfl | ⟨group, hg, hop⟩
      · rfl
      · obtain ⟨paths, -, rfl⟩ := List.mem_map.1 hg
        obtain ⟨path, -, rfl⟩ := List.mem_map.1 hop
        rfl
    simpa [Imports.program, Op.allPlain, Op.isPlain] using hgroups

theorem SourceFile.allPlain_program {f : SourceFile} (h : ∀ d ∈ f.decls, d.op.isPlain = true) :
    Op.allPlain f.program = true := by
  rw [Op.allPlain_eq, List.all_eq_true]
  intro op hop
  rcases Program.mem_separated hop with rfl | ⟨program, hp, hop⟩
  · rfl
  · rcases List.mem_cons.1 hp with rfl | hp
    · rw [List.mem_singleton.1 hop]
      rfl
    · rcases List.mem_cons.1 hp with rfl | hp
      · exact List.all_eq_true.1 ((Op.allPlain_eq _).symm.trans (Imports.allPlain_program _)) op hop
      · obtain ⟨d, hd, rfl⟩ := List.mem_map.1 hp
        rw [List.mem_singleton.1 hop]
        exact h d hd

/-- The lines of a file. -/
def SourceFile.lines (f : SourceFile) : List String := Op.allWritten .go 0 f.program

/-- A declaration stands in a file in one piece. -/
theorem SourceFile.infix_lines {f : SourceFile} {d : Decl} (h : d ∈ f.decls) :
    Op.allWritten .go 0 [d.op] <:+: f.lines :=
  Op.infix_allWritten .go 0 <| Program.infix_separated <|
    .tail _ (.tail _ (List.mem_map.2 ⟨d, h, rfl⟩))

theorem SourceFile.mem_lines {f : SourceFile} {d : Decl} (h : d ∈ f.decls) {s : String}
    (hs : s ∈ d.op.heads) : s ∈ f.lines :=
  (infix_lines h).subset (Op.mem_allWritten_of_mem_heads (.head _) hs)

theorem allPlain_of_mem {p : Pagination} {b : Blueprint} {a : Artifact} {file : SourceFile}
    (h : (a, file) ∈ sourceFiles p b) : Op.allPlain file.program = true := by
  simp only [sourceFiles, List.mem_append, List.mem_cons, List.not_mem_nil, or_false,
    Prod.mk.injEq] at h
  rcases h with (⟨-, rfl⟩ | ⟨-, rfl⟩ | ⟨-, rfl⟩ | ⟨-, rfl⟩ | ⟨-, rfl⟩) | h
  · refine SourceFile.allPlain_program ?_
    simp [modelFile, Decl.op, Op.braces, ifThen, Op.isPlain, Op.allPlain_eq]
  · refine SourceFile.allPlain_program ?_
    simp [dtoFile, toResponseDecl, toListResponseDecl, Decl.op, Op.braces, ifThen, Op.isPlain,
      Op.allPlain_eq]
  · refine SourceFile.allPlain_program ?_
    simp [usecaseFile, createMethod, getByIdMethod, updateMethod, deleteMethod, listMethod,
      usecaseMethod, loadById, returnErr, ifErr, clampPages, Decl.op, Op.braces, ifThen, Op.isPlain,
      Op.allPlain_eq]
  · refine SourceFile.allPlain_program ?_
    simp [controllerFile, handlers, bindRequest, callUsecase, internalError, fail, answer, readId,
      ifErr, clampPages, Decl.op, Op.braces, ifThen, Op.isPlain, Op.allPlain_eq]
  · refine SourceFile.allPlain_program ?_
    simp [wiringFile, Decl.op, Op.braces, Op.isPlain, Op.allPlain_eq]
  · split at h
    · obtain ⟨-, rfl⟩ := Prod.mk.inj (List.mem_singleton.1 h)
      refine SourceFile.allPlain_program ?_
      simp [validatorFile, returnErr, ifErr, Decl.op, Op.braces, ifThen, Op.isPlain, Op.allPlain_eq]
    · cases h

theorem content_eq_unlines {p : Pagination} {b : Blueprint} {a : Artifact} {file : SourceFile}
    (h : (a, file) ∈ sourceFiles p b) : a.content = unlines file.lines := by
  rw [content_eq h, SourceFile.render, Program.render_eq (allPlain_of_mem h), SourceFile.lines]

end GoModule

namespace LaravelModule

/-- The files of a module with what they are made of. -/
def sourceFiles (p : Pagination) (b : Blueprint) : List (Artifact × SourceFile) :=
  [(model b, modelFile b), (migration b, migrationFile b), (controller p b, controllerFile p b),
   (request b, requestFile b), (resource b, resourceFile b)] ++
  Action.all.map fun a => (useCase a b, useCaseFile a b)

theorem map_fst_sourceFiles (p : Pagination) (b : Blueprint) :
    (sourceFiles p b).map (·.1) = artifacts p b := rfl

theorem content_eq {p : Pagination} {b : Blueprint} {a : Artifact} {file : SourceFile}
    (h : (a, file) ∈ sourceFiles p b) : a.content = file.render := by
  simp only [sourceFiles, List.mem_append, List.mem_cons, List.not_mem_nil, or_false,
    List.mem_map, Prod.mk.injEq] at h
  rcases h with (⟨rfl, rfl⟩ | ⟨rfl, rfl⟩ | ⟨rfl, rfl⟩ | ⟨rfl, rfl⟩ | ⟨rfl, rfl⟩) | ⟨_, -, rfl, rfl⟩
  iterate 6 rfl

theorem SourceFile.allPlain_program {f : SourceFile} (h : Op.allPlain f.body = true) :
    Op.allPlain f.program = true := by
  obtain ⟨phpNamespace?, uses, header, body, tail⟩ := f
  cases phpNamespace? <;>
    simpa [program, Op.braces, Op.allPlain_eq, Op.isPlain] using h

/-- The lines of a file. -/
def SourceFile.lines (f : SourceFile) : List String := Op.allWritten .php 0 f.program

theorem SourceFile.mem_lines {f : SourceFile} {line : String} (h : .line line ∈ f.program) :
    line ∈ f.lines :=
  Op.mem_allWritten_of_mem_heads h (.head _)

theorem allPlain_of_mem {p : Pagination} {b : Blueprint} {a : Artifact} {file : SourceFile}
    (h : (a, file) ∈ sourceFiles p b) : Op.allPlain file.program = true := by
  refine SourceFile.allPlain_program ?_
  simp only [sourceFiles, List.mem_append, List.mem_cons, List.not_mem_nil, or_false,
    List.mem_map, Prod.mk.injEq] at h
  rcases h with (⟨-, rfl⟩ | ⟨-, rfl⟩ | ⟨-, rfl⟩ | ⟨-, rfl⟩ | ⟨-, rfl⟩) | ⟨action, -, -, rfl⟩
  · simp [modelFile, Op.allPlain_eq, Op.isPlain]
  · simp [migrationFile, method, function, Op.braces, Op.allPlain_eq, Op.isPlain]
  · simp [controllerFile, indexMethod, showMethod, storeMethod, updateMethod, destroyMethod, method,
      function, Op.braces, Program.separated_cons_cons, Program.separated_one, Op.allPlain_eq,
      Op.isPlain]
  · simp [requestFile, method, function, Program.all_when, Op.braces, Op.allPlain_eq, Op.isPlain]
  · simp [resourceFile, method, function, Op.braces, Op.allPlain_eq, Op.isPlain]
  · cases action <;>
      simp [useCaseFile, Action.execute, method, function, Op.braces, Op.allPlain_eq, Op.isPlain]

theorem content_eq_unlines {p : Pagination} {b : Blueprint} {a : Artifact} {file : SourceFile}
    (h : (a, file) ∈ sourceFiles p b) : a.content = unlines file.lines := by
  rw [content_eq h, SourceFile.render, Program.render_eq (allPlain_of_mem h), SourceFile.lines]

end LaravelModule

namespace ReactFeature

/-- The files of a feature with what they are made of; the index only exports other files. -/
def sourceFiles (b : Blueprint) : List (Artifact × SourceFile) :=
  [(types b, typesFile b), (api b, apiFile b), (hooks b, hooksFile b), (list b, listFile b),
   (form b, formFile b)]

theorem map_fst_sourceFiles (b : Blueprint) :
    (sourceFiles b).map (·.1) ++ [index b] = artifacts b := rfl

theorem content_eq {b : Blueprint} {a : Artifact} {file : SourceFile}
    (h : (a, file) ∈ sourceFiles b) : a.content = file.render := by
  simp only [sourceFiles, List.mem_cons, List.not_mem_nil, or_false, Prod.mk.injEq] at h
  rcases h with ⟨rfl, rfl⟩ | ⟨rfl, rfl⟩ | ⟨rfl, rfl⟩ | ⟨rfl, rfl⟩ | ⟨rfl, rfl⟩
  iterate 5 rfl

theorem Import.allPlain_program (i : Import) : Op.allPlain i.program = true := by
  by_cases h : i.wrapped = true
  · simp [Import.program, h, Op.braces, Op.allPlain_eq, Op.isPlain]
  · simp [Import.program, h, Op.allPlain_eq, Op.isPlain]

theorem SourceFile.allPlain_program {f : SourceFile}
    (h : ∀ d ∈ f.decls, Op.allPlain d.program = true) : Op.allPlain f.program = true := by
  rw [Op.allPlain_eq, List.all_eq_true]
  intro op hop
  rcases Program.mem_separated hop with rfl | ⟨program, hp, hop⟩
  · rfl
  · have hplain : Op.allPlain program = true := by
      rcases List.mem_append.1 hp with hp | hp
      · split at hp
        · cases hp
        · rw [List.mem_singleton.1 hp, Op.allPlain_eq, List.all_flatMap, List.all_eq_true]
          exact fun i _ => (Op.allPlain_eq _).symm.trans i.allPlain_program
      · obtain ⟨d, hd, rfl⟩ := List.mem_map.1 hp
        exact h d hd
    exact List.all_eq_true.1 ((Op.allPlain_eq _).symm.trans hplain) op hop

/-- The lines of a file. -/
def SourceFile.lines (f : SourceFile) : List String := Op.allWritten .typescript 0 f.program

/-- A declaration stands in a file in one piece. -/
theorem SourceFile.infix_lines {f : SourceFile} {d : Decl} (h : d ∈ f.decls) :
    Op.allWritten .typescript 0 d.program <:+: f.lines :=
  Op.infix_allWritten .typescript 0 <|
    Program.infix_separated (List.mem_append_right _ (List.mem_map_of_mem h))

theorem allPlain_of_mem {b : Blueprint} {a : Artifact} {file : SourceFile}
    (h : (a, file) ∈ sourceFiles b) : Op.allPlain file.program = true := by
  refine SourceFile.allPlain_program ?_
  simp only [sourceFiles, List.mem_cons, List.not_mem_nil, or_false, Prod.mk.injEq] at h
  rcases h with ⟨-, rfl⟩ | ⟨-, rfl⟩ | ⟨-, rfl⟩ | ⟨-, rfl⟩ | ⟨-, rfl⟩
  · simp [typesFile, Decl.program, Op.braces, Op.allPlain_eq, Op.isPlain]
  · simp [apiFile, apiMethods, Method.program, Decl.program, Program.separated_cons_cons,
      Program.separated_one, Op.braces, Op.allPlain_eq, Op.isPlain]
  · simp [hooksFile, queryHook, mutationHook, Decl.program, Op.braces, Op.allPlain_eq, Op.isPlain]
  · simp [listFile, handleDelete, itemElement, element, returned, Decl.program, Op.braces,
      Op.allPlain_eq, Op.isPlain]
  · simp [formFile, handleSubmit, inputElement, submitButton, element, returned, Program.each,
      Program.all_when, Decl.program, Op.braces, Op.allPlain_eq, Op.isPlain]

theorem content_eq_unlines {b : Blueprint} {a : Artifact} {file : SourceFile}
    (h : (a, file) ∈ sourceFiles b) : a.content = unlines file.lines := by
  rw [content_eq h, SourceFile.render, Program.render_eq (allPlain_of_mem h), SourceFile.lines]

end ReactFeature

namespace FlutterFeature

/-- The files of a feature with what they are made of. -/
def sourceFiles (p : Pagination) (b : Blueprint) : List (Artifact × SourceFile) :=
  [(model b, modelFile b), (repository p b, repositoryFile p b), (providers b, providerFile b),
   (screen b, screenFile b)]

theorem map_fst_sourceFiles (p : Pagination) (b : Blueprint) :
    (sourceFiles p b).map (·.1) = artifacts p b := rfl

theorem content_eq {p : Pagination} {b : Blueprint} {a : Artifact} {file : SourceFile}
    (h : (a, file) ∈ sourceFiles p b) : a.content = file.render := by
  simp only [sourceFiles, List.mem_cons, List.not_mem_nil, or_false, Prod.mk.injEq] at h
  rcases h with ⟨rfl, rfl⟩ | ⟨rfl, rfl⟩ | ⟨rfl, rfl⟩ | ⟨rfl, rfl⟩
  iterate 4 rfl

/-- The lines of a file. -/
def SourceFile.lines (f : SourceFile) : List String := Op.allWritten .dart 0 f.program

/-- A declaration stands in a file in one piece. -/
theorem SourceFile.infix_lines {f : SourceFile} {P : Program} (h : P ∈ f.decls) :
    Op.allWritten .dart 0 P <:+: f.lines :=
  Op.infix_allWritten .dart 0 (Program.infix_separated (List.mem_append_right _ h))

theorem SourceFile.allPlain_program {f : SourceFile} (h : ∀ P ∈ f.decls, Op.allPlain P = true) :
    Op.allPlain f.program = true := by
  rw [Op.allPlain_eq, List.all_eq_true]
  intro op hop
  rcases Program.mem_separated hop with rfl | ⟨program, hp, hop⟩
  · rfl
  · have hplain : Op.allPlain program = true := by
      simp only [List.mem_append, List.mem_singleton] at hp
      rcases hp with (rfl | hp) | hp
      · exact Op.allPlain_lines ..
      · split at hp
        · cases hp
        · rw [List.mem_singleton.1 hp]
          exact Op.allPlain_lines ..
      · exact h program hp
    exact List.all_eq_true.1 ((Op.allPlain_eq _).symm.trans hplain) op hop

theorem allPlain_of_mem {p : Pagination} {b : Blueprint} {a : Artifact} {file : SourceFile}
    (h : (a, file) ∈ sourceFiles p b) : Op.allPlain file.program = true := by
  refine SourceFile.allPlain_program ?_
  simp only [sourceFiles, List.mem_cons, List.not_mem_nil, or_false, Prod.mk.injEq] at h
  rcases h with ⟨-, rfl⟩ | ⟨-, rfl⟩ | ⟨-, rfl⟩ | ⟨-, rfl⟩
  · simp [modelFile, freezedClass, updateClass, classDecl, Op.braces, Program.all_when,
      Op.allPlain_eq, Op.isPlain]
  · simp [repositoryFile, classDecl, getAllMethod, asyncMethod, requestOne, Op.braces,
      Program.separated_cons_cons, Program.separated_one, Op.allPlain_eq, Op.isPlain]
  · simp [providerFile, provider, fromRepository, Op.braces, Op.allPlain_eq, Op.isPlain]
  · simp [screenFile, classDecl, page, listView, call, Op.braces, Op.allPlain_eq, Op.isPlain]

theorem content_eq_unlines {p : Pagination} {b : Blueprint} {a : Artifact} {file : SourceFile}
    (h : (a, file) ∈ sourceFiles p b) : a.content = unlines file.lines := by
  rw [content_eq h, SourceFile.render, Program.render_eq (allPlain_of_mem h), SourceFile.lines]

end FlutterFeature

end Scaffold
