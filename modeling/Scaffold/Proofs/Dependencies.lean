import Scaffold.Generator

/-!
# What each file depends on

A generation is made from an entity, from toggles and from `Inputs`. `Stack.reads` lists, file by
file, which readings of the inputs a file may depend on, and `Stack.respected` says that it depends
on nothing else: two runs that agree on what a file reads write the same file. The paths and the
kinds depend on the entity and the toggles alone, and a toggle only adds files at the end
(`Stack.files_validators`).
-/

set_option autoImplicit false

namespace Scaffold

/-- What a generation is made from besides the entity and the toggles. -/
structure Inputs where
  fields : List Field
  project : String
  pagination : Pagination

/-- A reading of the inputs. -/
inductive Reading where
  | fields
  /-- The column that list queries search. -/
  | searchColumn
  | project
  | defaultPage
  | defaultPerPage
  | maxPerPage
  deriving DecidableEq, Repr

/-- Two inputs give the same reading. -/
def Reading.Agree (stack : Stack) (i j : Inputs) : Reading → Prop
  | fields => i.fields = j.fields
  | searchColumn =>
    Scaffold.searchColumn i.fields stack.stringType = Scaffold.searchColumn j.fields stack.stringType
  | project => i.project = j.project
  | defaultPage => i.pagination.defaultPage = j.pagination.defaultPage
  | defaultPerPage => i.pagination.defaultPerPage = j.pagination.defaultPerPage
  | maxPerPage => i.pagination.maxPerPage = j.pagination.maxPerPage

namespace Stack

/-- The files that a stack makes from an entity. -/
def files (stack : Stack) (e : Entity) (options : Options) (i : Inputs) : ArtifactSet :=
  (Generator.ofStack i.pagination stack).artifacts ⟨e, i.fields, i.project, options⟩

/-- The files that the toggles add. -/
def toggled (options : Options) : Stack → List (ArtifactKind × List Reading)
  | go => if options.validators then [(.validator, [.project])] else []
  | _ => []

/-- The kinds of the files and what each of them reads. Of the two views of a React feature the first
is the list and the second the form. -/
def reads (options : Options) (stack : Stack) : List (ArtifactKind × List Reading) :=
  (match stack with
    | go =>
      [(.model, [.fields]), (.dto, [.fields, .project, .maxPerPage]),
       (.useCase, [.fields, .project, .defaultPage, .defaultPerPage]),
       (.controller, [.project, .defaultPage, .defaultPerPage]), (.wiring, [.project])]
    | laravel =>
      [(.model, [.fields]), (.migration, [.fields]),
       (.controller, [.searchColumn, .defaultPerPage]), (.request, [.fields]),
       (.resource, [.fields]), (.useCase, []), (.useCase, []), (.useCase, [])]
    | react =>
      [(.dto, [.fields]), (.apiClient, []), (.state, []), (.view, []), (.view, [.fields]),
       (.index, [])]
    | flutter =>
      [(.model, [.fields]), (.repository, [.defaultPage, .defaultPerPage]), (.state, []),
       (.view, [])]) ++ toggled options stack

end Stack

/-- The files of two runs, one for each row: they have the path and the kind in common, and the
content too if the inputs agree on what the row reads. -/
inductive Respected (stack : Stack) (i j : Inputs) :
    List (ArtifactKind × List Reading) → ArtifactSet → ArtifactSet → Prop
  | nil : Respected stack i j [] [] []
  | cons {path : String} {kind : ArtifactKind} {readings : List Reading} {s t : String}
      {rows : List (ArtifactKind × List Reading)} {as bs : ArtifactSet}
      (h : (∀ r ∈ readings, r.Agree stack i j) → s = t) (hrest : Respected stack i j rows as bs) :
      Respected stack i j ((kind, readings) :: rows) (⟨path, kind, s⟩ :: as) (⟨path, kind, t⟩ :: bs)

namespace Respected

variable {stack : Stack} {i j : Inputs} {rows more : List (ArtifactKind × List Reading)}
  {as bs cs ds : ArtifactSet}

theorem append (h : Respected stack i j rows as bs) (h' : Respected stack i j more cs ds) :
    Respected stack i j (rows ++ more) (as ++ cs) (bs ++ ds) := by
  induction h with
  | nil => exact h'
  | cons h _ ih => exact .cons h ih

theorem paths_eq (h : Respected stack i j rows as bs) : as.paths = bs.paths := by
  induction h with
  | nil => rfl
  | cons _ _ ih => exact congrArg (List.cons _) ih

theorem kinds_eq (h : Respected stack i j rows as bs) : as.map (·.kind) = rows.map (·.1) := by
  induction h with
  | nil => rfl
  | cons _ _ ih => exact congrArg (List.cons _) ih

/-- Inputs that agree on what the file at place `k` reads give the same file there. -/
theorem getElem?_eq (h : Respected stack i j rows as bs) {k : Nat}
    {row : ArtifactKind × List Reading} (hrow : rows[k]? = some row)
    (hagree : ∀ r ∈ row.2, r.Agree stack i j) : as[k]? = bs[k]? := by
  induction h generalizing k with
  | nil => cases hrow
  | cons h _ ih =>
    cases k with
    | zero =>
      obtain rfl := Option.some.inj hrow
      exact congrArg (fun content => some (Artifact.mk _ _ content)) (h hagree)
    | succ k => exact ih hrow

/-- Inputs that agree on everything that is read give the same files. -/
theorem eq_of_agree (h : Respected stack i j rows as bs)
    (hagree : ∀ row ∈ rows, ∀ r ∈ row.2, r.Agree stack i j) : as = bs := by
  induction h with
  | nil => rfl
  | cons h _ ih =>
    obtain ⟨hrow, hrows⟩ := List.forall_mem_cons.1 hagree
    rw [h hrow, ih hrows]

end Respected

/-! ## The stacks -/

section Stacks

variable (e : Entity) (options : Options) (i j : Inputs)

theorem Stack.respected_go :
    Respected .go i j (Stack.go.reads options) (Stack.go.files e options i)
      (Stack.go.files e options j) := by
  obtain ⟨fields, project, pagination⟩ := i
  obtain ⟨fields', project', pagination'⟩ := j
  refine .append (.cons ?_ <| .cons ?_ <| .cons ?_ <| .cons ?_ <| .cons ?_ .nil) ?_
  · simp only [List.forall_mem_cons, Reading.Agree]
    rintro ⟨rfl, -⟩
    rfl
  · simp only [List.forall_mem_cons, Reading.Agree]
    rintro ⟨rfl, rfl, hmax, -⟩
    simp only [GoModule.dtoFile, GoModule.listRequestMembers, hmax]
  · simp only [List.forall_mem_cons, Reading.Agree]
    rintro ⟨rfl, rfl, hpage, hperPage, -⟩
    simp only [GoModule.usecaseFile, GoModule.listMethod, GoModule.clampPages, hpage, hperPage]
  · simp only [List.forall_mem_cons, Reading.Agree]
    rintro ⟨rfl, hpage, hperPage, -⟩
    simp only [GoModule.controllerFile, GoModule.handlers, GoModule.clampPages, hpage, hperPage]
    rfl
  · simp only [List.forall_mem_cons, Reading.Agree]
    rintro ⟨rfl, -⟩
    rfl
  · obtain ⟨_ | _⟩ := options
    · exact .nil
    · refine .cons ?_ .nil
      simp only [List.forall_mem_cons, Reading.Agree]
      rintro ⟨rfl, -⟩
      rfl

theorem Stack.respected_laravel :
    Respected .laravel i j (Stack.laravel.reads options) (Stack.laravel.files e options i)
      (Stack.laravel.files e options j) := by
  obtain ⟨fields, project, pagination⟩ := i
  obtain ⟨fields', project', pagination'⟩ := j
  refine .cons ?_ <| .cons ?_ <| .cons ?_ <| .cons ?_ <| .cons ?_ <| .cons (fun _ => rfl) <|
    .cons (fun _ => rfl) <| .cons (fun _ => rfl) .nil
  all_goals simp only [List.forall_mem_cons, Reading.Agree]
  · rintro ⟨rfl, -⟩
    rfl
  · rintro ⟨rfl, -⟩
    rfl
  · rintro ⟨hcolumn, hperPage, -⟩
    simp only [LaravelModule.controllerFile, LaravelModule.indexMethod, hcolumn, hperPage]
  · rintro ⟨rfl, -⟩
    rfl
  · rintro ⟨rfl, -⟩
    rfl

theorem Stack.respected_react :
    Respected .react i j (Stack.react.reads options) (Stack.react.files e options i)
      (Stack.react.files e options j) := by
  obtain ⟨fields, project, pagination⟩ := i
  obtain ⟨fields', project', pagination'⟩ := j
  refine .cons ?_ <| .cons (fun _ => rfl) <| .cons (fun _ => rfl) <| .cons (fun _ => rfl) <|
    .cons ?_ <| .cons (fun _ => rfl) .nil
  all_goals simp only [List.forall_mem_cons, Reading.Agree]
  · rintro ⟨rfl, -⟩
    rfl
  · rintro ⟨rfl, -⟩
    rfl

theorem Stack.respected_flutter :
    Respected .flutter i j (Stack.flutter.reads options) (Stack.flutter.files e options i)
      (Stack.flutter.files e options j) := by
  obtain ⟨fields, project, pagination⟩ := i
  obtain ⟨fields', project', pagination'⟩ := j
  refine .cons ?_ <| .cons ?_ <| .cons (fun _ => rfl) <| .cons (fun _ => rfl) .nil
  all_goals simp only [List.forall_mem_cons, Reading.Agree]
  · rintro ⟨rfl, -⟩
    rfl
  · rintro ⟨hpage, hperPage, -⟩
    simp only [FlutterFeature.repositoryFile, FlutterFeature.getAllMethod, hpage, hperPage]

theorem Stack.respected (stack : Stack) :
    Respected stack i j (stack.reads options) (stack.files e options i)
      (stack.files e options j) := by
  cases stack with
  | go => exact respected_go e options i j
  | laravel => exact respected_laravel e options i j
  | react => exact respected_react e options i j
  | flutter => exact respected_flutter e options i j

/-- Without a toggle the files are the same but for those that the toggle adds, at the end. -/
theorem Stack.files_validators (stack : Stack) :
    ∃ added : ArtifactSet,
      stack.files e ⟨true⟩ i = stack.files e ⟨false⟩ i ++ added ∧
        added.map (·.kind) = (stack.toggled ⟨true⟩).map (·.1) := by
  cases stack with
  | go => exact ⟨[_], rfl, rfl⟩
  | laravel => exact ⟨[], (List.append_nil _).symm, rfl⟩
  | react => exact ⟨[], (List.append_nil _).symm, rfl⟩
  | flutter => exact ⟨[], (List.append_nil _).symm, rfl⟩

end Stacks

/-- What two runs with the same toggles have in common. -/
structure Stack.Shares (stack : Stack) (e : Entity) (options : Options) (i j : Inputs) :
    Prop where
  paths : (stack.files e options i).paths = (stack.files e options j).paths
  kinds : (stack.files e options i).map (·.kind) = (stack.reads options).map (·.1)
  /-- A file is the same if the runs agree on what it reads. -/
  file : ∀ (k : Nat) (row : ArtifactKind × List Reading), (stack.reads options)[k]? = some row →
    (∀ r ∈ row.2, r.Agree stack i j) →
    (stack.files e options i)[k]? = (stack.files e options j)[k]?
  /-- The project reaches Go modules alone. -/
  project : stack ≠ go → i.fields = j.fields → i.pagination = j.pagination →
    stack.files e options i = stack.files e options j
  /-- The pagination reaches no React feature. -/
  pagination : stack = react → i.fields = j.fields → i.project = j.project →
    stack.files e options i = stack.files e options j

/-- Each input reaches only the files that read it. The toggle of the validators adds one file at the
end of a Go module and nothing elsewhere. The paths and the kinds are a matter of the entity and the
toggles, and a file is the same in two runs that agree on what `Stack.reads` lists for it. So the
project reaches Go modules alone, and the pagination no React feature. -/
theorem Stack.files_dependencies (stack : Stack) (e : Entity) :
    (∀ i, ∃ added : ArtifactSet,
      stack.files e ⟨true⟩ i = stack.files e ⟨false⟩ i ++ added ∧
        added.map (·.kind) = if stack = go then [.validator] else []) ∧
    ∀ options i j, stack.Shares e options i j := by
  refine ⟨fun i => ?_, fun options i j => ?_⟩
  · obtain ⟨added, hfiles, hkinds⟩ := stack.files_validators e i
    exact ⟨added, hfiles, hkinds.trans (by cases stack <;> rfl)⟩
  · have h := stack.respected e options i j
    refine ⟨h.paths_eq, h.kinds_eq, fun k row => h.getElem?_eq, ?_, ?_⟩
    · intro hstack hfields hpagination
      refine h.eq_of_agree ?_
      cases stack <;> simp_all [reads, toggled, Reading.Agree]
    · rintro rfl hfields -
      refine h.eq_of_agree ?_
      simp [reads, toggled, Reading.Agree, hfields]

/-- A foreign key is not searched, so a Laravel controller does not tell it from no field at all, nor
one project or largest page from another. -/
theorem Stack.files_dependencies_foreign_key :
    (Stack.laravel.files (.named "product") {} ⟨[], "shop", {}⟩)[2]? =
      (Stack.laravel.files (.named "product") {}
        ⟨[⟨"user_id", "string", true⟩], "", { maxPerPage := 5 }⟩)[2]? :=
  ((Stack.laravel.files_dependencies (.named "product")).2 {} _ _).file 2
    (.controller, [.searchColumn, .defaultPerPage]) rfl <| by
      rintro r (_ | ⟨_, _ | ⟨_, ⟨⟩⟩⟩)
      · show searchColumn [] "string" = searchColumn [⟨"user_id", "string", true⟩] "string"
        decide
      · rfl

end Scaffold
