import Mathlib.Data.List.Forall2
import Mathlib.Data.List.Nodup
import Scaffold.Proofs.FlutterImports
import Scaffold.Proofs.SourceFiles

/-!
# The members of generated types

`Generator.types` reads the types out of the files of a generation: the structs of a Go module, the
interfaces of a React feature and the classes of a Flutter feature, where a line of the file declares
each member (`FlutterFeature.exists_line_of_mem_members`). Each of the types has members of its own,
which are pairwise distinct, and either no others or one for each field, named by
`Stack.memberName` (`Generator.types_distinct`). The names of fields may differ only in what their
Pascal or camel case does not show, and then the members coincide (`Generator.types_coincide`).
-/

set_option autoImplicit false

namespace Scaffold

/-- A type that a generated file declares, with the names of its members. -/
structure TypeDecl where
  name : String
  members : List String
  deriving DecidableEq, Repr

/-- The member that stands for a field. -/
def Stack.memberName : Stack → Field → String
  | go, f => GoModule.memberName f
  | flutter, f => FlutterFeature.memberName f
  | _, f => f.name

/-! ## The types of each stack -/

namespace GoModule

/-- The type that a declaration adds to its package. The lines of a shape are members as well. -/
def Decl.type? : Decl → Option TypeDecl
  | .struct name members => some ⟨name, members.map (·.name)⟩
  | .shape name _ lines => some ⟨name, lines⟩
  | .func .. | .method .. => none

/-- The types that a file declares. -/
def SourceFile.types (f : SourceFile) : List TypeDecl := f.decls.filterMap Decl.type?

def types (p : Pagination) (b : Blueprint) : List TypeDecl :=
  (sourceFiles p b).flatMap fun file => file.2.types

end GoModule

namespace ReactFeature

def Decl.type? : Decl → Option TypeDecl
  | .interface name members => some ⟨name, members.map (·.name)⟩
  | .constant .. | .object .. | .function .. => none

/-- The interfaces that a file declares. -/
def SourceFile.interfaces (f : SourceFile) : List TypeDecl := f.decls.filterMap Decl.type?

def interfaces (b : Blueprint) : List TypeDecl :=
  (sourceFiles b).flatMap fun file => file.2.interfaces

end ReactFeature

namespace FlutterFeature

open Code

/-- A class of the feature. -/
inductive ClassDecl where
  /-- An immutable class; its members are the parameters of the factory constructor. -/
  | freezed (name : String) (params : List Param)
  /-- The class of an update, with a member for each field. -/
  | update (name : String) (fields : List Field)
  /-- Any other class, its named members with the code that declares them. A constructor without a
  name stands with the member before it. -/
  | plain (name : String) (base : String) (members : List (String × Program))

namespace ClassDecl

def program : ClassDecl → Program
  | freezed name params => freezedClass name params
  | update name fields => updateClass name fields
  | plain name base members => classDecl (name ++ base) (Program.separated (members.map (·.2)))

def type : ClassDecl → TypeDecl
  | freezed name params => ⟨name, params.map (·.name)⟩
  | update name fields => ⟨name, fields.map memberName ++ ["toJson"]⟩
  | plain name _ members => ⟨name, members.map (·.1)⟩

end ClassDecl

def modelClasses (b : Blueprint) : List ClassDecl :=
  let entity := b.entity.pascal
  [.freezed entity (entityParams b.fields),
   .freezed (createRequest entity) (b.fields.map fieldParam),
   .update (updateRequest entity) b.fields]

def repositoryClass (p : Pagination) (b : Blueprint) : ClassDecl :=
  let entity := b.entity.pascal
  let item := b.entity.itemPath idPlaceholder
  .plain (entity ++ "Repository") "" [
    ("_dio", [.line "final Dio _dio;", .blank, .line (entity ++ "Repository(this._dio);")]),
    ("getAll", [getAllMethod p b]),
    ("getById", [asyncMethod entity "getById" "String id" (requestOne entity "get" item)]),
    ("create", [asyncMethod entity "create" (createRequest entity ++ " request")
      (requestOne entity "post" b.entity.collectionPath ", data: request.toJson()")]),
    ("update", [asyncMethod entity "update" ("String id, " ++ updateRequest entity ++ " request")
      (requestOne entity "put" item ", data: request.toJson()")]),
    ("delete", [asyncMethod "void" "delete" "String id" [.line (request "delete" item)]])]

def screenClass (b : Blueprint) : ClassDecl :=
  let screen := b.entity.pascal ++ "ListScreen"
  .plain screen " extends ConsumerWidget" [
    ("build", [
      .line ("const " ++ screen ++ "(" ++ braced "super.key" ++ ");"),
      .blank,
      .line "@override",
      .braces "Widget build(BuildContext context, WidgetRef ref) " [
        .line ("final itemsAsync = ref.watch(" ++ b.entity.camel ++ "ListProvider);"),
        .blank,
        page b.entity.pascal]])]

/-- The classes of the feature; the providers declare none. -/
def classes (p : Pagination) (b : Blueprint) : List ClassDecl :=
  modelClasses b ++ [repositoryClass p b, screenClass b]

/-! The files of the feature declare these classes. -/

theorem decls_modelFile (b : Blueprint) :
    (modelFile b).decls = (modelClasses b).map ClassDecl.program := rfl

theorem decls_repositoryFile (p : Pagination) (b : Blueprint) :
    (repositoryFile p b).decls = [(repositoryClass p b).program] := by
  simp [repositoryFile, repositoryClass, ClassDecl.program, Program.separated_cons_cons]

theorem decls_screenFile (b : Blueprint) : (screenFile b).decls = [(screenClass b).program] := by
  simp [screenFile, screenClass, ClassDecl.program, Program.separated_one]

def types (p : Pagination) (b : Blueprint) : List TypeDecl := (classes p b).map ClassDecl.type

/-! ### Members and lines -/

/-- The line declares the member: its name stands behind a blank and before one of these signs. -/
def Declares (member line : String) : Prop :=
  ∃ before after, ∃ sign ∈ [",", ";", "("], line = before ++ " " ++ member ++ sign ++ after

theorem Declares.lineAt {member line : String} (h : Declares member line) (level : Nat) :
    Declares member (Code.lineAt .dart level line) := by
  obtain ⟨before, after, sign, hsign, rfl⟩ := h
  exact ⟨Page.margin .dart level ++ before, after, sign, hsign, by
    simp [Code.lineAt, String.append_assoc]⟩

theorem Param.declares (param : Param) : Declares param.name param.text :=
  ⟨_, "", ",", by decide, String.append_empty.symm⟩

theorem declares_asyncMethod (result name params : String) (body : Program) (level : Nat) :
    ∃ line ∈ (asyncMethod result name params body).written .dart level, Declares name line := by
  refine ⟨_, .head _, Declares.lineAt ⟨"Future<" ++ result ++ ">", params ++ ") async \x7b", "(",
    by decide, ?_⟩ level⟩
  simp [← String.toList_inj]

theorem mem_written_classDecl {header line : String} {body : Program}
    (h : line ∈ Op.allWritten .dart 1 body) :
    line ∈ Op.allWritten .dart 0 (classDecl header body) :=
  Op.mem_allWritten_of_mem (.head _) (.tail _ (List.mem_append_left _ h))

namespace ClassDecl

/-- Each member is declared in a line of the class. -/
def IsLabelled (c : ClassDecl) : Prop :=
  ∀ member ∈ c.type.members, ∃ line ∈ Op.allWritten .dart 0 c.program, Declares member line

theorem isLabelled_freezed (name : String) (params : List Param) :
    (freezed name params).IsLabelled := by
  intro member hmember
  obtain ⟨param, hparam, rfl⟩ := List.mem_map.1 hmember
  refine ⟨_, ?_, param.declares.lineAt 2⟩
  rw [program, freezedClass, Op.allWritten_append]
  refine List.mem_append_right _ (mem_written_classDecl (Op.mem_allWritten_of_mem (.head _) ?_))
  exact .tail _ (List.mem_append_left _
    (Op.mem_allWritten_of_mem (List.mem_map_of_mem hparam) (.head _)))

theorem isLabelled_update (name : String) (fields : List Field) :
    (update name fields).IsLabelled := by
  intro member hmember
  rcases List.mem_append.1 hmember with h | h
  · obtain ⟨f, hf, rfl⟩ := List.mem_map.1 h
    have hline : Declares (memberName f)
        ("final " ++ nullableType f ++ " " ++ memberName f ++ ";") :=
      ⟨"final " ++ nullableType f, "", ";", by decide, by simp⟩
    refine ⟨_, mem_written_classDecl ?_, hline.lineAt 1⟩
    exact Op.mem_allWritten_of_mem (List.mem_append_left _ (List.mem_append_left _
      (List.mem_map_of_mem hf))) (.head _)
  · obtain rfl := List.mem_singleton.1 h
    have hline : Declares "toJson" ("Map<String, dynamic> toJson() => " ++ "\x7b") :=
      ⟨"Map<String, dynamic>", ") => \x7b", "(", by decide, by decide⟩
    refine ⟨_, mem_written_classDecl ?_, hline.lineAt 1⟩
    exact Op.mem_allWritten_of_mem (List.mem_append_right _ (.tail _ (.tail _ (.head _)))) (.head _)

/-- In a plain class, each member is declared in the code that stands beside its name. -/
theorem isLabelled_plain (name base : String) {members : List (String × Program)}
    (h : ∀ m ∈ members, ∃ op ∈ m.2, ∃ line ∈ op.written .dart 1, Declares m.1 line) :
    (plain name base members).IsLabelled := by
  intro member hmember
  obtain ⟨m, hm, rfl⟩ := List.mem_map.1 hmember
  obtain ⟨op, hop, line, hline, hdeclares⟩ := h m hm
  have hbody : op ∈ Program.separated (members.map (·.2)) :=
    (Program.infix_separated (List.mem_map_of_mem hm)).subset hop
  exact ⟨line, mem_written_classDecl (Op.mem_allWritten_of_mem hbody hline), hdeclares⟩

end ClassDecl

theorem isLabelled_repositoryClass (p : Pagination) (b : Blueprint) :
    (repositoryClass p b).IsLabelled := by
  refine ClassDecl.isLabelled_plain _ _ ?_
  have hdio : Declares "_dio" "final Dio _dio;" := ⟨"final Dio", "", ";", by decide, by decide⟩
  simp only [List.forall_mem_cons]
  exact ⟨⟨_, .head _, _, .head _, hdio.lineAt 1⟩, ⟨_, .head _, declares_asyncMethod ..⟩,
    ⟨_, .head _, declares_asyncMethod ..⟩, ⟨_, .head _, declares_asyncMethod ..⟩,
    ⟨_, .head _, declares_asyncMethod ..⟩, ⟨_, .head _, declares_asyncMethod ..⟩, nofun⟩

theorem isLabelled_screenClass (b : Blueprint) : (screenClass b).IsLabelled := by
  refine ClassDecl.isLabelled_plain _ _ ?_
  rw [List.forall_mem_singleton]
  have hline : Declares "build" ("Widget build(BuildContext context, WidgetRef ref) " ++ "\x7b") :=
    ⟨"Widget", "BuildContext context, WidgetRef ref) \x7b", "(", by decide, by decide⟩
  exact ⟨_, .tail _ (.tail _ (.tail _ (.head _))), _, .head _, hline.lineAt 1⟩

/-- Each member of a class has a line in a file of the feature that declares it. -/
theorem exists_line_of_mem_members {p : Pagination} {b : Blueprint} {c : ClassDecl}
    (hc : c ∈ classes p b) {member : String} (hmember : member ∈ c.type.members) :
    ∃ a ∈ sourceFiles p b, ∃ line ∈ a.2.lines, Declares member line := by
  have hlabelled : c.IsLabelled := by
    simp only [classes, modelClasses, List.mem_append, List.mem_cons, List.not_mem_nil,
      or_false] at hc
    rcases hc with (rfl | rfl | rfl) | rfl | rfl
    · exact ClassDecl.isLabelled_freezed _ _
    · exact ClassDecl.isLabelled_freezed _ _
    · exact ClassDecl.isLabelled_update _ _
    · exact isLabelled_repositoryClass p b
    · exact isLabelled_screenClass b
  have hfile : ∃ a ∈ sourceFiles p b, c.program ∈ a.2.decls := by
    rcases List.mem_append.1 hc with hc | hc
    · exact ⟨_, .head _, by rw [decls_modelFile]; exact List.mem_map_of_mem hc⟩
    · rcases List.mem_cons.1 hc with rfl | hc
      · exact ⟨_, .tail _ (.head _), by rw [decls_repositoryFile]; exact .head _⟩
      · obtain rfl := List.mem_singleton.1 hc
        exact ⟨_, .tail _ (.tail _ (.tail _ (.head _))), by rw [decls_screenFile]; exact .head _⟩
  obtain ⟨line, hline, hdeclares⟩ := hlabelled member hmember
  obtain ⟨a, ha, hdecl⟩ := hfile
  exact ⟨a, ha, line, (SourceFile.infix_lines hdecl).subset hline, hdeclares⟩

end FlutterFeature

/-- The types that a generation declares; a Laravel module has no typed members. -/
def Generator.types (g : Generator) (b : Blueprint) : List TypeDecl :=
  match g with
  | go p => GoModule.types p b
  | laravel _ => []
  | react => ReactFeature.interfaces b
  | flutter p => FlutterFeature.types p b

/-! ## Own members and fields -/

namespace TypeDecl

/-- The second type has the members of the first one and either no others or `names` as well. -/
inductive ExtendedBy (names : List String) : TypeDecl → TypeDecl → Prop
  | unchanged (t : TypeDecl) : ExtendedBy names t t
  | listing {name : String} {own members : List String} (h : members.Perm (own ++ names)) :
    ExtendedBy names ⟨name, own⟩ ⟨name, members⟩

variable {names : List String} {own t : TypeDecl}

/-- If no name is one of its own members, an extended type has distinct members exactly if the
names are distinct. -/
theorem ExtendedBy.nodup_iff (h : ExtendedBy names own t) (hown : own.members.Nodup)
    (hnames : ∀ name ∈ names, name ∉ own.members) :
    t.members.Nodup ↔ t = own ∨ names.Nodup := by
  cases h with
  | unchanged => simp [hown]
  | @listing name own members hperm =>
    have hdisjoint : own.Disjoint names := fun m hm hmem => hnames m hmem hm
    rw [hperm.nodup_iff, List.nodup_append']
    constructor
    · exact fun h => .inr h.2.1
    · rintro (h | h)
      · obtain rfl : members = own := congrArg TypeDecl.members h
        have hlength : members.length = members.length + names.length := by
          simpa using hperm.length_eq
        obtain rfl : names = [] := List.eq_nil_of_length_eq_zero (by omega)
        exact ⟨hown, .nil, hdisjoint⟩
      · exact ⟨hown, h, hdisjoint⟩

/-- The names between members that come first and members that come last. -/
theorem ExtendedBy.between {name : String} (first last : List String) :
    ExtendedBy names ⟨name, first ++ last⟩ ⟨name, first ++ names ++ last⟩ := by
  refine .listing ?_
  rw [List.append_assoc, List.append_assoc]
  exact List.perm_append_comm.append_left first

/-- The names and nothing else. -/
theorem ExtendedBy.fields {name : String} : ExtendedBy names ⟨name, []⟩ ⟨name, names⟩ :=
  .listing (.refl _)

end TypeDecl

open TypeDecl (ExtendedBy)

namespace GoModule

variable {fields : List Field}

theorem names_modelMembers : (modelMembers fields).map (·.name) =
    ["ID"] ++ fields.map memberName ++ ["CreatedAt", "UpdatedAt", "DeletedAt"] := by
  rw [modelMembers, List.map_append, List.map_append, List.map_map]
  rfl

theorem names_responseMembers : (responseMembers fields).map (·.name) =
    ["ID"] ++ fields.map memberName ++ ["CreatedAt"] := by
  rw [responseMembers, List.map_append, List.map_append, List.map_map]
  rfl

theorem types_extendedBy (p : Pagination) (b : Blueprint) :
    List.Forall₂ (ExtendedBy (b.fields.map memberName)) (types p { b with fields := [] })
      (types p b) := by
  have hmodel : List.Forall₂ (ExtendedBy (b.fields.map memberName))
      (modelFile { b with fields := [] }).types (modelFile b).types := by
    refine .cons ?_ .nil
    rw [names_modelMembers, names_modelMembers]
    exact .between ["ID"] ["CreatedAt", "UpdatedAt", "DeletedAt"]
  have hdto : List.Forall₂ (ExtendedBy (b.fields.map memberName))
      (dtoFile p { b with fields := [] }).types (dtoFile p b).types := by
    refine .cons ?_ <| .cons ?_ <| .cons (.unchanged _) <| .cons ?_ <| .cons (.unchanged _) .nil
    · rw [List.map_map, List.map_map]
      exact .fields
    · rw [List.map_map, List.map_map]
      exact .fields
    · rw [names_responseMembers, names_responseMembers]
      exact .between ["ID"] ["CreatedAt"]
  have hfixed : ∀ types : List TypeDecl,
      List.Forall₂ (ExtendedBy (b.fields.map memberName)) types types := fun types =>
    List.forall₂_same.2 fun t _ => .unchanged t
  refine List.rel_flatten ?_
  rw [sourceFiles, sourceFiles, List.map_append, List.map_append]
  refine List.rel_append (.cons hmodel <| .cons hdto <| .cons (hfixed _) <| .cons (hfixed _) <|
    .cons (hfixed _) .nil) ?_
  split
  · exact .cons (hfixed _) .nil
  · exact .nil

theorem nodup_own (p : Pagination) (b : Blueprint) :
    ∀ own ∈ types p { b with fields := [] }, own.members.Nodup := by
  simp only [types, List.forall_mem_flatMap, sourceFiles, List.forall_mem_append,
    List.forall_mem_cons]
  refine ⟨⟨?_, ?_, ?_, ?_, ?_, List.forall_mem_nil _⟩, ?_⟩
  · simp [modelFile, SourceFile.types, Decl.type?, modelMembers]
  · simp [dtoFile, SourceFile.types, Decl.type?, responseMembers, listRequestMembers,
      listResponseMembers, toResponseDecl, toListResponseDecl]
  · simp [usecaseFile, SourceFile.types, Decl.type?, createMethod, getByIdMethod, updateMethod,
      deleteMethod, listMethod, usecaseMethod]
  · simp [controllerFile, SourceFile.types, Decl.type?, handlers]
  · simp [wiringFile, SourceFile.types, Decl.type?]
  · split
    · simp [validatorFile, SourceFile.types, Decl.type?, or_imp, forall_and]
    · simp

end GoModule

namespace ReactFeature

variable {fields : List Field}

theorem names_entityMembers : (entityMembers fields).map (·.name) =
    ["id"] ++ fields.map (·.name) ++ ["createdAt", "updatedAt"] := by
  rw [entityMembers, List.map_append, List.map_append, List.map_map]
  rfl

theorem interfaces_extendedBy (b : Blueprint) :
    List.Forall₂ (ExtendedBy (b.fields.map (·.name))) (interfaces { b with fields := [] })
      (interfaces b) := by
  refine .cons ?_ <| .cons ?_ <| .cons ?_ <| .cons (.unchanged _) <| .cons (.unchanged _) .nil
  · rw [names_entityMembers, names_entityMembers]
    exact .between ["id"] ["createdAt", "updatedAt"]
  · rw [List.map_map, List.map_map]
    exact .fields
  · rw [List.map_map, List.map_map]
    exact .fields

theorem nodup_own (b : Blueprint) :
    ∀ own ∈ interfaces { b with fields := [] }, own.members.Nodup := by
  simp [interfaces, sourceFiles, SourceFile.interfaces, typesFile, apiFile, hooksFile, listFile,
    formFile, Decl.type?, entityMembers, queryHook, mutationHook]

end ReactFeature

namespace FlutterFeature

variable {fields : List Field}

theorem names_entityParams : (entityParams fields).map (·.name) =
    ["id"] ++ fields.map memberName ++ ["createdAt", "updatedAt"] := by
  rw [entityParams, List.map_append, List.map_append, List.map_map]
  rfl

theorem types_extendedBy (p : Pagination) (b : Blueprint) :
    List.Forall₂ (ExtendedBy (b.fields.map memberName)) (types p { b with fields := [] })
      (types p b) := by
  refine .cons ?_ <| .cons ?_ <| .cons ?_ <| .cons (.unchanged _) <| .cons (.unchanged _) .nil
  · show ExtendedBy _ ⟨_, (entityParams []).map (·.name)⟩ ⟨_, (entityParams b.fields).map (·.name)⟩
    rw [names_entityParams, names_entityParams]
    exact .between ["id"] ["createdAt", "updatedAt"]
  · show ExtendedBy _ ⟨_, []⟩ ⟨_, (b.fields.map fieldParam).map (·.name)⟩
    rw [List.map_map]
    exact .fields
  · exact .between [] ["toJson"]

theorem nodup_own (p : Pagination) (b : Blueprint) :
    ∀ own ∈ types p { b with fields := [] }, own.members.Nodup := by
  simp [types, classes, modelClasses, repositoryClass, screenClass, ClassDecl.type, entityParams]

end FlutterFeature

namespace Generator

theorem types_extendedBy (g : Generator) (b : Blueprint) :
    List.Forall₂ (ExtendedBy (b.fields.map g.stack.memberName)) (g.types { b with fields := [] })
      (g.types b) := by
  cases g with
  | go p => exact GoModule.types_extendedBy p b
  | laravel p => exact .nil
  | react => exact ReactFeature.interfaces_extendedBy b
  | flutter p => exact FlutterFeature.types_extendedBy p b

theorem nodup_own (g : Generator) (b : Blueprint) :
    ∀ own ∈ g.types { b with fields := [] }, own.members.Nodup := by
  cases g with
  | go p => exact GoModule.nodup_own p b
  | laravel p => exact nofun
  | react => exact ReactFeature.nodup_own b
  | flutter p => exact FlutterFeature.nodup_own p b

/-- The own members of each generated type are pairwise distinct, and a type has no others than
those and one for each field. If no field's member is an own member, then a type declares a member
twice exactly if it lists the fields and the members of two of them coincide. In an interface of a
React feature the member of a field is its name. -/
theorem types_distinct (g : Generator) (b : Blueprint) :
    let names := b.fields.map g.stack.memberName
    List.Forall₂ (fun own t =>
      own.members.Nodup ∧ ExtendedBy names own t ∧
        ((∀ name ∈ names, name ∉ own.members) → (t.members.Nodup ↔ t = own ∨ names.Nodup)))
      (g.types { b with fields := [] }) (g.types b) ∧
    (g.stack = .react → names = b.fields.map (·.name)) := by
  intro names
  refine ⟨?_, ?_⟩
  · refine ((List.forall₂_and_left _ _).2 ⟨g.nodup_own b, g.types_extendedBy b⟩).imp ?_
    rintro own t ⟨hown, h⟩
    exact ⟨hown, h, h.nodup_iff hown⟩
  · intro h
    simp only [names, h]
    rfl

/-- The names of these fields differ from each other and from the managed members. -/
theorem types_distinct_update :
    let b : Blueprint := ⟨.named "product", Stack.flutter.parseFields "user_id:int,name", "", {}⟩
    ∀ t ∈ (Generator.flutter {}).types b, t.members.Nodup := by
  intro b t ht
  have hnames : (b.fields.map Stack.flutter.memberName).Nodup := by decide +kernel
  have hown : ∀ own ∈ (Generator.flutter {}).types { b with fields := [] },
      ∀ name ∈ b.fields.map Stack.flutter.memberName, name ∉ own.members := by decide +kernel
  obtain ⟨⟨i, hi⟩, rfl⟩ := List.mem_iff_get.1 ht
  have h := (types_distinct (.flutter {}) b).1
  exact ((h.get (h.length_eq ▸ hi) hi).2.2 (hown _ (List.get_mem ..))).2 (.inr hnames)

/-- Two names that differ in a separator give a struct the same member twice. -/
theorem types_coincide :
    ((Stack.go.parseFields "user_id,user-id").map (·.name)).Nodup ∧
    ∃ t ∈ (Generator.go {}).types
        ⟨.named "product", Stack.go.parseFields "user_id,user-id", "", {}⟩,
      ¬ t.members.Nodup := by
  decide +kernel

end Generator

end Scaffold
