import Scaffold.Generator
import Scaffold.Proofs.Templates

/-!
# Where the files list the fields

Every generated file is a template filled with the fields (`Generator.artifacts_templates`), and
`Generator.sections` says which sections each file has. The piece of a field in a section is spelled
out as a text (`GoModule.modelPiece` and those like it), from the name, the type and the marker of
that field alone. Besides the sections only four things depend on the fields: the column of a list
query, the declaration of `$required`, and the empty line and the braces that a Dart class without
members goes without.
-/

set_option autoImplicit false

namespace Scaffold

open Code

/-! ## Go -/

namespace GoModule

/-! ### The pieces -/

/-- A column of the database model. -/
def modelPiece (f : Field) : String :=
  Naming.pascal f.name ++ " " ++ (if f.required then f.type else Stack.go.nullable f.type) ++
    " `gorm:\"type:" ++ TypeTable.gormColumns.lookup f.type ++ "\" json:\"" ++ f.name ++ "\"`"

/-- A member of the creation request. -/
def createPiece (f : Field) : String :=
  Naming.pascal f.name ++ " " ++ f.type ++ " `json:\"" ++ f.name ++ "\" binding:\"" ++
    (if f.required then "required" else "omitempty") ++ "\"`"

/-- A member of the update request. -/
def updatePiece (f : Field) : String :=
  Naming.pascal f.name ++ " *" ++ .ofList (f.type.toList.dropWhile (· = '*')) ++
    " `json:\"" ++ f.name ++ "\"`"

/-- A member of the response. -/
def responsePiece (f : Field) : String :=
  Naming.pascal f.name ++ " " ++ (if f.required then f.type else Stack.go.nullable f.type) ++
    " `json:\"" ++ f.name ++ "\"`"

/-- A member copied from `source`. -/
def copyPiece (source : String) (f : Field) : String :=
  Naming.pascal f.name ++ ": " ++ source ++ "." ++ Naming.pascal f.name ++ ","

/-- A member that an update request may set. -/
def setPiece (f : Field) : List String :=
  ["\tif req." ++ Naming.pascal f.name ++ " != nil \x7b",
   "\t\tupdates[\"" ++ f.name ++ "\"] = *req." ++ Naming.pascal f.name,
   "\t\x7d"]

def modelSections : List Part := [.line .go 1 modelPiece]

def dtoSections : List Part :=
  [.line .go 1 createPiece, .line .go 1 updatePiece, .line .go 1 responsePiece,
   .line .go 2 (copyPiece "entity")]

def usecaseSections : List Part :=
  [.line .go 2 (copyPiece "req"), .each fun f => unlines (setPiece f), .column "string"]

theorem Member.text_eq (name type tag : String) :
    Member.text ⟨name, type, tag, 0, 0⟩ = name ++ " " ++ type ++ " `" ++ tag ++ "`" := by
  simp [Member.text, column, ← String.toList_inj]

theorem text_modelMember (f : Field) : (modelMember f).text = modelPiece f := by
  simp [modelMember, Member.text_eq, modelPiece, jsonTag, quoted, memberName, Field.responseType,
    Stack.typeTable, ← String.toList_inj]

theorem text_createMember (f : Field) : (createMember f).text = createPiece f := by
  simp [createMember, Member.text_eq, createPiece, jsonTag, quoted, memberName,
    ← String.toList_inj]

theorem text_updateMember (f : Field) : (updateMember f).text = updatePiece f := by
  simp [updateMember, Member.text_eq, updatePiece, jsonTag, quoted, memberName,
    ← String.toList_inj]

theorem text_responseMember (f : Field) : (responseMember f).text = responsePiece f := by
  simp [responseMember, Member.text_eq, responsePiece, jsonTag, quoted, memberName,
    Field.responseType, ← String.toList_inj]

/-! ### The files -/

/-- A struct type with the same members around those of the fields. -/
theorem lists_struct {name : String} (first last : List Member) {member : Field → Member}
    {piece : Field → String} (h : ∀ f, (member f).text = piece f) :
    ListsFrom .go 0 (fun fields => [(Decl.struct name (first ++ fields.map member ++ last)).op])
      [.line .go 1 piece] :=
  (funext h : (fun f => (member f).text) = piece) ▸ .block (.around first last member Member.text)

/-- A struct type with a member for each field. -/
theorem lists_members {name : String} {member : Field → Member} {piece : Field → String}
    (h : ∀ f, (member f).text = piece f) :
    ListsFrom .go 0 (fun fields => [(Decl.struct name (fields.map member)).op])
      [.line .go 1 piece] := by
  simpa using lists_struct [] [] h

theorem lists_toResponse (entity : String) :
    ListsFrom .go 0 (fun fields => [(toResponseDecl entity fields).op])
      [.line .go 2 (copyPiece "entity")] := by
  have hcopy : ∀ f, memberName f ++ ": entity." ++ memberName f ++ "," = copyPiece "entity" f := by
    simp [copyPiece, memberName, ← String.toList_inj]
  simp only [toResponseDecl, Decl.op, Op.braces, hcopy]
  exact .block (.block (.between rfl rfl _))

theorem lists_create (entity : String) :
    ListsFrom .go 0 (fun fields => [(createMethod entity fields).op])
      [.line .go 2 (copyPiece "req")] := by
  have hcopy : ∀ f, memberName f ++ ": req." ++ memberName f ++ "," = copyPiece "req" f := by
    simp [copyPiece, memberName, ← String.toList_inj]
  simp only [createMethod, usecaseMethod, Decl.op, Op.braces, hcopy]
  exact .block (.cons (.block (.lines _)) (.const rfl))

theorem lists_update (entity : String) :
    ListsFrom .go 0 (fun fields => [(updateMethod entity fields).op])
      [.each fun f => unlines (setPiece f)] := by
  have hset : ∀ f, Op.allWritten .go 1
      [ifThen ("req." ++ memberName f ++ " != nil")
        [.line ("updates[" ++ quoted f.name ++ "] = *req." ++ memberName f)]] = setPiece f := by
    simp [ifThen, Op.braces, Op.allWritten, Op.written, lineAt, Page.margin, Indent.unit,
      Indent.go, setPiece, memberName, quoted, ← String.toList_inj]
  simp only [updateMethod, usecaseMethod, Decl.op, Op.braces]
  refine .of_eq
    (.block (.append (.append (.const rfl) (.ops fun _ => rfl)) (.const rfl))) ?_
  simp only [Part.bodies, hset, List.nil_append, List.append_nil]

theorem lists_list (p : Pagination) (entity : String) :
    ListsFrom .go 0 (fun fields => [(listMethod p entity fields).op])
      [.column "string"] := by
  -- the condition on the searched column
  have hsearch : ListsFrom .go 1 (fun fields => [ifThen "req.Search != \"\""
      [.line ("query = query.Where(\"" ++ searchColumn fields Stack.go.stringType ++
        " LIKE ?\", \"%\"+req.Search+\"%\")")]]) [.column Stack.go.stringType] :=
    .block (.line (.append (.append (.const _) (.part (.column Stack.go.stringType) rfl))
      (.const _)))
  simp only [listMethod, usecaseMethod, Decl.op, Op.braces]
  exact .of_eq
    (.block <| .append
      (.append
        (.cons (.const rfl) <| .cons (.const rfl) <| .cons (.const rfl) <|
          .cons hsearch (.const rfl))
        (.const rfl))
      (.const rfl))
    rfl

variable (p : Pagination) (e : Entity) (project : String) (options : Options)

theorem lists_model :
    Lists (fun fields => (modelFile ⟨e, fields, project, options⟩).render) modelSections := by
  refine ListsFrom.render ?_
  simp only [modelFile, modelMembers, SourceFile.program, List.map_cons, List.map_nil]
  exact .of_eq
    (.separated (.const rfl) <| .separated (.const rfl) <|
      .separated (lists_struct _ _ text_modelMember) <| .one (.const rfl))
    rfl

theorem lists_dto :
    Lists (fun fields => (dtoFile p ⟨e, fields, project, options⟩).render) dtoSections := by
  refine ListsFrom.render ?_
  simp only [dtoFile, responseMembers, SourceFile.program, List.map_cons, List.map_nil]
  exact .of_eq
    (.separated (.const rfl) <| .separated (.const rfl) <|
      .separated (lists_members text_createMember) <|
      .separated (lists_members text_updateMember) <|
      .separated (.const rfl) <| .separated (lists_struct _ _ text_responseMember) <|
      .separated (.const rfl) <| .separated (lists_toResponse _) <| .one (.const rfl))
    rfl

theorem lists_usecases :
    Lists (fun fields => (usecaseFile p ⟨e, fields, project, options⟩).render) usecaseSections := by
  refine ListsFrom.render ?_
  simp only [usecaseFile, packagePath, SourceFile.program, List.map_cons, List.map_nil]
  exact .of_eq
    (.separated (.const rfl) <| .separated (.const rfl) <|
      .separated (.const rfl) <| .separated (.const rfl) <|
      .separated (lists_create _) <| .separated (.const rfl) <| .separated (lists_update _) <|
      .separated (.const rfl) <| .one (lists_list p _))
    rfl

end GoModule

/-! ## Laravel -/

namespace LaravelModule

/-! ### The pieces -/

/-- The cast of a field whose type the cast table knows. -/
def castPiece? (f : Field) : Option String :=
  (TypeTable.modelCasts.find? f.type).map fun cast => "'" ++ f.name ++ "' => '" ++ cast ++ "'"

/-- A column of the migration. -/
def columnPiece (f : Field) : String :=
  "$table->" ++ TypeTable.migrationColumns.lookup f.type ++ "('" ++ f.name ++ "')" ++
    (if f.required then "" else "->nullable()") ++ ";"

/-- The rules of a field; those of a required one begin with `$required`. -/
def rulePiece (f : Field) : String :=
  "'" ++ f.name ++ "' => [" ++ (if f.required then "$required" else "'nullable'") ++ ", '" ++
    f.type ++ "'],"

/-- An entry of the response. -/
def resourcePiece (f : Field) : String := "'" ++ f.name ++ "' => $this->" ++ f.name ++ ","

def modelSections : List Part :=
  [.items fun f => some ("'" ++ f.name ++ "'"), .items castPiece?]

def controllerSections : List Part := [.column "string"]

def migrationSections : List Part := [.line .php 3 columnPiece]

def requestSections : List Part :=
  [.whenRequired
     "        $required = $this->isMethod('POST') ? 'required' : 'sometimes';\n\n",
   .line .php 3 rulePiece]

def resourceSections : List Part := [.line .php 3 resourcePiece]

theorem castItem?_eq (f : Field) : castItem? f = castPiece? f := by
  have hitem : ∀ cast, literal f.name ++ " => " ++ literal cast =
      "'" ++ f.name ++ "' => '" ++ cast ++ "'" := by
    simp [literal, ← String.toList_inj]
  simp only [castItem?, castPiece?, hitem]

theorem columnLine_eq (f : Field) : columnLine f = columnPiece f := by
  simp [columnLine, columnPiece, literal, Stack.typeTable, ← String.toList_inj]

theorem ruleLine_eq (f : Field) : ruleLine f = rulePiece f := by
  simp [ruleLine, rulePiece, literal, ← String.toList_inj]

theorem resourceLine_eq (f : Field) : resourceLine f = resourcePiece f := by
  simp [resourceLine, resourcePiece, literal, ← String.toList_inj]

/-- A rule refers to `$required` for a required field. -/
theorem rulePiece_eq_iff {f : Field} :
    rulePiece f = "'" ++ f.name ++ "' => [$required, '" ++ f.type ++ "']," ↔
      f.required = true := by
  cases h : f.required <;> simp [rulePiece, h, ← String.toList_inj]

/-! ### The files -/

variable (p : Pagination) (e : Entity) (project : String) (options : Options)

theorem allPlain_namespace (phpNamespace? : Option String) :
    Op.allPlain (match phpNamespace? with
      | some ns => [.line ("namespace " ++ ns ++ ";"), .blank]
      | none => []) = true := by
  cases phpNamespace? <;> rfl

/-- A file lists fields where the body of its class does. -/
theorem lists_class {phpNamespace? : Option String} {uses : List String} {header tail : String}
    {body : List Field → Program} {sections : List Part} (h : ListsFrom .php 1 body sections) :
    Lists (fun fields => (SourceFile.mk phpNamespace? uses header (body fields) tail).render)
      sections := by
  refine ListsFrom.render ?_
  simp only [SourceFile.program, Op.braces]
  exact .append (.append (.append (.const rfl) (.const (allPlain_namespace phpNamespace?)))
    (.const (Op.allPlain_lines ..))) (.cons (.const rfl) <| .cons (.const rfl) <| .block h)

theorem lists_method {signature : String} {level : Nat} {body : List Field → Program}
    {sections : List Part} (h : ListsFrom .php (level + 1) body sections) :
    ListsFrom .php level (fun fields => method signature (body fields)) sections :=
  .cons (.const rfl) (.block h)

theorem lists_model :
    Lists (fun fields => (modelFile ⟨e, fields, project, options⟩).render) modelSections := by
  simp only [modelFile, commaList, literal, funext castItem?_eq]
  refine lists_class <| .of_eq
    (.cons (.const rfl) <| .cons (.const rfl) <|
      .cons (.line <| .append (.append (.const _) (.items fun f => "'" ++ f.name ++ "'"))
        (.const _)) <|
      .cons (.const rfl) <|
      .line <| .append (.append (.const _) (.part (.items castPiece?) rfl)) (.const _))
    rfl

theorem lists_migration :
    Lists (fun fields => (migrationFile ⟨e, fields, project, options⟩).render)
      migrationSections := by
  simp only [migrationFile, Op.braces, columnLine_eq]
  exact lists_class <| .of_eq
    (.append (.append (lists_method <| .block <| .between rfl rfl columnPiece) (.const rfl))
      (.const rfl))
    rfl

theorem lists_request :
    Lists (fun fields => (requestFile ⟨e, fields, project, options⟩).render) requestSections := by
  have hprelude : unlines (Op.allWritten .php 2
      [.line "$required = $this->isMethod('POST') ? 'required' : 'sometimes';", .blank]) =
      "        $required = $this->isMethod('POST') ? 'required' : 'sometimes';\n\n" := by
    simp [Op.allWritten, Op.written, lineAt, Page.margin, Indent.unit, Indent.php]
  simp only [requestFile, ruleLine_eq]
  refine lists_class <| .of_eq
    (.append (.append (.const rfl) (.const rfl)) <| lists_method <|
      .append (.whenRequired rfl) (.block <| .lines _))
    ?_
  rw [hprelude]
  rfl

theorem lists_resource :
    Lists (fun fields => (resourceFile ⟨e, fields, project, options⟩).render)
      resourceSections := by
  simp only [resourceFile, resourceLine_eq]
  exact lists_class <| lists_method <| .block <| .between rfl rfl resourcePiece

theorem lists_controller :
    Lists (fun fields => (controllerFile p ⟨e, fields, project, options⟩).render)
      controllerSections := by
  simp only [controllerFile, indexMethod, Op.braces]
  exact lists_class <| .of_eq
    (.separated (lists_method <| .cons (.const rfl) <| .cons (.const rfl) <|
        .cons (.block <| .line <|
          .append (.append (.const _) (.part (.column "string") rfl)) (.const _)) <|
        .const rfl) <|
      .separated (.const rfl) <| .separated (.const rfl) <| .separated (.const rfl) <|
      .one (.const rfl))
    rfl

end LaravelModule

/-! ## React -/

namespace ReactFeature

/-! ### The pieces -/

/-- A member of the entity and of the creation request. -/
def memberPiece (f : Field) : String :=
  f.name ++ (if f.required then "" else "?") ++ ": " ++ f.type ++ ";"

/-- A member of the update request. -/
def updatePiece (f : Field) : String := f.name ++ "?: " ++ f.type ++ ";"

/-- An input of the form. -/
def inputPiece (f : Field) : List String :=
  ["      <input",
   "        name=\"" ++ f.name ++ "\"",
   "        type=\"" ++ TypeTable.formInputs.lookup f.type ++ "\"",
   "        placeholder=\"" ++ Naming.pascal f.name ++ "\""] ++
  (if f.required then ["        required"] else []) ++
  ["      />"]

def typesSections : List Part :=
  [.line .typescript 1 memberPiece, .line .typescript 1 memberPiece,
   .line .typescript 1 updatePiece]

def formSections : List Part := [.each fun f => unlines (inputPiece f)]

theorem text_fieldMember (f : Field) : (fieldMember f).text = memberPiece f := by
  cases h : f.required <;> simp [fieldMember, Member.text, memberPiece, h]

theorem text_updateMember (f : Field) : (updateMember f).text = updatePiece f := by
  simp [updateMember, Member.text, updatePiece, ← String.toList_inj]

theorem allWritten_inputElement (f : Field) :
    Op.allWritten .typescript 3 (inputElement f) = inputPiece f := by
  cases h : f.required <;>
    simp [inputElement, Program.when, h, Op.allWritten, Op.written, lineAt, Page.margin,
      Indent.unit, Indent.typescript, inputPiece, quoted, Stack.typeTable, ← String.toList_inj]

/-! ### The files -/

/-- An interface with the same members around those of the fields. -/
theorem lists_interface {name : String} (first last : List Member) {member : Field → Member}
    {piece : Field → String} (h : ∀ f, (member f).text = piece f) :
    ListsFrom .typescript 0
      (fun fields => (Decl.interface name (first ++ fields.map member ++ last)).program)
      [.line .typescript 1 piece] :=
  (funext h : (fun f => (member f).text) = piece) ▸ .block (.around first last member Member.text)

/-- An interface with a member for each field. -/
theorem lists_members {name : String} {member : Field → Member} {piece : Field → String}
    (h : ∀ f, (member f).text = piece f) :
    ListsFrom .typescript 0 (fun fields => (Decl.interface name (fields.map member)).program)
      [.line .typescript 1 piece] := by
  simpa using lists_interface [] [] h

variable (e : Entity) (project : String) (options : Options)

theorem lists_types :
    Lists (fun fields => (typesFile ⟨e, fields, project, options⟩).render) typesSections := by
  refine ListsFrom.render ?_
  simp only [typesFile, entityMembers, SourceFile.program, List.isEmpty_nil, if_true,
    List.nil_append, List.map_cons, List.map_nil]
  exact .of_eq
    (.separated (lists_interface _ _ text_fieldMember) <|
      .separated (lists_members text_fieldMember) <|
      .separated (lists_members text_updateMember) <| .separated (.const rfl) <|
      .one (.const rfl))
    rfl

theorem lists_form :
    Lists (fun fields => (formFile ⟨e, fields, project, options⟩).render) formSections := by
  have hinput : ∀ f, Op.allPlain (inputElement f) = true := fun f => by
    unfold inputElement Program.when
    split <;> rfl
  -- the form element, with the inputs before its button
  have hform : ∀ {level : Nat} {header close : String}, ListsFrom .typescript level
      (fun fields => [.block header (Program.each fields inputElement ++ [submitButton]) close])
      [.bodies .typescript (level + 1) inputElement] :=
    .block (.append (.bodies hinput) (.const rfl))
  have hsections : [Part.bodies .typescript 3 inputElement] = formSections := by
    simp only [Part.bodies, allWritten_inputElement, formSections]
  refine ListsFrom.render ?_
  simp only [formFile, SourceFile.program, Decl.program, Op.braces, returned, element,
    List.isEmpty_cons, Bool.false_eq_true, if_false, List.map_cons, List.map_nil,
    List.singleton_append]
  exact .of_eq
    (.separated (.const rfl) <|
      .one (.block <| .cons (.const rfl) <| .cons (.const rfl) <| .cons (.const rfl) <|
        .cons (.const rfl) <| .block hform))
    hsections

end ReactFeature

/-! ## Flutter -/

namespace FlutterFeature

/-! ### The pieces -/

/-- A parameter of a constructor of the entity or of the creation request. -/
def paramPiece (f : Field) : String :=
  (if Naming.camel f.name = f.name then "" else "@JsonKey(name: '" ++ f.name ++ "') ") ++
    (if f.required then "required " ++ f.type else Stack.flutter.nullable f.type) ++ " " ++
    Naming.camel f.name ++ ","

/-- A member of the update request. -/
def memberPiece (f : Field) : String :=
  "final " ++ Stack.flutter.nullable f.type ++ " " ++ Naming.camel f.name ++ ";"

/-- An entry of the JSON of the update request. -/
def entryPiece (f : Field) : String :=
  let encoder := TypeTable.jsonEncoders.lookup f.type
  "if (" ++ Naming.camel f.name ++ " != null) '" ++ f.name ++ "': " ++ Naming.camel f.name ++
    (if encoder = "" then "" else "!" ++ encoder) ++ ","

def modelSections : List Part :=
  [.line .dart 2 paramPiece, .line .dart 2 paramPiece, .line .dart 1 memberPiece,
   .whenAny "\n",
   .whenAny "\x7b", .items fun f => some ("this." ++ Naming.camel f.name), .whenAny "\x7d",
   .line .dart 2 entryPiece]

theorem text_fieldParam (f : Field) : (fieldParam f).text = paramPiece f := by
  by_cases hname : Naming.camel f.name = f.name <;> cases h : f.required <;>
    simp [fieldParam, Param.text, paramPiece, memberName, nullableType, hname, h,
      ← String.toList_inj]

theorem entryLine_eq (f : Field) : entryLine f = entryPiece f := by
  simp [entryLine, entryPiece, memberName, Stack.typeTable]

/-! ### The files -/

variable (e : Entity) (project : String) (options : Options)

/-- The parameters of the constructor, in braces unless there are none. -/
theorem lists_constructorParams :
    Lists (fun fields => if fields.isEmpty then "" else
        braced (String.intercalate ", " (fields.map fun f => "this." ++ memberName f)))
      [.whenAny "\x7b", .items fun f => some ("this." ++ Naming.camel f.name),
       .whenAny "\x7d"] := by
  refine (((Lists.part (.whenAny "\x7b") rfl).append
    (.items fun f => "this." ++ Naming.camel f.name)).append
      (.part (.whenAny "\x7d") rfl)).congr
    fun fields => ?_
  cases fields <;> simp [Part.fill, braced, memberName]

theorem lists_updateClass (name : String) :
    ListsFrom .dart 0 (fun fields => updateClass name fields) (modelSections.drop 2) := by
  have hblank : unlines (Op.allWritten .dart 1 [.blank]) = "\n" := by
    simp [Op.allWritten, Op.written]
  simp only [updateClass, classDecl, Op.braces, entryLine_eq]
  refine .of_eq
    (.block <| .append (.append (.lines _) (.whenAny rfl)) <|
      .cons (.line <| .append (.append (.const _) lists_constructorParams) (.const _)) <|
      .cons (.const rfl) <| .block <| .lines _)
    ?_
  rw [hblank]
  rfl

/-- An immutable class with the same parameters around those of the fields. -/
theorem lists_freezedClass {name : String} (first last : List Param) :
    ListsFrom .dart 0 (fun fields => freezedClass name (first ++ fields.map fieldParam ++ last))
      [.line .dart 2 paramPiece] := by
  have hparams : ListsFrom .dart 2
      (fun fields => (first ++ fields.map fieldParam ++ last).map fun p => .line p.text)
      [.line .dart 2 paramPiece] := by
    simpa only [text_fieldParam] using ListsFrom.around first last fieldParam Param.text
  exact .append (.const rfl) <| .block <| .cons (.block hparams) (.const rfl)

theorem lists_model :
    Lists (fun fields => (modelFile ⟨e, fields, project, options⟩).render) modelSections := by
  have hcreate : ListsFrom .dart 0
      (fun fields => freezedClass (createRequest e.pascal) (fields.map fieldParam))
      [.line .dart 2 paramPiece] := by
    simpa using lists_freezedClass [] []
  refine ListsFrom.render ?_
  simp only [modelFile, entityParams, SourceFile.program, List.isEmpty_cons, Bool.false_eq_true,
    if_false, List.map_cons, List.map_nil]
  exact .of_eq
    (.separated (.const rfl) <| .separated (.const rfl) <|
      .separated (lists_freezedClass _ _) <| .separated hcreate <| .one (lists_updateClass _))
    rfl

end FlutterFeature

namespace Generator

/-- The kinds of the files of a stack and the sections of each that depend on the fields. -/
def sections (options : Options) : Generator → List (ArtifactKind × List Part)
  | go _ =>
    [(.model, GoModule.modelSections), (.dto, GoModule.dtoSections),
     (.useCase, GoModule.usecaseSections), (.controller, []), (.wiring, [])] ++
    if options.validators then [(.validator, [])] else []
  | laravel _ =>
    [(.model, LaravelModule.modelSections), (.migration, LaravelModule.migrationSections),
     (.controller, LaravelModule.controllerSections), (.request, LaravelModule.requestSections),
     (.resource, LaravelModule.resourceSections), (.useCase, []), (.useCase, []), (.useCase, [])]
  | react =>
    [(.dto, ReactFeature.typesSections), (.apiClient, []), (.state, []), (.view, []),
     (.view, ReactFeature.formSections), (.index, [])]
  | flutter _ =>
    [(.model, FlutterFeature.modelSections), (.repository, []), (.state, []), (.view, [])]

variable (p : Pagination) (e : Entity) (project : String) (options : Options)

theorem templated_go :
    Templated (fun fields => (go p).artifacts ⟨e, fields, project, options⟩)
      ((go p).sections options) := by
  obtain ⟨_ | _⟩ := options
  all_goals
    simp only [artifacts, GoModule.artifacts, GoModule.model, GoModule.dto, GoModule.usecases,
      GoModule.controllers, GoModule.wiring, GoModule.validator, Bool.false_eq_true, if_true,
      if_false, List.append_nil]
  · exact .cons (GoModule.lists_model ..) <| .cons (GoModule.lists_dto ..) <|
      .cons (GoModule.lists_usecases ..) <| .cons (.unread fun _ => rfl) <|
      .cons (.unread fun _ => rfl) .nil
  · exact .cons (GoModule.lists_model ..) <| .cons (GoModule.lists_dto ..) <|
      .cons (GoModule.lists_usecases ..) <| .cons (.unread fun _ => rfl) <|
      .cons (.unread fun _ => rfl) <| .cons (.unread fun _ => rfl) .nil

theorem templated_laravel :
    Templated (fun fields => (laravel p).artifacts ⟨e, fields, project, options⟩)
      ((laravel p).sections options) := by
  simp only [artifacts, LaravelModule.artifacts, LaravelModule.Action.all, List.map_cons,
    List.map_nil, List.cons_append, List.nil_append]
  unfold LaravelModule.model LaravelModule.migration LaravelModule.controller
    LaravelModule.request LaravelModule.resource LaravelModule.useCase
  dsimp only
  exact .cons (LaravelModule.lists_model e project options) <|
    .cons (LaravelModule.lists_migration e project options) <|
    .cons (LaravelModule.lists_controller p e project options) <|
    .cons (LaravelModule.lists_request e project options) <|
    .cons (LaravelModule.lists_resource e project options) <| .cons (.unread fun _ => rfl) <|
    .cons (.unread fun _ => rfl) <| .cons (.unread fun _ => rfl) .nil

theorem templated_react :
    Templated (fun fields => react.artifacts ⟨e, fields, project, options⟩)
      (react.sections options) := by
  simp only [artifacts, ReactFeature.artifacts, ReactFeature.types, ReactFeature.api,
    ReactFeature.hooks, ReactFeature.list, ReactFeature.form, ReactFeature.index]
  exact .cons (ReactFeature.lists_types e project options) <| .cons (.unread fun _ => rfl) <|
    .cons (.unread fun _ => rfl) <| .cons (.unread fun _ => rfl) <|
    .cons (ReactFeature.lists_form e project options) <| .cons (.unread fun _ => rfl) .nil

theorem templated_flutter :
    Templated (fun fields => (flutter p).artifacts ⟨e, fields, project, options⟩)
      ((flutter p).sections options) := by
  simp only [artifacts, FlutterFeature.artifacts, FlutterFeature.model, FlutterFeature.repository,
    FlutterFeature.providers, FlutterFeature.screen]
  exact .cons (FlutterFeature.lists_model e project options) <| .cons (.unread fun _ => rfl) <|
    .cons (.unread fun _ => rfl) <| .cons (.unread fun _ => rfl) .nil

/-- Every file lists the fields in its sections and depends on them nowhere else; the declaration of
`$required` stands if some rule refers to it. -/
theorem artifacts_templates (g : Generator) :
    (∃ templates : List Template,
      templates.map (fun t => (t.kind, t.sections)) = g.sections options ∧
      ∀ fields, g.artifacts ⟨e, fields, project, options⟩ = templates.map (Template.fill fields)) ∧
    ∀ fields : List Field, fields.any (·.required) = true ↔
      ∃ f ∈ fields, LaravelModule.rulePiece f =
        "'" ++ f.name ++ "' => [$required, '" ++ f.type ++ "']," := by
  refine ⟨?_, fun fields => ?_⟩
  · cases g with
    | go p => exact templated_go p e project options
    | laravel p => exact templated_laravel p e project options
    | react => exact templated_react e project options
    | flutter p => exact templated_flutter p e project options
  · rw [List.any_eq_true]
    exact exists_congr fun f => and_congr_right fun _ => LaravelModule.rulePiece_eq_iff.symm

end Generator

end Scaffold
