import Scaffold.Generator
import Scaffold.Proofs.DartFiles
import Scaffold.Proofs.Decoding
import Scaffold.Proofs.SourceFiles

/-!
# Fields recovered from files

No information about the fields is lost in a generation: different fields give different files, as
long as no name or type holds one of the delimiters that generated code writes around them
(`Generator.artifacts_inj`). A creation request of a Go module and the rules of a Laravel request
tell all of a field. A React form tells the names and which fields are required, and the types stand
in the interfaces; a Flutter model tells the names in the entries of its update request and the rest
in the parameters of its constructors.
-/

set_option autoImplicit false

namespace Scaffold

open Code Text Naming

/-- The characters that part the texts of generated code. -/
def delimiters : List Char := ['\n', '\'', '"', '`', '?']

/-- No delimiter occurs in the name or the type. -/
structure Field.IsUnmarked (f : Field) : Prop where
  name : ∀ c ∈ delimiters, c ∉ f.name.toList
  type : ∀ c ∈ delimiters, c ∉ f.type.toList

instance (f : Field) : Decidable f.IsUnmarked :=
  decidable_of_iff
    (delimiters.all (fun c => decide (c ∉ f.name.toList ∧ c ∉ f.type.toList)) = true)
    ⟨fun h => ⟨fun c hc => (of_decide_eq_true (List.all_eq_true.1 h c hc)).1,
      fun c hc => (of_decide_eq_true (List.all_eq_true.1 h c hc)).2⟩,
     fun h => List.all_eq_true.2 fun c hc => decide_eq_true ⟨h.name c hc, h.type c hc⟩⟩

theorem caseless_of_mem_delimiters {c : Char} (hc : c ∈ delimiters) : Caseless c := by
  have hall : delimiters.all (fun c => decide (Caseless c)) = true := by decide +kernel
  exact of_decide_eq_true (List.all_eq_true.1 hall c hc)

namespace Field.IsUnmarked

variable {f : Field} (h : f.IsUnmarked) {c : Char} (hc : c ∈ delimiters)
include h hc

theorem pascal : c ∉ (pascal f.name).toList :=
  mt (caseless_of_mem_delimiters hc).mem_of_mem_pascal (h.name c hc)

theorem camel : c ∉ (camel f.name).toList :=
  mt (caseless_of_mem_delimiters hc).mem_of_mem_camel (h.name c hc)

end Field.IsUnmarked

theorem Field.IsUnmarked.oneLine_name {f : Field} (h : f.IsUnmarked) : OneLine f.name :=
  h.name '\n' (by decide)

theorem Field.IsUnmarked.oneLine_type {f : Field} (h : f.IsUnmarked) : OneLine f.type :=
  h.type '\n' (by decide)

theorem Field.eq_of {f g : Field} (hname : f.name = g.name) (htype : f.type = g.type)
    (hrequired : f.required = g.required) : f = g := by
  cases f
  cases g
  simp_all

/-- Lists are equal if two keys that tell their items apart are. -/
theorem eq_of_map_eq {α β γ : Type} {key : α → β} {text : α → γ} {xs ys : List α}
    (h : ∀ x ∈ xs, ∀ y ∈ ys, key x = key y → text x = text y → x = y)
    (hkey : xs.map key = ys.map key) (htext : xs.map text = ys.map text) : xs = ys := by
  induction xs generalizing ys with
  | nil => exact (List.map_eq_nil_iff.1 hkey.symm).symm
  | cons x xs ih =>
    obtain ⟨y, ys, rfl, hy, hys⟩ := List.map_eq_cons_iff.1 hkey.symm
    obtain ⟨hx, hxs⟩ := List.cons.inj htext
    have hrest : ∀ x ∈ xs, ∀ y ∈ ys, key x = key y → text x = text y → x = y :=
      fun x hx y hy => h x (.tail _ hx) y (.tail _ hy)
    rw [h x (.head _) y (.head _) hy.symm hx, ih hrest hys.symm hxs]

/-! ## Go -/

namespace GoModule

theorem createMember_text (f : Field) :
    (createMember f).text = memberName f ++ " " ++ f.type ++ " " ++ "`" ++
      ("json:\"" ++ (f.name ++ "\"" ++
        (" binding:\"" ++ ((if f.required then "required" else "omitempty") ++ "\"`")))) := by
  simp [← String.toList_inj, createMember, Member.text, column, jsonTag, quoted]

/-- A member of a creation request tells its field. -/
theorem tells_createMember {f g : Field} (hf : f.IsUnmarked) (hg : g.IsUnmarked) :
    Tells ((createMember f).text ++ "\n") ((createMember g).text ++ "\n") (f = g) := by
  have hback : '`' ∈ delimiters := by decide
  have hcolumns : ∀ f : Field, f.IsUnmarked → '`' ∉ (memberName f ++ " " ++ f.type ++ " ").toList :=
    fun f hf => by simp [memberName, hf.pascal hback, hf.type _ hback]
  have hmember := (Tells.upto (hcolumns f hf) (hcolumns g hg)).append fun _ =>
    ((Tells.upto (hf.name '"' (by decide)) (hg.name '"' (by decide))).append fun _ =>
      (((Tells.apart (s := "required") (t := "omitempty") (by decide) (by decide)).ite
        f.required g.required).before "\"`").behind " binding:\"").behind "json:\""
  rw [createMember_text, createMember_text]
  refine (hmember.before "\n").imp fun ⟨hcolumns, hname, hrequired⟩ => ?_
  refine Field.eq_of hname ?_ hrequired
  simpa [memberName, hname] using hcolumns

theorem allPlain_dtoFile (p : Pagination) (b : Blueprint) :
    Op.allPlain (dtoFile p b).program = true :=
  allPlain_of_mem (show (dto p b, dtoFile p b) ∈ sourceFiles p b by simp [sourceFiles])

/-- The creation request tells the fields. -/
theorem fields_inj (p : Pagination) (e : Entity) (project : String) (options : Options)
    {fs gs : List Field} (hfs : ∀ f ∈ fs, f.IsUnmarked) (hgs : ∀ g ∈ gs, g.IsUnmarked)
    (h : (dtoFile p ⟨e, fs, project, options⟩).render =
      (dtoFile p ⟨e, gs, project, options⟩).render) : fs = gs := by
  refine TellsFrom.of_take (allPlain_dtoFile p _) (allPlain_dtoFile p _) h 5 ?_
  have hrequest : TellsFrom .go 0 [(Decl.struct (createRequest e.pascal) (fs.map createMember)).op]
      [(Decl.struct (createRequest e.pascal) (gs.map createMember)).op] (fs.map id = gs.map id) := by
    simp only [Decl.op, Op.braces, List.map_map]
    exact .listing (.apart (by decide) (by decide)) fun f hf g hg =>
      tells_createMember (hfs f hf) (hgs g hg)
  rw [List.map_id, List.map_id] at hrequest
  exact .cons _ <| .cons _ <| .cons _ <| .cons _ hrequest

end GoModule

/-! ## Laravel -/

namespace LaravelModule

theorem ruleLine_text (f : Field) :
    ruleLine f ++ "\n" = "'" ++ (f.name ++ "'" ++ (" => [" ++
      ((if f.required then "$required" else "'nullable'") ++
        (", '" ++ (f.type ++ "'" ++ "],\n"))))) := by
  simp [← String.toList_inj, ruleLine, literal]

/-- A rule tells its field. -/
theorem tells_ruleLine {f g : Field} (hf : f.IsUnmarked) (hg : g.IsUnmarked) :
    Tells (ruleLine f ++ "\n") (ruleLine g ++ "\n") (f = g) := by
  have hquote : '\'' ∈ delimiters := by decide
  have hrule := ((Tells.upto (hf.name _ hquote) (hg.name _ hquote)).append fun _ =>
    (((Tells.apart (s := "$required") (t := "'nullable'") (by decide) (by decide)).ite
      f.required g.required).append fun _ =>
        ((Tells.upto (hf.type _ hquote) (hg.type _ hquote)).before "],\n").behind ", '").behind
          " => [").behind "'"
  rw [ruleLine_text, ruleLine_text]
  exact hrule.imp fun ⟨hname, hrequired, htype⟩ => Field.eq_of hname htype hrequired

theorem allPlain_requestFile (b : Blueprint) : Op.allPlain (requestFile b).program = true :=
  allPlain_of_mem (show (request b, requestFile b) ∈ sourceFiles {} b by simp [sourceFiles])

/-- The rules tell the fields, whether or not the declaration of `$required` stands before them. -/
theorem fields_inj (e : Entity) (project : String) (options : Options)
    {fs gs : List Field} (hfs : ∀ f ∈ fs, f.IsUnmarked) (hgs : ∀ g ∈ gs, g.IsUnmarked)
    (h : (requestFile ⟨e, fs, project, options⟩).render =
      (requestFile ⟨e, gs, project, options⟩).render) : fs = gs := by
  have hrules : TellsFrom .php 2 [.block "return [" (fs.map fun f => .line (ruleLine f)) "];"]
      [.block "return [" (gs.map fun g => .line (ruleLine g)) "];"] (fs.map id = gs.map id) :=
    .listing (.apart (by decide) (by decide)) fun f hf g hg =>
      tells_ruleLine (hfs f hf) (hgs g hg)
  rw [List.map_id, List.map_id] at hrules
  have hdeclaration : Tells "$required = $this->isMethod('POST') ? 'required' : 'sometimes';"
      "return [" False := .apart (by decide) (by decide)
  refine TellsFrom.of_render_eq (allPlain_requestFile _) (allPlain_requestFile _) h ?_
  exact .skip _ <| .cons _ <| .cons _ <| .block <| .cons _ <| .cons _ <| .cons _ <| .cons _ <|
    .block (.when_append rfl rfl rfl hdeclaration hrules _ _)

end LaravelModule

/-! ## React -/

namespace ReactFeature

/-- An attribute of one line tells its value. -/
theorem tells_attribute {level : Nat} {v w : String} (name : String) (hv : OneLine v)
    (hw : OneLine w) : TellsFrom .typescript level [.line (name ++ quoted v)]
      [.line (name ++ quoted w)] (v = w) := by
  have hquoted : ∀ {v : String}, OneLine v → OneLine (quoted v) := fun hv => by
    simpa [quoted, show OneLine "\"" by decide] using hv
  exact (TellsFrom.rest name (hquoted hv) (hquoted hw)).imp fun h => by simpa [quoted] using h

/-- An input tells the name of its field and whether the field is required. -/
theorem tells_inputElement {level : Nat} {f g : Field} (hf : f.IsUnmarked) (hg : g.IsUnmarked) :
    TellsFrom .typescript level (inputElement f) (inputElement g)
      ((f.name, f.required) = (g.name, g.required)) := by
  have htype : ∀ type, OneLine (Stack.react.typeTable.lookup type) :=
    TypeTable.forall_lookup (by decide) (by decide)
  have hclose : Tells Indent.typescript.unit "/>" False := .apart (by decide) (by decide)
  have hattributes : TellsFrom .typescript (level + 1)
      [.line ("name=" ++ quoted f.name),
        .line ("type=" ++ quoted (Stack.react.typeTable.lookup f.type)),
        .line ("placeholder=" ++ quoted (Naming.pascal f.name))]
      [.line ("name=" ++ quoted g.name),
        .line ("type=" ++ quoted (Stack.react.typeTable.lookup g.type)),
        .line ("placeholder=" ++ quoted (Naming.pascal g.name))] (f.name = g.name) :=
    ((tells_attribute "name=" hf.oneLine_name hg.oneLine_name).append fun _ =>
      (tells_attribute "type=" (htype f.type) (htype g.type)).append fun _ =>
        tells_attribute "placeholder=" hf.oneLine_name.pascal hg.oneLine_name.pascal).imp And.left
  refine (TellsFrom.cons _ <| hattributes.indented_append fun _ =>
    .indented_when hclose f.required g.required).imp fun ⟨hname, hrequired⟩ => ?_
  rw [hname, hrequired]

theorem allPlain_formFile (b : Blueprint) : Op.allPlain (formFile b).program = true :=
  allPlain_of_mem (show (form b, formFile b) ∈ sourceFiles b by simp [sourceFiles])

theorem allPlain_typesFile (b : Blueprint) : Op.allPlain (typesFile b).program = true :=
  allPlain_of_mem (show (types b, typesFile b) ∈ sourceFiles b by simp [sourceFiles])

theorem oneLine_memberText {m : Member} (hname : OneLine m.name) (htype : OneLine m.type) :
    OneLine m.text := by
  have hmarks : OneLine "?" ∧ OneLine "" ∧ OneLine ": " ∧ OneLine ";" := by decide
  have hoptional : OneLine (if m.optional then "?" else "") := oneLine_ite hmarks.1 hmarks.2.1
  simp [Member.text, hname, htype, hoptional, hmarks]

theorem oneLine_entityMembers {fields : List Field} (hfields : ∀ f ∈ fields, f.IsUnmarked) :
    ∀ m ∈ entityMembers fields, OneLine m.text := by
  intro m hm
  simp only [entityMembers, List.mem_append, List.mem_map, List.mem_cons, List.not_mem_nil,
    or_false] at hm
  rcases hm with (rfl | ⟨f, hf, rfl⟩) | rfl | rfl
  · decide
  · exact oneLine_memberText (hfields f hf).oneLine_name (hfields f hf).oneLine_type
  · decide
  · decide

section Files

variable (e : Entity) (project : String) (options : Options) {fs gs : List Field}
  (hfs : ∀ f ∈ fs, f.IsUnmarked) (hgs : ∀ g ∈ gs, g.IsUnmarked)
include hfs hgs

/-- The form tells the names and which fields are required. -/
theorem form_inj (h : (formFile ⟨e, fs, project, options⟩).render =
      (formFile ⟨e, gs, project, options⟩).render) :
    fs.map (fun f => (f.name, f.required)) = gs.map fun g => (g.name, g.required) := by
  have hbutton : ∀ f, TellsFrom .typescript 3 (inputElement f) [submitButton] False := fun f =>
    .heads rfl rfl (.apart (by decide) (by decide))
  refine TellsFrom.of_render_eq (allPlain_formFile _) (allPlain_formFile _) h ?_
  exact .cons _ <| .cons _ <| .cons _ <| .block <| .cons _ <| .cons _ <| .cons _ <| .cons _ <|
    .block <| .block <| .each_until (fun f _ => hbutton f) (fun g _ => hbutton g)
      fun f hf g hg => tells_inputElement (hfs f hf) (hgs g hg)

/-- The interface of the entity tells the texts of its members. -/
theorem types_inj (h : (typesFile ⟨e, fs, project, options⟩).render =
      (typesFile ⟨e, gs, project, options⟩).render) :
    fs.map (fun f => (fieldMember f).text) = gs.map fun g => (fieldMember g).text := by
  have htexts : (entityMembers fs).map Member.text = (entityMembers gs).map Member.text := by
    refine TellsFrom.of_take (allPlain_typesFile _) (allPlain_typesFile _) h 1 ?_
    show TellsFrom .typescript 0 (Decl.interface e.pascal (entityMembers fs)).program
      (Decl.interface e.pascal (entityMembers gs)).program _
    simp only [Decl.program, Op.braces]
    exact .listing (.apart (by decide) (by decide)) fun m hm n hn =>
      Tells.oneLine (oneLine_entityMembers hfs m hm) (oneLine_entityMembers hgs n hn)
  simpa [entityMembers, Function.comp_def] using htexts

/-- With the names and the required flags, the members tell the types. -/
theorem fields_inj (hform : (formFile ⟨e, fs, project, options⟩).render =
      (formFile ⟨e, gs, project, options⟩).render)
    (htypes : (typesFile ⟨e, fs, project, options⟩).render =
      (typesFile ⟨e, gs, project, options⟩).render) : fs = gs := by
  refine eq_of_map_eq ?_ (form_inj e project options hfs hgs hform)
    (types_inj e project options hfs hgs htypes)
  intro f _ g _ hkey htext
  obtain ⟨hname, hrequired⟩ := Prod.mk.inj hkey
  refine Field.eq_of hname ?_ hrequired
  simpa [fieldMember, Member.text, hname, hrequired] using htext

end Files

end ReactFeature

/-! ## Flutter -/

namespace FlutterFeature

/-- No type ends with a question mark. -/
theorem nullableType_eq {f : Field} (h : f.IsUnmarked) : nullableType f = f.type ++ "?" := by
  refine if_neg fun hlast => ?_
  exact h.type '?' (by decide) (List.mem_of_getLast? hlast)

/-- With a mark in its type, a field may be written like another one. -/
example : fieldParam ⟨"age", "int?", false⟩ = fieldParam ⟨"age", "int", false⟩ := by decide

/-- A required type is not the spelling of an optional one. -/
theorem required_ne_optional {type : String} (h : '?' ∉ type.toList) (other : String) :
    "required " ++ type ≠ other ++ "?" := fun heq => by
  have hlast : '?' ∈ ("required " ++ type).toList := by
    rw [heq]
    simp
  simp [h] at hlast

/-- With the name, a parameter tells its field. -/
theorem eq_of_fieldParam_text {f g : Field} (hf : f.IsUnmarked) (hg : g.IsUnmarked)
    (hname : f.name = g.name) (htext : (fieldParam f).text = (fieldParam g).text) : f = g := by
  have hmember : memberName f = memberName g := congrArg camel hname
  have hkey : (fieldParam f).jsonKey? = (fieldParam g).jsonKey? := by
    simp only [fieldParam, hmember, hname]
  have hmark : '?' ∈ delimiters := by decide
  rw [Param.text, Param.text, hkey] at htext
  simp only [fieldParam, hmember, String.append_assoc, String.append_right_inj] at htext
  simp only [← String.append_assoc, String.append_left_inj, nullableType_eq hf,
    nullableType_eq hg] at htext
  cases hr : f.required <;> cases hs : g.required <;>
    simp only [hr, hs, Bool.false_eq_true, if_true, if_false, String.empty_append] at htext
  · exact Field.eq_of hname ((String.append_left_inj _).1 htext) (hr.trans hs.symm)
  · exact absurd htext.symm (required_ne_optional (hg.type _ hmark) f.type)
  · exact absurd htext (required_ne_optional (hf.type _ hmark) g.type)
  · exact Field.eq_of hname ((String.append_right_inj _).1 htext) (hr.trans hs.symm)

/-- A class tells the texts of its parameters. -/
theorem tells_freezedClass (name : String) {ps qs : List Param} (hps : ∀ p ∈ ps, OneLine p.text)
    (hqs : ∀ q ∈ qs, OneLine q.text) :
    TellsFrom .dart 0 (freezedClass name ps) (freezedClass name qs)
      (ps.map Param.text = qs.map Param.text) := by
  have hclose : Tells Indent.dart.unit ("\x7d" ++ (") = _" ++ name ++ ";")) False :=
    (Tells.apart (s := "  ") (t := "\x7d") (by decide) (by decide)).symm.extend _ |>.symm
  refine .cons _ <| .block <| TellsFrom.last (P := [_]) (Q := [_]) ?_ _
  exact .listing hclose fun p hp q hq => Tells.oneLine (hps p hp) (hqs q hq)

/-- The name stands between the first two quotes of an entry. -/
theorem name_eq_of_entryLine {f g : Field} (hf : f.IsUnmarked) (hg : g.IsUnmarked)
    (h : entryLine f = entryLine g) : f.name = g.name := by
  have hquote : '\'' ∈ delimiters := by decide
  have hentry : ∀ f : Field, ∃ rest, (entryLine f).toList =
      ("if (" ++ memberName f ++ " != null) ").toList ++ '\'' :: (f.name.toList ++ '\'' :: rest) :=
    fun f => ⟨_, by simp [entryLine]; rfl⟩
  have hmember : ∀ {f : Field}, f.IsUnmarked →
      '\'' ∉ ("if (" ++ memberName f ++ " != null) ").toList := fun hf => by
    simp [memberName, hf.camel hquote]
  obtain ⟨rest, hrest⟩ := hentry f
  obtain ⟨rest', hrest'⟩ := hentry g
  rw [h, hrest'] at hrest
  have hnames := (append_cons_inj (hmember hg) (hmember hf) hrest).2
  exact String.toList_inj.1
    (append_cons_inj (hg.name _ hquote) (hf.name _ hquote) hnames).1.symm

/-- The constructor of an update class stands in one line after the name of the class. -/
theorem tells_constructor {level : Nat} (name : String) {fs gs : List Field}
    (hfs : ∀ f ∈ fs, OneLine f.name) (hgs : ∀ g ∈ gs, OneLine g.name) :
    TellsFrom .dart level
      [.line ("const " ++ name ++ "(" ++ (if fs.isEmpty then "" else
        braced (String.intercalate ", " (fs.map fun f => "this." ++ memberName f))) ++ ");")]
      [.line ("const " ++ name ++ "(" ++ (if gs.isEmpty then "" else
        braced (String.intercalate ", " (gs.map fun g => "this." ++ memberName g))) ++ ");")]
      True := by
  have hclose : OneLine ");" := by decide
  have hparams := (Tells.oneLine (oneLine_append.2 ⟨oneLine_constructorParams hfs, hclose⟩)
    (oneLine_append.2 ⟨oneLine_constructorParams hgs, hclose⟩)).behind ("const " ++ name ++ "(")
  refine TellsFrom.line ?_
  simpa only [String.append_assoc] using hparams.imp fun _ => trivial

/-- With the number of fields, an update class tells their names. -/
theorem tells_updateClass (name : String) {fs gs : List Field} (hlen : fs.length = gs.length)
    (hfs : ∀ f ∈ fs, f.IsUnmarked) (hgs : ∀ g ∈ gs, g.IsUnmarked) :
    TellsFrom .dart 0 (updateClass name fs) (updateClass name gs)
      (fs.map Field.name = gs.map Field.name) := by
  have hfinal : ∀ {f : Field}, f.IsUnmarked →
      OneLine ("final " ++ nullableType f ++ " " ++ memberName f ++ ";") := fun {f} hf => by
    have htype : OneLine (nullableType f) := Stack.oneLine_nullable hf.oneLine_type .flutter
    have hmember : OneLine (memberName f) := hf.oneLine_name.camel
    simp only [oneLine_append, htype, hmember, and_true]
    decide
  have hempty : fs.isEmpty = gs.isEmpty := by
    rw [Bool.eq_iff_iff, List.isEmpty_iff_length_eq_zero, List.isEmpty_iff_length_eq_zero, hlen]
  have hclose : Tells Indent.dart.unit "\x7d;" False := .apart (by decide) (by decide)
  have hentries : TellsFrom .dart 1
      [.block "Map<String, dynamic> toJson() => \x7b" (fs.map fun f => .line (entryLine f)) "\x7d;"]
      [.block "Map<String, dynamic> toJson() => \x7b" (gs.map fun g => .line (entryLine g)) "\x7d;"]
      (fs.map Field.name = gs.map Field.name) :=
    .listing hclose fun f hf g hg =>
      (Tells.oneLine (oneLine_entryLine (hfs f hf).oneLine_name)
        (oneLine_entryLine (hgs g hg).oneLine_name)).imp
          (name_eq_of_entryLine (hfs f hf) (hgs g hg))
  refine TellsFrom.block ?_
  rw [List.append_assoc, List.append_assoc]
  refine TellsFrom.imp (.append (.lines hlen fun f hf g hg =>
      Tells.oneLine (hfinal (hfs f hf)) (hfinal (hgs g hg))) fun _ =>
    .append (.of_eq (congrArg (fun empty => Program.when (!empty) [.blank]) hempty)) fun _ =>
    .append (tells_constructor name (fun f hf => (hfs f hf).oneLine_name)
      fun g hg => (hgs g hg).oneLine_name) fun _ => hentries.cons .blank) fun h => h.2.2.2

theorem allPlain_modelFile (b : Blueprint) : Op.allPlain (modelFile b).program = true :=
  allPlain_of_mem (show (model b, modelFile b) ∈ sourceFiles {} b by simp [sourceFiles])

/-- The update request tells the names, and with them the parameters tell the fields. -/
theorem fields_inj (e : Entity) (project : String) (options : Options)
    {fs gs : List Field} (hfs : ∀ f ∈ fs, f.IsUnmarked) (hgs : ∀ g ∈ gs, g.IsUnmarked)
    (h : (modelFile ⟨e, fs, project, options⟩).render =
      (modelFile ⟨e, gs, project, options⟩).render) : fs = gs := by
  have hparams : ∀ {fields : List Field}, (∀ f ∈ fields, f.IsUnmarked) →
      ∀ p ∈ entityParams fields, OneLine p.text := fun hfields =>
    Param.oneLine_entityParams fun f hf => ⟨(hfields f hf).oneLine_name, (hfields f hf).oneLine_type⟩
  have hfieldParams : ∀ {fields : List Field}, (∀ f ∈ fields, f.IsUnmarked) →
      ∀ p ∈ fields.map fieldParam, OneLine p.text := fun hfields =>
    List.forall_mem_map.2 fun f hf =>
      oneLine_fieldParam (hfields f hf).oneLine_name (hfields f hf).oneLine_type
  have hclasses := (tells_freezedClass e.pascal (hparams hfs) (hparams hgs)).separated fun _ =>
    (tells_freezedClass (createRequest e.pascal) (hfieldParams hfs) (hfieldParams hgs)).separated
      fun htexts => (tells_updateClass (updateRequest e.pascal)
        (by simpa using congrArg List.length htexts) hfs hgs).one
  obtain ⟨-, -, -, htexts, hnames⟩ := TellsFrom.of_render_eq (allPlain_modelFile _)
    (allPlain_modelFile _) h
    ((TellsFrom.same _).separated fun _ => (TellsFrom.same _).separated fun _ => hclasses)
  rw [List.map_map, List.map_map] at htexts
  exact eq_of_map_eq (fun f hf g hg => eq_of_fieldParam_text (hfs f hf) (hgs g hg)) hnames htexts

end FlutterFeature

/-! ## Generations -/

/-- **Fields recovered.** Two generations from the same entity, project and options are equal only
if their fields are. -/
theorem Generator.artifacts_inj (g : Generator) (e : Entity) (project : String) (options : Options)
    {fs gs : List Field} (hfs : ∀ f ∈ fs, f.IsUnmarked) (hgs : ∀ f ∈ gs, f.IsUnmarked)
    (h : g.artifacts ⟨e, fs, project, options⟩ = g.artifacts ⟨e, gs, project, options⟩) :
    fs = gs := by
  have hcontent : ∀ i, ((g.artifacts ⟨e, fs, project, options⟩)[i]?.map Artifact.content) =
      ((g.artifacts ⟨e, gs, project, options⟩)[i]?.map Artifact.content) := fun i : Nat => by rw [h]
  cases g with
  | go p => exact GoModule.fields_inj p e project options hfs hgs (Option.some.inj (hcontent 1))
  | laravel p =>
    exact LaravelModule.fields_inj e project options hfs hgs (Option.some.inj (hcontent 3))
  | react =>
    exact ReactFeature.fields_inj e project options hfs hgs (Option.some.inj (hcontent 4))
      (Option.some.inj (hcontent 0))
  | flutter p =>
    exact FlutterFeature.fields_inj e project options hfs hgs (Option.some.inj (hcontent 0))

/-- However it is spelt, a field is the same in the files. -/
theorem Generator.artifacts_inj_price :
    (∀ f ∈ Stack.flutter.parseFields " price : double ?", f.IsUnmarked) ∧
    (flutter {}).artifacts ⟨.named "shop", Stack.flutter.parseFields " price : double ?", "", {}⟩ =
      (flutter {}).artifacts ⟨.named "shop", [⟨"price", "double", false⟩], "", {}⟩ ∧
    Stack.flutter.parseFields " price : double ?" = [⟨"price", "double", false⟩] := by
  have hparse : Stack.flutter.parseFields " price : double ?" = [⟨"price", "double", false⟩] := by
    decide +kernel
  have hspelt : ∀ f ∈ Stack.flutter.parseFields " price : double ?", f.IsUnmarked := by
    rw [hparse]
    decide
  have hfiles := congrArg
    (fun fields => (flutter {}).artifacts ⟨.named "shop", fields, "", {}⟩) hparse
  exact ⟨hspelt, hfiles, (flutter {}).artifacts_inj (.named "shop") "" {} hspelt (by decide) hfiles⟩

end Scaffold
