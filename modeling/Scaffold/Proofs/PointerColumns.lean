import Scaffold.Proofs.FieldSections

/-!
# Two spellings of a nullable member

An optional field of a Go module may be declared with a type or with a pointer to it; both spellings
give its members the same type. They give the same member of the update request and of the response,
and so the same file of requests and responses but for the creation request. The model also names the
column of the declared type, and the table of columns does not know the pointers to four of its
types: their two spellings have different columns (`GoModule.spellings_agree_iff`).
-/

set_option autoImplicit false

namespace Scaffold

open Code

/-! ## One field in a template -/

namespace Lists

/-- Text between the sections does not depend on the fields. -/
theorem fillAll_eq {parts : List Part} (h : ∀ p ∈ parts, p.isSection = false)
    (fields fields' : List Field) : Part.fillAll parts fields = Part.fillAll parts fields' := by
  refine congrArg String.join (List.map_congr_left fun p hp => ?_)
  cases p with
  | text s => rfl
  | _ => cases h _ hp

/-- Where a text lists the fields once, one of them is replaced without a trace exactly if its piece
stays. -/
theorem replace_iff {text : List Field → String} {piece : Field → String}
    (h : Lists text [.each piece]) (before after : List Field) {f g : Field} :
    text (before ++ f :: after) = text (before ++ g :: after) ↔ piece f = piece g := by
  obtain ⟨parts, hsections, htext⟩ := h
  obtain ⟨front, back, rfl, hfront, -, hback⟩ := List.filter_eq_cons_iff.1 hsections
  replace hfront : ∀ p ∈ front, p.isSection = false := by simpa using hfront
  replace hback : ∀ p ∈ back, p.isSection = false := by simpa using hback
  have hsplit : ∀ f : Field, text (before ++ f :: after) =
      Part.fillAll front [] ++ String.join (before.map piece) ++ piece f ++
        (String.join (after.map piece) ++ Part.fillAll back []) := fun f => by
    rw [htext, Part.fillAll, List.map_append, String.join_append, List.map_cons, String.join_cons,
      ← Part.fillAll, ← Part.fillAll, fillAll_eq hfront _ [], fillAll_eq hback _ []]
    simp [Part.fill, String.append_assoc]
  rw [hsplit, hsplit, String.append_left_inj, String.append_right_inj]

end Lists

/-! ## The table of columns -/

theorem TypeTable.lookup_of_not_mem {t : TypeTable} {type : String}
    (h : type ∉ t.entries.map (·.1)) : t.lookup type = t.fallback := by
  have hnone : t.entries.lookup type = none := by
    rw [List.lookup_eq_none_iff]
    intro entry hentry
    rw [bne_iff_ne]
    rintro rfl
    exact h (List.mem_map_of_mem hentry)
  rw [lookup, find?, hnone, Option.getD_none]

namespace GoModule

/-- The types of the table that are no pointers. -/
def columnTypes : List String :=
  ["string", "int", "int32", "int64", "float32", "float64", "bool", "time.Time"]

/-- The types of the table whose pointers are not in it. -/
def unpointedTypes : List String := ["int32", "float32", "float64", "time.Time"]

/-- An update request takes every pointer mark off a type before it writes one. -/
theorem updateMember_pointer (name t : String) :
    updateMember ⟨name, "*" ++ t, false⟩ = updateMember ⟨name, t, false⟩ := by
  have hstrip : ("*" ++ t).toList.dropWhile (· = '*') = t.toList.dropWhile (· = '*') := by simp
  simp only [updateMember, hstrip]
  rfl

section
variable {t : String} (h : t.toList.head? ≠ some '*')
include h

/-- The table knows no other types than these, and pointers to some of them. -/
theorem not_mem_columns (hother : t ∉ columnTypes) :
    t ∉ TypeTable.gormColumns.entries.map (·.1) ∧
      "*" ++ t ∉ TypeTable.gormColumns.entries.map (·.1) := by
  have hpointers : ∀ type ∈ TypeTable.gormColumns.entries.map (·.1),
      type ∈ columnTypes ∨ ∃ base ∈ columnTypes, type = "*" ++ base := by decide
  have hstars : ∀ type ∈ columnTypes, type.toList.head? ≠ some '*' := by decide
  constructor
  · intro hmem
    rcases hpointers t hmem with hmem | ⟨base, -, rfl⟩
    · exact hother hmem
    · simp at h
  · intro hmem
    rcases hpointers _ hmem with hmem | ⟨base, hbase, heq⟩
    · exact absurd (hstars _ hmem) (by simp)
    · rw [String.append_right_inj] at heq
      exact hother (heq ▸ hbase)

/-- A type and its pointer have one column, but for the types whose pointers the table does not
know. -/
theorem lookup_pointer_iff : Stack.go.typeTable.lookup ("*" ++ t) = Stack.go.typeTable.lookup t ↔
    t ∉ unpointedTypes := by
  by_cases hmem : t ∈ columnTypes
  · have hall : ∀ type ∈ columnTypes, (Stack.go.typeTable.lookup ("*" ++ type) =
        Stack.go.typeTable.lookup type ↔ type ∉ unpointedTypes) := by decide
    exact hall t hmem
  · obtain ⟨hplain, hpointer⟩ := not_mem_columns h hmem
    have hsub : unpointedTypes ⊆ columnTypes := by decide
    refine iff_of_true ?_ fun hun => hmem (hsub hun)
    exact (TypeTable.lookup_of_not_mem hpointer).trans (TypeTable.lookup_of_not_mem hplain).symm

/-! ## Members -/

theorem nullable_pointer : Stack.go.nullable ("*" ++ t) = Stack.go.nullable t := by
  simp only [Stack.nullable]
  rw [if_neg h, if_pos (by simp)]

theorem responseMember_pointer (name : String) :
    responseMember ⟨name, "*" ++ t, false⟩ = responseMember ⟨name, t, false⟩ := by
  simp only [responseMember, Field.responseType, nullable_pointer h]
  rfl

/-- The spellings of a member of the model differ in the column alone. -/
theorem modelMember_pointer_iff (name : String) :
    (modelMember ⟨name, "*" ++ t, false⟩).text = (modelMember ⟨name, t, false⟩).text ↔
      t ∉ unpointedTypes := by
  rw [← lookup_pointer_iff h]
  simp only [modelMember, Member.text, Field.responseType, nullable_pointer h, memberName,
    String.append_left_inj, String.append_right_inj, quoted, if_neg Bool.false_ne_true]

/-! ## Files -/

variable (p : Pagination) (e : Entity) (before after : List Field) (name project : String)
  (options : Options)

/-- The declarations behind the creation request are those of the other spelling. -/
theorem dtoFile_pointer :
    (dtoFile p ⟨e, before ++ ⟨name, "*" ++ t, false⟩ :: after, project, options⟩).decls.tail =
      (dtoFile p ⟨e, before ++ ⟨name, t, false⟩ :: after, project, options⟩).decls.tail := by
  simp only [dtoFile, List.tail_cons, List.map_append, List.map_cons, updateMember_pointer,
    responseMembers, responseMember_pointer h, toResponseDecl, memberName]

theorem model_pointer_iff :
    (model ⟨e, before ++ ⟨name, "*" ++ t, false⟩ :: after, project, options⟩).content =
        (model ⟨e, before ++ ⟨name, t, false⟩ :: after, project, options⟩).content ↔
      t ∉ unpointedTypes := by
  rw [← modelMember_pointer_iff h name]
  refine ((lists_model e project options).replace_iff before after).trans ?_
  rw [String.append_left_inj, lineAt, lineAt, String.append_right_inj, text_modelMember,
    text_modelMember]

end

/-- The two spellings agree in the response, in the update request and in the Go type of the model,
and in its column but for the types whose pointers the table does not know. -/
theorem spellings_agree_iff {t : String} (h : t.toList.head? ≠ some '*') (name : String) :
    (responseMember ⟨name, "*" ++ t, false⟩).text = (responseMember ⟨name, t, false⟩).text ∧
    (updateMember ⟨name, "*" ++ t, false⟩).text = (updateMember ⟨name, t, false⟩).text ∧
    (modelMember ⟨name, "*" ++ t, false⟩).name = (modelMember ⟨name, t, false⟩).name ∧
    (modelMember ⟨name, "*" ++ t, false⟩).type = (modelMember ⟨name, t, false⟩).type ∧
    ((modelMember ⟨name, "*" ++ t, false⟩).text = (modelMember ⟨name, t, false⟩).text ↔
      t ∉ unpointedTypes) ∧
    ∀ (p : Pagination) (e : Entity) (before after : List Field) (project : String)
      (options : Options),
      (dtoFile p ⟨e, before ++ ⟨name, "*" ++ t, false⟩ :: after, project, options⟩).decls.tail =
        (dtoFile p ⟨e, before ++ ⟨name, t, false⟩ :: after, project, options⟩).decls.tail ∧
      ((model ⟨e, before ++ ⟨name, "*" ++ t, false⟩ :: after, project, options⟩).content =
          (model ⟨e, before ++ ⟨name, t, false⟩ :: after, project, options⟩).content ↔
        t ∉ unpointedTypes) := by
  refine ⟨?_, ?_, rfl, nullable_pointer h, modelMember_pointer_iff h name,
    fun p e before after project options => ⟨?_, ?_⟩⟩
  · rw [responseMember_pointer h]
  · rw [updateMember_pointer]
  · exact dtoFile_pointer h p e before after name project options
  · exact model_pointer_iff h e before after name project options

/-- The table knows the pointer to `int64`. -/
theorem spellings_agree_iff_int64 :
    "int64".toList.head? ≠ some '*' ∧ "int64" ∉ unpointedTypes ∧
    (responseMember ⟨"price", "*int64", false⟩).text =
      (responseMember ⟨"price", "int64", false⟩).text ∧
    (updateMember ⟨"price", "*int64", false⟩).text =
      (updateMember ⟨"price", "int64", false⟩).text ∧
    (modelMember ⟨"price", "*int64", false⟩).text =
      (modelMember ⟨"price", "int64", false⟩).text := by
  have hstar : "int64".toList.head? ≠ some '*' := by decide
  have hknown : "int64" ∉ unpointedTypes := by decide
  obtain ⟨hresponse, hupdate, -, -, hmodel, -⟩ := spellings_agree_iff hstar "price"
  exact ⟨hstar, hknown, hresponse, hupdate, hmodel.2 hknown⟩

/-- The two spellings of a nullable `float64` have one type and two columns. -/
theorem spellings_differ_float64 :
    "float64".toList.head? ≠ some '*' ∧
    (modelMember ⟨"price", "float64", false⟩).text =
      "Price *float64 `gorm:\"type:double\" json:\"price\"`" ∧
    (modelMember ⟨"price", "*float64", false⟩).text =
      "Price *float64 `gorm:\"type:varchar(255)\" json:\"price\"`" := by
  decide +kernel

end GoModule

end Scaffold
