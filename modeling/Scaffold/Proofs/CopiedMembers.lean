import Scaffold.GoModule

/-!
# Members that are copied between Go types

The use case copies the members of a creation request into the model, and a converter copies those
of the model into the response. `IsCopied` collects what the files say about one field: its members
in the three structs and the lines that copy them. Model and response give a member the same type;
the request does so unless the field is optional and its type is not a pointer
(`GoModule.copied_types`).
-/

set_option autoImplicit false

namespace Scaffold.GoModule

open Code

/-- The members of the field at position `i`, in the request, in the model and in the response, and
the lines that copy the request's member into the model's and the model's into the response's. -/
structure IsCopied (p : Pagination) (b : Blueprint) (i : Nat) (c m r : Member) : Prop where
  request : ∃ members, Decl.struct (createRequest b.entity.pascal) members ∈ (dtoFile p b).decls ∧
    members[i]? = some c
  model : ∃ members, Decl.struct b.entity.pascal members ∈ (modelFile b).decls ∧
    members[i + 1]? = some m
  response : ∃ members, Decl.struct (response b.entity.pascal) members ∈ (dtoFile p b).decls ∧
    members[i + 1]? = some r
  create : ∃ signature lines rest,
    Decl.method "u" (usecase b.entity.pascal) "Create" signature
      (.braces ("entity := &database." ++ b.entity.pascal) lines :: rest) ∈
        (usecaseFile p b).decls ∧
    lines[i]? = some (.line (m.name ++ ": req." ++ c.name ++ ","))
  toResponse : ∃ signature lines,
    Decl.func (toResponse b.entity.pascal) signature
      [.braces ("return &" ++ GoModule.response b.entity.pascal) lines] ∈ (dtoFile p b).decls ∧
    lines[i + 1]? = some (.line (r.name ++ ": entity." ++ m.name ++ ","))

/-- A managed line stands before the lines of the fields. -/
theorem getElem?_managed {α β : Type} {item : α → β} {first : β} {last : List β} {items : List α}
    {i : Nat} {a : α} (h : items[i]? = some a) :
    ([first] ++ items.map item ++ last)[i + 1]? = some (item a) := by
  have hi : i < items.length := (List.getElem?_eq_some_iff.1 h).1
  rw [List.append_assoc, List.singleton_append, List.getElem?_cons_succ,
    List.getElem?_append_left (by simpa using hi), List.getElem?_map, h, Option.map_some]

theorem isCopied (p : Pagination) {b : Blueprint} {i : Nat} {f : Field}
    (h : b.fields[i]? = some f) :
    IsCopied p b i (createMember f) (modelMember f) (responseMember f) where
  request := ⟨b.fields.map createMember, by simp [dtoFile], by simp [h]⟩
  model := ⟨modelMembers b.fields, by simp [modelFile], getElem?_managed h⟩
  response := ⟨responseMembers b.fields, by simp [dtoFile], getElem?_managed h⟩
  create := ⟨_, _, _, .tail _ (.tail _ (.head _)), by simp [h, createMember, modelMember]⟩
  toResponse := ⟨_, _, .tail _ (.tail _ (.tail _ (.tail _ (.tail _ (.head _))))),
    getElem?_managed h⟩

/-- The types that are their own nullable form are the pointers. -/
theorem nullable_eq_iff {type : String} :
    Stack.go.nullable type = type ↔ type.toList.head? = some '*' := by
  simp only [Stack.nullable]
  split
  · simp_all
  · rename_i hstar
    refine iff_of_false (fun h => ?_) hstar
    have hlen := congrArg String.length h
    simp only [String.length_append] at hlen
    have : "*".length = 1 := rfl
    omega

/-- The model and the response give the member of a field the same type, and the creation request
gives it that type exactly if the field is required or its type is a pointer. -/
theorem copied_types (p : Pagination) {b : Blueprint} {i : Nat} {f : Field}
    (h : b.fields[i]? = some f) :
    ∃ c m r, IsCopied p b i c m r ∧ m.type = r.type ∧
      (c.type = m.type ↔ f.required = true ∨ f.type.toList.head? = some '*') := by
  refine ⟨_, _, _, isCopied p h, rfl, ?_⟩
  simp only [createMember, modelMember, Field.responseType]
  cases f.required with
  | true => simp
  | false =>
    rw [if_neg Bool.false_ne_true, eq_comm, nullable_eq_iff]
    simp

theorem copied_types_optional :
    (⟨.named "product", [⟨"price", "int64", false⟩], "", {}⟩ : Blueprint).fields[0]? =
      some ⟨"price", "int64", false⟩ ∧
    ∃ c m r, IsCopied {} ⟨.named "product", [⟨"price", "int64", false⟩], "", {}⟩ 0 c m r ∧
      m.type = r.type ∧ (c.type = m.type ↔ false = true ∨ "int64".toList.head? = some '*') :=
  ⟨rfl, copied_types {} (f := ⟨"price", "int64", false⟩) rfl⟩

/-- An optional field whose type is not a pointer is copied into a member of another type. -/
theorem copied_types_differ :
    ∃ c m r, IsCopied {} ⟨.named "product", [⟨"price", "int64", false⟩], "", {}⟩ 0 c m r ∧
      c.type = "int64" ∧ m.type = "*int64" :=
  ⟨_, _, _, isCopied {} (f := ⟨"price", "int64", false⟩) rfl, rfl, by decide⟩

end Scaffold.GoModule
