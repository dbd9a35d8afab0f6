import Scaffold.Proofs.FieldSpelling
import Scaffold.Proofs.Splitting

/-!
# Reading any specification

Reading rejects nothing, so what it answers is said of every text. A specification is read piece by
piece: pieces around a comma do not know of each other (`tokens_append`), and a piece gives a field
unless it is blank (`length_tokens`). A token is a name, perhaps a colon and a type, and markers
(`shape`); from there it is known what it is read as (`ofToken_name`, `ofToken_name_type`), and what
a field that was read cannot hold (`IsClean`).
-/

set_option autoImplicit false

namespace Scaffold.Field

open Text

/-! ## One token -/

/-- A token taken apart: a name, perhaps a colon and a type, and the markers. -/
inductive Shape : List Char → Prop
  | name {name : List Char} {k : Nat} (colon : ':' ∉ name) (mark : name.getLast? ≠ some '?') :
      Shape (name ++ marks k)
  | typed {name type : List Char} {k : Nat} (colon : ':' ∉ name) (mark : type.getLast? ≠ some '?') :
      Shape (name ++ ':' :: type ++ marks k)

/-- All markers at the end of a text are dropped. -/
theorem exists_append_marks (s : List Char) : ∃ k, s = dropEndWhile (· = '?') s ++ marks k := by
  obtain ⟨m, hm, hs⟩ := exists_dropEndWhile_append (· = '?') s
  have hmarks : m = marks m.length :=
    List.eq_replicate_iff.2 ⟨rfl, fun c hc => by simpa using hm c hc⟩
  exact ⟨m.length, by rwa [← hmarks]⟩

theorem getLast?_dropEndWhile_mark (s : List Char) :
    (dropEndWhile (· = '?') s).getLast? ≠ some '?' := fun h => by
  simpa using of_getLast?_dropEndWhile h

theorem shape (token : List Char) : Shape token := by
  obtain ⟨k, htoken⟩ := exists_append_marks token
  have hmark := getLast?_dropEndWhile_mark token
  rw [htoken]
  by_cases hcolon : ':' ∈ dropEndWhile (· = '?') token
  · obtain ⟨name, type, hbody, hname⟩ := List.eq_append_cons_of_mem hcolon
    rw [hbody] at hmark ⊢
    refine .typed hname fun h => hmark ?_
    rw [List.getLast?_append, List.getLast?_cons, h]
    rfl
  · exact .name hcolon hmark

section
variable (defaultType : String) (k : Nat)

theorem ofToken_name {name : List Char} (colon : ':' ∉ name) (mark : name.getLast? ≠ some '?') :
    ofToken defaultType (name ++ marks k) = ⟨.ofList (trimChars name), defaultType, k = 0⟩ := by
  simp only [ofToken, dropEndWhile_marks mark, splitColon_untyped colon, Option.elim_none,
    getLast?_append_marks mark]

theorem ofToken_name_type {name type : List Char} (colon : ':' ∉ name)
    (mark : type.getLast? ≠ some '?') :
    ofToken defaultType (name ++ ':' :: type ++ marks k) =
      ⟨.ofList (trimChars name), .ofList (trimChars type), k = 0⟩ := by
  have hbody : (name ++ ':' :: type).getLast? ≠ some '?' := by
    rw [List.getLast?_append, List.getLast?_cons]
    cases h : type.getLast? with
    | none => simp
    | some c => simpa [h] using mark
  simp only [ofToken, dropEndWhile_marks hbody, splitColon_typed colon, Option.elim_some,
    getLast?_append_marks hbody]

end

/-- What is known of every field that was read: name and type are trimmed, no comma is in them and
no colon in the name. A type that was not written is the default type, whatever that is. -/
structure IsClean (defaultType : String) (f : Field) : Prop where
  name_trimmed : trim f.name = f.name
  name_comma : ',' ∉ f.name.toList
  name_colon : ':' ∉ f.name.toList
  type : f.type = defaultType ∨ trim f.type = f.type ∧ ',' ∉ f.type.toList

theorem trim_ofList_trimChars (s : List Char) :
    trim (.ofList (trimChars s)) = .ofList (trimChars s) := by
  rw [trim, String.toList_ofList, trimChars_trimChars]

theorem not_mem_ofList_trimChars {c : Char} {s : List Char} (h : c ∉ s) :
    c ∉ (String.ofList (trimChars s)).toList := by
  rw [String.toList_ofList]
  exact fun hc => h (trimChars_subset s hc)

theorem isClean_ofToken (defaultType : String) {token : List Char} (h : ',' ∉ token) :
    IsClean defaultType (ofToken defaultType token) := by
  cases shape token with
  | @name name k colon mark =>
    rw [ofToken_name defaultType k colon mark]
    exact {
      name_trimmed := trim_ofList_trimChars name
      name_comma := not_mem_ofList_trimChars fun hc => h (List.mem_append_left _ hc)
      name_colon := not_mem_ofList_trimChars colon
      type := .inl rfl }
  | @typed name type k colon mark =>
    simp only [List.mem_append, List.mem_cons, not_or] at h
    rw [ofToken_name_type defaultType k colon mark]
    exact {
      name_trimmed := trim_ofList_trimChars name
      name_comma := not_mem_ofList_trimChars h.1.1
      name_colon := not_mem_ofList_trimChars colon
      type := .inr ⟨trim_ofList_trimChars type, not_mem_ofList_trimChars h.1.2.2⟩ }

/-! ## The pieces of a specification -/

theorem tokens_append (a b : List Char) : tokens (a ++ ',' :: b) = tokens a ++ tokens b := by
  rw [tokens, List.splitOn_append_cons_self, List.map_append, List.filter_append]
  rfl

/-- A piece counts if it holds a character that is not blank. -/
theorem length_tokens (spec : List Char) :
    (tokens spec).length = (spec.splitOn ',').countP (·.any (!isBlank ·)) := by
  rw [tokens, ← List.countP_eq_length_filter, List.countP_map]
  refine List.countP_congr fun piece _ => ?_
  rw [Function.comp_apply, Bool.not_eq_true', List.isEmpty_eq_false_iff, ne_eq,
    trimChars_eq_nil_iff]
  simp [Blank]

theorem comma_not_mem_token {spec token : List Char} (h : token ∈ tokens spec) : ',' ∉ token := by
  obtain ⟨piece, hpiece, rfl⟩ := List.mem_map.1 (List.mem_filter.1 h).1
  exact fun hc => not_mem_splitOn hpiece (trimChars_subset piece hc)

theorem trimChars_token {spec token : List Char} (h : token ∈ tokens spec) :
    trimChars token = token := by
  obtain ⟨piece, -, rfl⟩ := List.mem_map.1 (List.mem_filter.1 h).1
  exact trimChars_trimChars piece

/-- **Reading is compositional.** Texts around a comma are read on their own, every piece that is
not blank gives one field, and every field is clean. -/
theorem parseSpec_pieces (defaultType : String) :
    (∀ a b, parseSpec defaultType (a ++ "," ++ b) =
      parseSpec defaultType a ++ parseSpec defaultType b) ∧
    ∀ spec,
      (parseSpec defaultType spec).length =
        (spec.toList.splitOn ',').countP (·.any (!isBlank ·)) ∧
      ∀ f ∈ parseSpec defaultType spec, IsClean defaultType f := by
  refine ⟨fun a b => ?_, fun spec => ⟨?_, fun f hf => ?_⟩⟩
  · have hlist : (a ++ "," ++ b).toList = a.toList ++ ',' :: b.toList := by simp
    rw [parseSpec, hlist, tokens_append, List.map_append]
    rfl
  · rw [parseSpec, List.length_map, length_tokens]
  · obtain ⟨token, htoken, rfl⟩ := List.mem_map.1 hf
    exact isClean_ofToken defaultType (comma_not_mem_token htoken)

/-- A token of markers alone, a blank piece, and a type with a blank between its markers. -/
theorem parseSpec_pieces_marks :
    (⟨"b", "x?", false⟩ : Field) ∈ parseSpec "string" "??, ,b : x? ?" ∧
    IsClean "string" ⟨"b", "x?", false⟩ := by
  have h : (⟨"b", "x?", false⟩ : Field) ∈ parseSpec "string" "??, ,b : x? ?" := by decide
  exact ⟨h, ((parseSpec_pieces "string").2 _).2 _ h⟩

end Scaffold.Field
