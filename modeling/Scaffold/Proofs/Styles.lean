import Scaffold.Entity
import Scaffold.Proofs.Identifiers

/-!
# The styles of one name

Snake and kebab case are one text but for the separators, which the two other styles leave out and
the plural neither reads nor writes (`exchange_pluralChars`). On a lower-cased text Pascal case is
camel case with its first character in upper case (`pascalChars_eq`). So the styles of an entity's
name determine each other (`Ident.IsCoherent`, `Entity.named_isCoherent`). They need not for a name
as it was given: camel case lower-cases the first segment as a text, Pascal case character by
character.
-/

set_option autoImplicit false

namespace Scaffold.Naming

open Text

/-! ## Separators -/

theorem isLower_of_isSeparator {c : Char} (h : isSeparator c = true) : IsLower c :=
  ⟨fun he => by simp [he, isSeparator] at h, (caseless_of_isSeparator h).lowerChar_eq⟩

theorem mem_pluralChars {c : Char} {s : List Char} (h : c ∈ pluralChars s) :
    c ∈ s ∨ c ∈ ['i', 'e', 's'] := by
  unfold pluralChars at h
  split at h
  · exact (List.mem_append.1 h).imp_left fun h => List.dropLast_subset s h
  · split at h
    · exact (List.mem_append.1 h).imp_right fun h => by simp_all
    · exact (List.mem_append.1 h).imp_right fun h => by simp_all

theorem isLower_of_mem_pluralChars {s : List Char} (h : ∀ c ∈ s, IsLower c) :
    ∀ c ∈ pluralChars s, IsLower c := fun c hc =>
  (mem_pluralChars hc).elim (h c) fun hc => of_decide_eq_true <|
    (List.all_eq_true (p := fun c => decide (IsLower c))).1
      (show ['i', 'e', 's'].all (fun c => decide (IsLower c)) = true by decide +kernel) c hc

section
variable {old new : Char} {s : List Char}

theorem not_mem_exchange (hne : old ≠ new) (s : List Char) : old ∉ exchange old new s := by
  intro h
  obtain ⟨c, -, he⟩ := List.mem_map.1 h
  split at he
  · exact hne he.symm
  · exact absurd he ‹_›

theorem exchange_eq_self (h : old ∉ s) : exchange old new s = s :=
  (List.map_congr_left fun _ hc => if_neg (ne_of_mem_of_not_mem hc h)).trans (List.map_id s)

theorem isLower_of_mem_exchange (hnew : isSeparator new = true) (h : ∀ c ∈ s, IsLower c) :
    ∀ c ∈ exchange old new s, IsLower c := by
  intro c hc
  obtain ⟨d, hd, rfl⟩ := List.mem_map.1 hc
  split
  · exact isLower_of_isSeparator hnew
  · exact h d hd

variable (hold : isSeparator old = true) (hnew : isSeparator new = true)
include hold hnew

theorem alike_exchange (s : List Char) : Alike s (exchange old new s) := by
  refine List.forall₂_map_right_iff.2 (List.forall₂_same.2 fun c _ => ?_)
  split
  · rename_i hc
    exact .inr ⟨hc ▸ hold, hnew⟩
  · exact .inl rfl

/-- A separator is exchanged before or after the plural is taken. -/
theorem exchange_pluralChars (hne : old ≠ new) (s : List Char) :
    exchange old new (pluralChars s) = pluralChars (exchange old new s) := by
  have hfree : old ∉ pluralChars (exchange old new s) := fun h =>
    (mem_pluralChars h).elim (not_mem_exchange hne s) fun h => by
      rcases isSeparator_iff.1 hold with rfl | rfl <;> simp at h
  rw [(alike_exchange hold hnew s).pluralChars.exchange_eq old new hold hnew hne,
    exchange_eq_self hfree]

theorem toList_pluralize_exchange (hne : old ≠ new) {name exchanged : String}
    (h : exchanged.toList = exchange old new name.toList) :
    (pluralize exchanged).toList = exchange old new (pluralize name).toList := by
  rw [pluralize, pluralize, String.toList_ofList, String.toList_ofList, h,
    exchange_pluralChars hold hnew hne]

end

/-! ## Texts in lower case -/

/-- The text with its first character in upper case. -/
def upperFirst : List Char → List Char
  | [] => []
  | c :: rest => upperChar c ++ rest

theorem upperChar_ne_nil (c : Char) : upperChar c ≠ [] := by
  have hall : ∀ e ∈ upperExpansions, e.2 ≠ [] := by decide +kernel
  unfold upperChar
  split
  · rename_i image h
    obtain ⟨l₁, l₂, hl, -⟩ := List.lookup_eq_some_iff.1 h
    simpa using hall (c.toNat, image) (by simp [hl])
  · exact List.cons_ne_nil _ _

theorem upperFirst_eq_nil_iff {s : List Char} : upperFirst s = [] ↔ s = [] := by
  cases s with
  | nil => simp [upperFirst]
  | cons c rest => simp [upperFirst, upperChar_ne_nil]

section
variable {s : List Char} (h : ∀ c ∈ s, IsLower c)
include h

theorem capitalizeChars_eq : capitalizeChars s = upperFirst s := by
  cases s with
  | nil => rfl
  | cons c rest =>
    have hrest : rest.flatMap lowerChar = rest := by
      rw [List.flatMap_congr fun d hd => (h d (.tail _ hd)).2, List.flatMap_singleton']
    rw [capitalizeChars, hrest, upperFirst]

/-- Pascal case is camel case with its first character in upper case. -/
theorem pascalChars_eq : pascalChars s = upperFirst (camelChars s) := by
  rw [pascalChars, camelChars]
  cases hs : segments s with
  | nil => rfl
  | cons first rest =>
    have hmem : first ∈ segments s := hs ▸ .head _
    have hlower : ∀ c ∈ first, IsLower c := fun c hc => h c (mem_of_mem_segments hmem hc)
    have hne : first ≠ [] := by simpa using (List.mem_filter.1 hmem).2
    obtain ⟨c, tail, rfl⟩ := List.exists_cons_of_ne_nil hne
    simp only [List.flatMap_cons, capitalizeChars_eq hlower, lowerChars_eq_self hlower, upperFirst,
      List.cons_append, List.append_assoc]

end

/-! ### Snake and kebab case -/

theorem isLower_of_mem_lower {name : String} : ∀ c ∈ (lower name).toList, IsLower c := by
  rw [lower, String.toList_ofList]
  exact fun _ => isLower_of_mem_lowerFrom

section
variable {name : String} (h : ∀ c ∈ name.toList, IsLower c)
include h

theorem isLower_of_mem_pluralize : ∀ c ∈ (pluralize name).toList, IsLower c := by
  rw [pluralize, String.toList_ofList]
  exact isLower_of_mem_pluralChars h

theorem toList_snake : (snake name).toList = exchange '-' '_' name.toList := by
  rw [snake, String.toList_ofList, snakeChars, lowerChars_eq_self h]

theorem toList_kebab : (kebab name).toList = exchange '_' '-' name.toList := by
  rw [kebab, String.toList_ofList, kebabChars, lowerChars_eq_self h]

/-- Snake case and plural commute. -/
theorem snake_pluralize : snake (pluralize name) = pluralize (snake name) := by
  rw [← String.toList_inj, toList_snake (isLower_of_mem_pluralize h),
    toList_pluralize_exchange rfl rfl (by decide) (toList_snake h)]

/-- Kebab case and plural commute. -/
theorem kebab_pluralize : kebab (pluralize name) = pluralize (kebab name) := by
  rw [← String.toList_inj, toList_kebab (isLower_of_mem_pluralize h),
    toList_pluralize_exchange rfl rfl (by decide) (toList_kebab h)]

end

theorem kebab_lower (name : String) : kebab (lower name) = kebab name := by
  simp only [kebab, lower, String.toList_ofList, kebabChars, lowerChars_lowerChars]

theorem kebab_pluralize_lower (name : String) :
    kebab (pluralize (lower name)) = pluralize (kebab name) := by
  rw [kebab_pluralize isLower_of_mem_lower, kebab_lower]

/-! ## Characters of the styles -/

section
variable {c : Char} {s : List Char} (hc : isSeparator c = true)
include hc

/-- Capitalized segments hold no separator. -/
theorem not_mem_capitalized {parts : List (List Char)} (hs : parts ⊆ segments s) :
    c ∉ parts.flatMap capitalizeChars := by
  intro hm
  obtain ⟨segment, hsegment, hm⟩ := List.mem_flatMap.1 hm
  have hm := (caseless_of_isSeparator hc).mem_of_mem_capitalizeChars hm
  rw [isSeparator_of_mem_segments (hs hsegment) hm] at hc
  cases hc

theorem not_mem_pascalChars : c ∉ pascalChars s :=
  not_mem_capitalized hc (List.Subset.refl _)

theorem not_mem_camelChars : c ∉ camelChars s := by
  unfold camelChars
  split
  · exact List.not_mem_nil
  · rename_i first rest hs
    rw [List.mem_append, (caseless_of_isSeparator hc).mem_lowerChars, not_or]
    refine ⟨fun hm => ?_, not_mem_capitalized hc (hs ▸ List.subset_cons_self _ _)⟩
    have hfirst : first ∈ segments s := hs ▸ .head _
    rw [isSeparator_of_mem_segments hfirst hm] at hc
    cases hc

end

end Scaffold.Naming

namespace Scaffold

open Naming Text

/-- The styles of one name determine each other, and each has its own separators. -/
structure Ident.IsCoherent (i : Ident) : Prop where
  pascal_snake : Naming.pascal i.snake = i.pascal
  pascal_kebab : Naming.pascal i.kebab = i.pascal
  camel_snake : Naming.camel i.snake = i.camel
  camel_kebab : Naming.camel i.kebab = i.camel
  kebab_snake : Naming.kebab i.snake = i.kebab
  snake_kebab : Naming.snake i.kebab = i.snake
  pascal_eq : i.pascal.toList = upperFirst i.camel.toList
  pascal_empty : i.pascal = "" ↔ i.camel = ""
  pascal_separator : '-' ∉ i.pascal.toList ∧ '_' ∉ i.pascal.toList
  camel_separator : '-' ∉ i.camel.toList ∧ '_' ∉ i.camel.toList
  snake_separator : '-' ∉ i.snake.toList
  kebab_separator : '_' ∉ i.kebab.toList

theorem Ident.of_exchange {old new : Char} (hold : isSeparator old = true)
    (hnew : isSeparator new = true) {s t : String} (h : t.toList = exchange old new s.toList) :
    Ident.of t = Ident.of s := by
  refine (Ident.of_eq ?_).symm
  rw [h]
  exact alike_exchange hold hnew s.toList

theorem Ident.isCoherent_of {name : String} (h : ∀ c ∈ name.toList, IsLower c) :
    (Ident.of name).IsCoherent := by
  have ofSnake := Ident.of_exchange rfl rfl (toList_snake h)
  have ofKebab := Ident.of_exchange rfl rfl (toList_kebab h)
  simp only [Ident.of, Ident.mk.injEq] at ofSnake ofKebab
  have hpascal : (Naming.pascal name).toList = upperFirst (Naming.camel name).toList := by
    rw [Naming.pascal, Naming.camel, String.toList_ofList, String.toList_ofList, pascalChars_eq h]
  have hempty : Naming.pascal name = "" ↔ Naming.camel name = "" := by
    rw [← String.toList_eq_nil_iff, hpascal, upperFirst_eq_nil_iff, String.toList_eq_nil_iff]
  have pascal_free : ∀ c, isSeparator c = true → c ∉ (Naming.pascal name).toList := fun c hc => by
    rw [Naming.pascal, String.toList_ofList]
    exact not_mem_pascalChars hc
  have camel_free : ∀ c, isSeparator c = true → c ∉ (Naming.camel name).toList := fun c hc => by
    rw [Naming.camel, String.toList_ofList]
    exact not_mem_camelChars hc
  have snake_free : '-' ∉ (Naming.snake name).toList := by
    rw [toList_snake h]
    exact not_mem_exchange (by decide) name.toList
  have kebab_free : '_' ∉ (Naming.kebab name).toList := by
    rw [toList_kebab h]
    exact not_mem_exchange (by decide) name.toList
  exact {
    pascal_snake := ofSnake.1
    pascal_kebab := ofKebab.1
    camel_snake := ofSnake.2.1
    camel_kebab := ofKebab.2.1
    kebab_snake := ofSnake.2.2.2
    snake_kebab := ofKebab.2.2.1
    pascal_eq := hpascal
    pascal_empty := hempty
    pascal_separator := ⟨pascal_free '-' rfl, pascal_free '_' rfl⟩
    camel_separator := ⟨camel_free '-' rfl, camel_free '_' rfl⟩
    snake_separator := snake_free
    kebab_separator := kebab_free }

/-- The styles of an entity's name are coherent, those of its plural are too, and its plural in
snake or kebab case is the plural of its name in that style. -/
theorem Entity.named_isCoherent (name : String) :
    (named name).singular.IsCoherent ∧ (named name).plural.IsCoherent ∧
      (named name).plural.snake = pluralize (named name).singular.snake ∧
      (named name).plural.kebab = pluralize (named name).singular.kebab := by
  have hmodule : ∀ c ∈ (lower name).toList, IsLower c := isLower_of_mem_lower
  exact ⟨Ident.isCoherent_of hmodule, Ident.isCoherent_of (isLower_of_mem_pluralize hmodule),
    snake_pluralize hmodule, kebab_pluralize hmodule⟩

/-- A name as it was given may end in a sigma that camel and Pascal case lower differently. -/
example : (pascal "ΑΣ").toList ≠ upperFirst (camel "ΑΣ").toList := by decide +kernel

end Scaffold
