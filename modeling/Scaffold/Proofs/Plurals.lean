import Mathlib.Data.Set.Card
import Scaffold.Proofs.Styles

/-!
# Which names share a plural

The plural has three rules (`Plural`), and each can be undone. So two texts share a plural only
across rules, and one of them falls under the last rule: it has `ie` for the final `y` of the other,
or an `e` behind its sibilant end (`Longer`, `pluralChars_eq_iff`). From there it is known which
names share a table, a cache key or a route (`Entity.modulePlural_eq_iff`,
`Entity.routeSegment_eq_iff`), and that no plural has three singulars (`encard_pluralize_le`).
-/

set_option autoImplicit false

namespace Scaffold.Naming

open Text

/-! ## The rules -/

/-- The text ends in one of the endings after which a plural takes `es`. -/
def EndsSibilant (s : List Char) : Prop := ∃ w ∈ sibilants, w <:+ s

theorem EndsSibilant.getLast? {s : List Char} (h : EndsSibilant s) :
    s.getLast? ∈ [some 's', some 'x', some 'h'] := by
  obtain ⟨w, hw, p, rfl⟩ := h
  simp only [sibilants, List.mem_cons, List.not_mem_nil, or_false] at hw
  rcases hw with rfl | rfl | rfl | rfl <;> simp [List.getLast?_append]

theorem not_endsSibilant_concat (s : List Char) {c : Char} (hc : c ∉ ['s', 'x', 'h']) :
    ¬ EndsSibilant (s ++ [c]) := fun h => by
  have := h.getLast?
  simp_all

theorem any_sibilants_iff {s : List Char} :
    sibilants.any (·.isSuffixOf s) = true ↔ EndsSibilant s := by
  simp only [List.any_eq_true, List.isSuffixOf_iff_suffix, EndsSibilant]

/-- A text and its plural, by the rule that applies. -/
inductive Plural : List Char → List Char → Prop
  | ies (p : List Char) : Plural (p ++ ['y']) (p ++ ['i', 'e', 's'])
  | es {t : List Char} (sibilant : EndsSibilant t) : Plural t (t ++ ['e', 's'])
  | s {t : List Char} (y : t.getLast? ≠ some 'y') (sibilant : ¬ EndsSibilant t) :
      Plural t (t ++ ['s'])

theorem plural_pluralChars (s : List Char) : Plural s (pluralChars s) := by
  unfold pluralChars
  split
  · rename_i hy
    obtain ⟨p, rfl⟩ := List.getLast?_eq_some_iff.1 hy
    rw [List.dropLast_concat]
    exact .ies p
  · rename_i hy
    split
    · rename_i hs
      exact .es (any_sibilants_iff.1 hs)
    · rename_i hs
      exact .s hy (mt any_sibilants_iff.2 hs)

/-- The rules do not overlap. -/
theorem Plural.eq_pluralChars {s w : List Char} (h : Plural s w) : w = pluralChars s := by
  unfold pluralChars
  cases h with
  | ies p => rw [if_pos List.getLast?_concat, List.dropLast_concat]
  | es sibilant =>
    have hy : s.getLast? ≠ some 'y' := fun hy => by
      have := sibilant.getLast?
      simp [hy] at this
    rw [if_neg hy, if_pos (any_sibilants_iff.2 sibilant)]
  | s y sibilant => rw [if_neg y, if_neg (mt any_sibilants_iff.1 sibilant)]

theorem plural_iff {s w : List Char} : Plural s w ↔ pluralChars s = w :=
  ⟨fun h => h.eq_pluralChars.symm, fun h => h ▸ plural_pluralChars s⟩

/-! ## Two texts with one plural -/

/-- The longer text has the plural of the shorter one: `ie` stands for its `y`, or an `e` behind its
sibilant end. -/
inductive Longer : List Char → List Char → Prop
  | ie (p : List Char) : Longer (p ++ ['y']) (p ++ ['i', 'e'])
  | e {t : List Char} (sibilant : EndsSibilant t) : Longer t (t ++ ['e'])

/-- The last rule applies to a text that ends in `e`. -/
theorem plural_concat_e (t : List Char) : Plural (t ++ ['e']) (t ++ ['e', 's']) := by
  have h : Plural (t ++ ['e']) (t ++ ['e'] ++ ['s']) :=
    .s (by simp) (not_endsSibilant_concat t (by decide))
  simpa using h

namespace Longer

variable {s t : List Char} (h : Longer s t)
include h

theorem plural_right : Plural t (t ++ ['s']) := by
  cases h with
  | ie p => simpa using plural_concat_e (p ++ ['i'])
  | e sibilant => simpa using plural_concat_e s

theorem plural_left : Plural s (t ++ ['s']) := by
  cases h with
  | ie p => simpa using Plural.ies p
  | e sibilant => simpa using Plural.es sibilant

theorem pluralChars_eq : pluralChars s = pluralChars t :=
  (plural_iff.1 h.plural_left).trans (plural_iff.1 h.plural_right).symm

end Longer

theorem append_eq_of_append {u v w x : List Char} (h : u ++ (v ++ x) = w ++ x) : u ++ v = w :=
  List.append_cancel_right (by rwa [List.append_assoc])

/-- Two texts with one plural, rule against rule. A sibilant end is no `i`, so the first two rules
share no plural; the last rule shares one with each of them. -/
theorem Plural.shared {s t w w' : List Char} (hs : Plural s w) (ht : Plural t w') (h : w = w') :
    s = t ∨ Longer s t ∨ Longer t s := by
  have sibilant_i : ∀ p : List Char, ¬ EndsSibilant (p ++ ['i']) := fun p =>
    not_endsSibilant_concat p (by decide)
  cases hs with
  | ies p =>
    cases ht with
    | ies q =>
      obtain rfl := List.append_cancel_right h
      exact .inl rfl
    | es sibilant =>
      obtain rfl := append_eq_of_append (v := ['i']) (x := ['e', 's']) h
      exact absurd sibilant (sibilant_i p)
    | s =>
      obtain rfl := append_eq_of_append (v := ['i', 'e']) (x := ['s']) h
      exact .inr (.inl (.ie p))
  | es sibilant =>
    cases ht with
    | ies q =>
      obtain rfl := append_eq_of_append (v := ['i']) (x := ['e', 's']) h.symm
      exact absurd sibilant (sibilant_i q)
    | es => exact .inl (List.append_cancel_right h)
    | s =>
      obtain rfl := append_eq_of_append (v := ['e']) (x := ['s']) h
      exact .inr (.inl (.e sibilant))
  | s =>
    cases ht with
    | ies q =>
      obtain rfl := append_eq_of_append (v := ['i', 'e']) (x := ['s']) h.symm
      exact .inr (.inr (.ie q))
    | es sibilant =>
      obtain rfl := append_eq_of_append (v := ['e']) (x := ['s']) h.symm
      exact .inr (.inr (.e sibilant))
    | s => exact .inl (List.append_cancel_right h)

theorem pluralChars_eq_iff {s t : List Char} :
    pluralChars s = pluralChars t ↔ s = t ∨ Longer s t ∨ Longer t s := by
  constructor
  · exact (plural_pluralChars s).shared (plural_pluralChars t)
  · rintro (rfl | h | h)
    · rfl
    · exact h.pluralChars_eq
    · exact h.pluralChars_eq.symm

/-! ## Names -/

theorem longer_iff {a b : String} : Longer a.toList b.toList ↔
    (∃ p, a = p ++ "y" ∧ b = p ++ "ie") ∨ EndsSibilant a.toList ∧ b = a ++ "e" := by
  constructor
  · intro h
    generalize ha : a.toList = s at h
    generalize hb : b.toList = t at h
    cases h with
    | ie p =>
      refine .inl ⟨.ofList p, ?_, ?_⟩
      · rw [← String.toList_inj, ha, String.toList_append, String.toList_ofList]
        rfl
      · rw [← String.toList_inj, hb, String.toList_append, String.toList_ofList]
        rfl
    | e sibilant =>
      refine .inr ⟨sibilant, ?_⟩
      rw [← String.toList_inj, hb, String.toList_append, ha]
      rfl
  · rintro (⟨p, rfl, rfl⟩ | ⟨sibilant, rfl⟩)
    · simpa using Longer.ie p.toList
    · simpa using Longer.e sibilant

theorem pluralize_inj {a b : String} :
    pluralize a = pluralize b ↔ a = b ∨ Longer a.toList b.toList ∨ Longer b.toList a.toList := by
  rw [pluralize, pluralize, String.ofList_inj, pluralChars_eq_iff, String.toList_inj]

/-- The names are equal but for an end that the plural does not tell apart: a final `y` against a
final `ie`, or a sibilant end against the same end and an `e`. -/
def SameStem (a b : String) : Prop :=
  a = b ∨ (∃ p, ({a, b} : Set String) = {p ++ "y", p ++ "ie"}) ∨
    ∃ t : String, EndsSibilant t.toList ∧ ({a, b} : Set String) = {t, t ++ "e"}

theorem pluralize_eq_iff {a b : String} : pluralize a = pluralize b ↔ SameStem a b := by
  rw [pluralize_inj, longer_iff, longer_iff, SameStem]
  simp only [Set.pair_eq_pair_iff]
  constructor
  · rintro (rfl | (⟨p, ha, hb⟩ | ⟨ha, rfl⟩) | ⟨p, hb, ha⟩ | ⟨hb, rfl⟩)
    · exact .inl rfl
    · exact .inr (.inl ⟨p, .inl ⟨ha, hb⟩⟩)
    · exact .inr (.inr ⟨a, ha, .inl ⟨rfl, rfl⟩⟩)
    · exact .inr (.inl ⟨p, .inr ⟨ha, hb⟩⟩)
    · exact .inr (.inr ⟨b, hb, .inr ⟨rfl, rfl⟩⟩)
  · rintro (rfl | ⟨p, ⟨ha, hb⟩ | ⟨ha, hb⟩⟩ | ⟨t, ht, ⟨rfl, rfl⟩ | ⟨rfl, rfl⟩⟩)
    · exact .inl rfl
    · exact .inr (.inl (.inl ⟨p, ha, hb⟩))
    · exact .inr (.inr (.inl ⟨p, hb, ha⟩))
    · exact .inr (.inl (.inr ⟨ht, rfl⟩))
    · exact .inr (.inr (.inr ⟨ht, rfl⟩))

theorem pluralize_of_longer {a b : String} (h : Longer a.toList b.toList) :
    pluralize b = b ++ "s" := by
  rw [pluralize, plural_iff.1 h.plural_right, String.ofList_append, String.ofList_toList]

/-- A plural has two singulars at most: one by the last rule, and one by the two others. -/
theorem encard_pluralize_le (w : String) : {s | pluralize s = w}.encard ≤ 2 := by
  let others : Set String := {s | pluralize s = w ∧ s ++ "s" ≠ w}
  have hone : others.encard ≤ 1 := by
    refine Set.encard_le_one_iff.2 fun a b ⟨ha, ha'⟩ ⟨hb, hb'⟩ => ?_
    rcases pluralize_inj.1 (ha.trans hb.symm) with h | h | h
    · exact h
    · exact absurd ((pluralize_of_longer h).symm.trans hb) hb'
    · exact absurd ((pluralize_of_longer h).symm.trans ha) ha'
  have hsub : {s | pluralize s = w} ⊆ insert (String.ofList w.toList.dropLast) others := by
    intro s hs
    by_cases h : s ++ "s" = w
    · refine .inl ?_
      rw [← h, String.toList_append]
      simp
    · exact .inr ⟨hs, h⟩
  calc {s | pluralize s = w}.encard
      ≤ (insert (String.ofList w.toList.dropLast) others).encard := Set.encard_le_encard hsub
    _ ≤ others.encard + 1 := Set.encard_insert_le _ _
    _ ≤ 1 + 1 := by gcongr
    _ = 2 := one_add_one_eq_two

theorem Plural.getLast? {s w : List Char} (h : Plural s w) : w.getLast? = some 's' := by
  cases h <;> simp

theorem Plural.length_lt {s w : List Char} (h : Plural s w) : s.length < w.length := by
  cases h <;> simp

end Scaffold.Naming

namespace Scaffold.Entity

open Naming Text

/-- Tables and cache keys. -/
theorem modulePlural_eq_iff {a b : String} :
    (named a).modulePlural = (named b).modulePlural ↔ SameStem (lower a) (lower b) :=
  pluralize_eq_iff

/-- Routes. -/
theorem routeSegment_eq_iff {a b : String} :
    (named a).routeSegment = (named b).routeSegment ↔ SameStem (kebab a) (kebab b) := by
  rw [← pluralize_eq_iff, ← kebab_pluralize_lower, ← kebab_pluralize_lower]
  rfl

/-- Two texts have one plural exactly if they have the same stem, so a table, a cache key or a route
is shared by exactly these names. A plural has two singulars at most, ends in `s` and is no text's
own singular. -/
theorem plurals_shared :
    (∀ a b, pluralize a = pluralize b ↔ SameStem a b) ∧
    (∀ a b, (named a).modulePlural = (named b).modulePlural ↔ SameStem (lower a) (lower b)) ∧
    (∀ a b, (named a).routeSegment = (named b).routeSegment ↔ SameStem (kebab a) (kebab b)) ∧
    (∀ w, {s | pluralize s = w}.encard ≤ 2) ∧
    ∀ s, (pluralize s).toList.getLast? = some 's' ∧ pluralize s ≠ s := by
  refine ⟨fun a b => pluralize_eq_iff, fun a b => modulePlural_eq_iff,
    fun a b => routeSegment_eq_iff, encard_pluralize_le, fun s => ⟨?_, fun h => ?_⟩⟩
  · rw [pluralize, String.toList_ofList]
    exact (plural_pluralChars s.toList).getLast?
  · have hlen := (plural_pluralChars s.toList).length_lt
    rw [pluralize, ← String.toList_inj, String.toList_ofList] at h
    rw [h] at hlen
    exact Nat.lt_irrefl _ hlen

end Scaffold.Entity
