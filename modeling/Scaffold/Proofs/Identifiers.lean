import Mathlib.Data.List.Forall2
import Scaffold.Proofs.CaseMapping
import Scaffold.Proofs.Splitting
import Scaffold.Registry

/-!
# Names up to letter case and separators

Names whose separators are exchanged for one another are `Alike`. Lower-casing and the plural keep
them alike, for no rule tells one separator from the other (`Alike.lowerChars`,
`Alike.pluralChars`), and the four styles make them equal (`Ident.of_eq`). What the letter case of a
name leaves behind is its raw text alone (`Entity.named_lower`), which no file reads
(`Generator.artifacts_raw`). A character without case is in an identifier only if it is in the name
(`Caseless.mem_of_mem_pascal` and its neighbours).
-/

set_option autoImplicit false

namespace Scaffold.Naming

open Text

/-! ## Separators -/

/-- The same character, or two separators. -/
def AlikeChar (c d : Char) : Prop := c = d ∨ isSeparator c = true ∧ isSeparator d = true

/-- The second text is the first one with some of its separators exchanged for one another. -/
abbrev Alike (s t : List Char) : Prop := List.Forall₂ AlikeChar s t

instance (c d : Char) : Decidable (AlikeChar c d) := inferInstanceAs (Decidable (_ ∨ _))

theorem isSeparator_iff {c : Char} : isSeparator c = true ↔ c = '-' ∨ c = '_' := by
  simp [isSeparator]

theorem caseless_of_isSeparator {c : Char} (h : isSeparator c = true) : Caseless c := by
  rcases isSeparator_iff.1 h with rfl | rfl
  · decide +kernel
  · decide +kernel

/-- Two separators are alike to a test that holds of neither or of both. -/
theorem AlikeChar.congr {α : Type} {c d : Char} (h : AlikeChar c d) (p : Char → α)
    (hp : p '-' = p '_') : p c = p d := by
  rcases h with rfl | ⟨hc, hd⟩
  · rfl
  · rcases isSeparator_iff.1 hc with rfl | rfl <;> rcases isSeparator_iff.1 hd with rfl | rfl <;>
      simp [hp]

theorem AlikeChar.lowerChar {c d : Char} (h : AlikeChar c d) :
    Alike (lowerChar c) (lowerChar d) := by
  rcases h with rfl | ⟨hc, hd⟩
  · exact List.forall₂_same.2 fun _ _ => .inl rfl
  · rw [(caseless_of_isSeparator hc).lowerChar_eq, (caseless_of_isSeparator hd).lowerChar_eq]
    exact .cons (.inr ⟨hc, hd⟩) .nil

namespace Alike

variable {s t : List Char}

theorem refl (s : List Char) : Alike s s := List.forall₂_same.2 fun _ _ => .inl rfl

theorem append {s' t' : List Char} (h : Alike s t) (h' : Alike s' t') :
    Alike (s ++ s') (t ++ t') := List.rel_append h h'

/-! ### Lower case -/

theorem startsCased (h : Alike s t) : startsCased s = startsCased t := by
  induction h with
  | nil => rfl
  | @cons c d s t hc _ ih =>
    have hi := hc.congr isCaseIgnorable (by decide +kernel)
    have hcased := hc.congr isCased (by decide +kernel)
    cases hd : isCaseIgnorable d with
    | true =>
      rw [hd] at hi
      simpa [Text.startsCased, List.dropWhile_cons, hi, hd] using ih
    | false =>
      rw [hd] at hi
      simp [Text.startsCased, hi, hd, hcased]

theorem lowerFrom (h : Alike s t) :
    ∀ {before before' : List Char}, Alike before before' →
      Alike (lowerFrom before s) (lowerFrom before' t) := by
  induction h with
  | nil => exact fun _ => .nil
  | @cons c d s t hc hrest ih =>
    intro before before' hbefore
    refine append ?_ (ih (.cons hc hbefore))
    have hsigma : c = 'Σ' ↔ d = 'Σ' := Iff.of_eq (hc.congr (· = 'Σ') (by simp))
    by_cases hd : d = 'Σ'
    · rw [if_pos (hsigma.2 hd), if_pos hd, lowerSigma, lowerSigma, hbefore.startsCased,
        Alike.startsCased hrest]
      exact refl _
    · rw [if_neg (mt hsigma.1 hd), if_neg hd]
      exact hc.lowerChar

theorem lowerChars (h : Alike s t) : Alike (lowerChars s) (lowerChars t) := h.lowerFrom .nil

/-! ### The plural -/

/-- A text without separators ends both or neither. -/
theorem suffix_iff (h : Alike s t) {w : List Char} (hw : ∀ c ∈ w, isSeparator c = false) :
    w <:+ s ↔ w <:+ t := by
  have hsuffix : ∀ {s t : List Char}, Alike s t → w <:+ t → w <:+ s := by
    rintro s _ hst ⟨p, rfl⟩
    have hend : Alike (s.drop p.length) w := List.forall₂_drop_append s p w hst
    have heq : w = s.drop p.length := by
      rw [← List.forall₂_eq_eq_eq]
      refine ((List.forall₂_and_left w _).2 ⟨hw, hend.flip⟩).imp fun d c hcd => ?_
      obtain ⟨hd, rfl | ⟨-, hd'⟩⟩ := hcd
      · rfl
      · rw [hd] at hd'
        cases hd'
    exact heq ▸ List.drop_suffix _ _
  have hsymm : Alike t s := h.flip.imp fun c d hcd => hcd.imp Eq.symm And.symm
  exact ⟨hsuffix hsymm, hsuffix h⟩

theorem pluralChars (h : Alike s t) : Alike (pluralChars s) (pluralChars t) := by
  have hy : s.getLast? = some 'y' ↔ t.getLast? = some 'y' := by
    simp only [List.getLast?_eq_some_iff]
    have := h.suffix_iff (w := ['y']) (by simp [isSeparator])
    simpa [List.IsSuffix, eq_comm] using this
  have hsib : sibilants.any (·.isSuffixOf s) = sibilants.any (·.isSuffixOf t) := by
    have hall : ∀ w ∈ sibilants, ∀ c ∈ w, isSeparator c = false := by
      simp [sibilants, isSeparator]
    rw [Bool.eq_iff_iff, List.any_eq_true, List.any_eq_true]
    simp only [List.isSuffixOf_iff_suffix]
    exact exists_congr fun w => and_congr_right fun hw => h.suffix_iff (hall w hw)
  unfold Naming.pluralChars
  by_cases hl : t.getLast? = some 'y'
  · rw [if_pos (hy.2 hl), if_pos hl, List.dropLast_eq_take, List.dropLast_eq_take, h.length_eq]
    exact append (List.forall₂_take _ h) (refl _)
  · rw [if_neg (mt hy.1 hl), if_neg hl, hsib]
    split
    · exact h.append (refl _)
    · exact h.append (refl _)

/-! ### Styles -/

theorem segments_eq (h : Alike s t) : segments s = segments t := by
  have hsplit : s.splitOnP isSeparator = t.splitOnP isSeparator := by
    induction h with
    | nil => rfl
    | @cons c d s t hc _ ih =>
      rw [List.splitOnP_cons_eq_if_modifyHead, List.splitOnP_cons_eq_if_modifyHead, ih]
      rcases hc with rfl | ⟨hc, hd⟩
      · rfl
      · rw [if_pos hc, if_pos hd]
  rw [segments, segments, hsplit]

/-- With one separator written for the other, the texts are equal. -/
theorem exchange_eq (h : Alike s t) (old new : Char) (hold : isSeparator old = true)
    (hnew : isSeparator new = true) (hne : old ≠ new) :
    exchange old new s = exchange old new t := by
  have hsep : ∀ c, isSeparator c = true → (if c = old then new else c) = new := fun c hc => by
    rcases isSeparator_iff.1 hc with rfl | rfl <;> rcases isSeparator_iff.1 hold with rfl | rfl <;>
      rcases isSeparator_iff.1 hnew with rfl | rfl <;> simp_all
  induction h with
  | nil => rfl
  | @cons c d s t hc _ ih =>
    rw [exchange, exchange, List.map_cons, List.map_cons]
    refine congrArg₂ List.cons ?_ ih
    rcases hc with rfl | ⟨hc, hd⟩
    · rfl
    · rw [hsep c hc, hsep d hd]

end Alike

/-! ## Characters without case -/

section Caseless

variable {c : Char} {s : List Char}

theorem mem_of_mem_segments {segment : List Char} (h : segment ∈ segments s) (hc : c ∈ segment) :
    c ∈ s :=
  mem_of_mem_splitOnP (List.mem_filter.1 h).1 hc

/-- Segments hold no separator. -/
theorem isSeparator_of_mem_segments {segment : List Char} (h : segment ∈ segments s)
    (hc : c ∈ segment) : isSeparator c = false :=
  of_mem_splitOnP (List.mem_filter.1 h).1 hc

theorem mem_of_mem_exchange {old new : Char} (hne : c ≠ new) (h : c ∈ exchange old new s) :
    c ∈ s := by
  obtain ⟨d, hd, he⟩ := List.mem_map.1 h
  split at he
  · exact absurd he.symm hne
  · exact he ▸ hd

theorem mem_of_mem_pluralize {name : String} (hc : c ∉ ['i', 'e', 's'])
    (h : c ∈ (pluralize name).toList) : c ∈ name.toList := by
  simp only [List.mem_cons, List.not_mem_nil, or_false, not_or] at hc
  rw [pluralize, String.toList_ofList, pluralChars] at h
  split at h
  · refine (List.mem_append.1 h).elim (List.dropLast_subset _ ·) fun h => ?_
    simp [hc] at h
  · split at h <;> simpa [hc] using h

end Caseless

end Scaffold.Naming

namespace Scaffold.Text.Caseless

open Naming

variable {c : Char} (h : Caseless c) {s : List Char} {name : String}
include h

theorem mem_lower : c ∈ (Text.lower name).toList ↔ c ∈ name.toList := by
  rw [Text.lower, String.toList_ofList, h.mem_lowerChars]

theorem mem_of_mem_capitalizeChars (hc : c ∈ capitalizeChars s) : c ∈ s := by
  cases s with
  | nil => exact hc
  | cons d rest =>
    refine (List.mem_append.1 hc).elim (fun hc => ?_) fun hc => .tail _ ?_
    · rw [h.mem_upperChar.1 hc]
      exact .head _
    · obtain ⟨d, hd, hc⟩ := List.mem_flatMap.1 hc
      exact h.mem_lowerChar.1 hc ▸ hd

/-- A text made of capitalized segments. -/
theorem mem_of_mem_capitalized {segments : List (List Char)} (hs : segments ⊆ Naming.segments s)
    (hc : c ∈ segments.flatMap capitalizeChars) : c ∈ s := by
  obtain ⟨segment, hseg, hc⟩ := List.mem_flatMap.1 hc
  exact mem_of_mem_segments (hs hseg) (h.mem_of_mem_capitalizeChars hc)

theorem mem_of_mem_pascal (hc : c ∈ (pascal name).toList) : c ∈ name.toList := by
  rw [pascal, String.toList_ofList] at hc
  exact h.mem_of_mem_capitalized (List.Subset.refl _) hc

theorem mem_of_mem_camel (hc : c ∈ (camel name).toList) : c ∈ name.toList := by
  rw [camel, String.toList_ofList, camelChars] at hc
  split at hc
  · cases hc
  · rename_i first rest hs
    refine (List.mem_append.1 hc).elim (fun hc => ?_) fun hc => ?_
    · exact mem_of_mem_segments (hs ▸ .head _) (h.mem_lowerChars.1 hc)
    · exact h.mem_of_mem_capitalized (hs ▸ List.subset_cons_self _ _) hc

theorem mem_of_mem_kebab (hne : c ≠ '-') (hc : c ∈ (kebab name).toList) : c ∈ name.toList := by
  rw [kebab, String.toList_ofList, kebabChars] at hc
  exact h.mem_lowerChars.1 (mem_of_mem_exchange hne hc)

end Scaffold.Text.Caseless

namespace Scaffold

open Naming Text

/-! ## One entity for many spellings -/

/-- Alike names have the same identifiers. -/
theorem Ident.of_eq {s t : String} (h : Alike s.toList t.toList) : Ident.of s = Ident.of t := by
  have hl := h.lowerChars
  simp only [Ident.of, Naming.pascal, Naming.camel, Naming.snake, Naming.kebab, pascalChars,
    camelChars, snakeChars, kebabChars, h.segments_eq,
    hl.exchange_eq '-' '_' rfl rfl (by decide), hl.exchange_eq '_' '-' rfl rfl (by decide)]

/-- No file reads the name as it was given. -/
theorem Generator.artifacts_raw (g : Generator) (b : Blueprint) (raw : String) :
    g.artifacts { b with entity.raw := raw } = g.artifacts b := by
  cases g <;> rfl

namespace Entity

/-- The letter case of a name is left in its raw text alone. -/
theorem named_lower (name : String) :
    named (lower name) = { named name with raw := lower name } := by
  rw [named, named, lower_lower]

theorem named_plural_eq {s t : String} (h : Alike s.toList t.toList) :
    (named s).plural = (named t).plural := by
  refine Ident.of_eq ?_
  simp only [pluralize, lower, String.toList_ofList]
  exact h.lowerChars.pluralChars

end Entity

/-- A request for the lower-cased name has the same answer, but for the raw text. -/
theorem Registry.run_lower (r : Registry) (q : Request) :
    r.run { q with name := lower q.name } =
      (r.run q).map fun g => { g with entity.raw := lower q.name } := by
  unfold Registry.run
  cases r.get q.stack with
  | error e => rfl
  | ok g =>
    have hraw := g.artifacts_raw ⟨.named q.name, g.stack.parseFields q.fields, q.project, q.options⟩
      (lower q.name)
    rw [Entity.named_lower]
    exact congrArg (fun files => Except.ok (Generation.mk g.stack _ _ files)) hraw

/-- A name stands for the same entity in every letter case and with every separator: lower-casing
it changes the raw text alone and no generated file, and the names that it is alike to have its
identifiers and its route. -/
theorem Entity.named_alike (n : String) :
    named (lower n) = { named n with raw := lower n } ∧
    (∀ (r : Registry) (stack fields project : String) (options : Options),
      r.run ⟨stack, lower n, fields, project, options⟩ =
        (r.run ⟨stack, n, fields, project, options⟩).map
          fun g => { g with entity.raw := lower n }) ∧
    ∀ m, Alike n.toList m.toList →
      (named m).singular = (named n).singular ∧ (named m).plural = (named n).plural ∧
      (named m).routeSegment = (named n).routeSegment := by
  refine ⟨named_lower n, fun r stack fields project options => ?_, fun m h => ?_⟩
  · exact r.run_lower ⟨stack, n, fields, project, options⟩
  · have hl : Alike (lower n).toList (lower m).toList := by
      simpa only [lower, String.toList_ofList] using h.lowerChars
    have hp := named_plural_eq h
    exact ⟨(Ident.of_eq hl).symm, hp.symm, congrArg Ident.kebab hp.symm⟩

theorem Entity.named_alike_sigma :
    Alike "ORDER-Σ_x".toList "ORDER_Σ-x".toList ∧
    (named "ORDER_Σ-x").singular = (named "ORDER-Σ_x").singular := by
  have h : Alike "ORDER-Σ_x".toList "ORDER_Σ-x".toList := by decide +kernel
  exact ⟨h, ((named_alike "ORDER-Σ_x").2.2 _ h).1⟩

end Scaffold
