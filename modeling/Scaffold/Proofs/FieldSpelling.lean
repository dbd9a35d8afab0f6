import Scaffold.Field
import Scaffold.Proofs.Trimming

/-!
# Spellings of fields

A field can be written in many ways: blanks may stand around its name, its type and its markers, an
optional field has any number of markers, and the default type may be left out (`Spells`). Between
the tokens of the fields blank tokens may stand (`SpellsAll`). Every spelling is read as the fields
that it spells (`parseSpec_of_spellsAll`).
-/

set_option autoImplicit false

namespace Scaffold.Field

open Text

/-- `k` optional markers. -/
def marks (k : Nat) : List Char := List.replicate k '?'

theorem marks_succ (k : Nat) : marks (k + 1) = marks k ++ ['?'] := List.replicate_succ'

/-- The token spells the field, where a type that is not written is `defaultType`. -/
inductive Spells (defaultType : String) (f : Field) : List Char → Prop
  | typed {b₁ b₂ b₃ b₄ b₅ : List Char} {k : Nat}
      (blank₁ : Blank b₁) (blank₂ : Blank b₂) (blank₃ : Blank b₃) (blank₄ : Blank b₄)
      (blank₅ : Blank b₅)
      (name_trimmed : trim f.name = f.name) (name_comma : ',' ∉ f.name.toList)
      (name_colon : ':' ∉ f.name.toList)
      (type_trimmed : trim f.type = f.type) (type_comma : ',' ∉ f.type.toList)
      (type_mark : f.type.toList.getLast? ≠ some '?')
      (required : f.required = true ↔ k = 0) :
      Spells defaultType f
        (b₁ ++ f.name.toList ++ b₂ ++ ':' :: (b₃ ++ f.type.toList ++ b₄) ++ marks k ++ b₅)
  | untyped {b₁ b₂ b₃ : List Char} {k : Nat}
      (blank₁ : Blank b₁) (blank₂ : Blank b₂) (blank₃ : Blank b₃)
      (name_nonempty : f.name ≠ "")
      (name_trimmed : trim f.name = f.name) (name_comma : ',' ∉ f.name.toList)
      (name_colon : ':' ∉ f.name.toList) (name_mark : f.name.toList.getLast? ≠ some '?')
      (type_default : f.type = defaultType)
      (required : f.required = true ↔ k = 0) :
      Spells defaultType f (b₁ ++ f.name.toList ++ b₂ ++ marks k ++ b₃)

/-- The tokens spell the fields in order, with blank tokens among them. -/
inductive SpellsAll (defaultType : String) : List Field → List (List Char) → Prop
  | nil : SpellsAll defaultType [] []
  | blank {fs : List Field} {token : List Char} {tokens : List (List Char)}
      (h : Blank token) (rest : SpellsAll defaultType fs tokens) :
      SpellsAll defaultType fs (token :: tokens)
  | field {f : Field} {fs : List Field} {token : List Char} {tokens : List (List Char)}
      (h : Spells defaultType f token) (rest : SpellsAll defaultType fs tokens) :
      SpellsAll defaultType (f :: fs) (token :: tokens)

/-! ## One token -/

/-- The markers are what is dropped at the end. -/
theorem dropEndWhile_marks {body : List Char} (h : body.getLast? ≠ some '?') (k : Nat) :
    dropEndWhile (· = '?') (body ++ marks k) = body := by
  rw [dropEndWhile_append_of_all (by simp [marks])]
  exact dropEndWhile_eq_self fun c hc => by simpa using fun he : c = '?' => h (he ▸ hc)

theorem getLast?_append_marks {body : List Char} (h : body.getLast? ≠ some '?') (k : Nat) :
    (body ++ marks k).getLast? ≠ some '?' ↔ k = 0 := by
  cases k with
  | zero => simpa [marks] using h
  | succ k => simp [marks_succ, ← List.append_assoc]

/-- Markers after a text that ends in none: they say whether the field is required, and without them
the trimmed text is left, perhaps with blanks at its end. -/
theorem exists_dropEndWhile_marks (body : List Char) (k : Nat) {b : List Char} (hb : Blank b)
    (hne : trimChars body ≠ []) (hq : (trimChars body).getLast? ≠ some '?') :
    trimChars (body ++ marks k ++ b) ≠ [] ∧ ∃ b', Blank b' ∧
      dropEndWhile (· = '?') (trimChars (body ++ marks k ++ b)) = trimChars body ++ b' ∧
      ((trimChars (body ++ marks k ++ b)).getLast? ≠ some '?' ↔ k = 0) := by
  -- the trimmed text is the trimmed body, blanks and the markers
  have hparts : ∃ b', Blank b' ∧
      trimChars (body ++ marks k ++ b) = trimChars body ++ b' ++ marks k := by
    rw [trimChars_append_blank hb]
    cases k with
    | zero => exact ⟨[], nofun, by simp [marks]⟩
    | succ k =>
      obtain ⟨b', hb', hs⟩ := exists_dropEndWhile_append isBlank (body.dropWhile isBlank)
      rw [show dropEndWhile isBlank (body.dropWhile isBlank) = trimChars body from rfl] at hs
      have hdrop : (body ++ marks k).dropWhile isBlank = body.dropWhile isBlank ++ marks k := by
        rw [List.dropWhile_append, if_neg]
        intro he
        exact hne (by rw [trimChars, List.isEmpty_iff.1 he]; rfl)
      refine ⟨b', hb', ?_⟩
      rw [marks_succ, ← List.append_assoc, trimChars_append_cons (by decide), hdrop, hs,
        List.append_assoc]
      rfl
  obtain ⟨b', hb', hm⟩ := hparts
  -- the character before the markers is the last of the text or blank
  have hlast : (trimChars body ++ b').getLast? ≠ some '?' := by
    intro hc
    rcases List.eq_nil_or_concat b' with rfl | ⟨t, c, rfl⟩
    · exact hq (by rwa [List.append_nil] at hc)
    · rw [List.concat_eq_append, ← List.append_assoc, List.getLast?_concat] at hc
      obtain rfl : c = '?' := Option.some.inj hc
      exact Blank.not_mem hb' (by decide) (show '?' ∈ t.concat '?' by simp)
  rw [hm]
  exact ⟨by simp [hne], b', hb', dropEndWhile_marks hlast k, getLast?_append_marks hlast k⟩

/-- A colon parts the name from the type, whatever blanks stand around them. -/
theorem splitColon_typed {name type : List Char} (h : ':' ∉ name) :
    splitColon (name ++ ':' :: type) = (name, some type) := by
  have hall : ∀ c ∈ name, decide (c ≠ ':') = true := fun c hc =>
    decide_eq_true fun he => h (he ▸ hc)
  rw [splitColon, List.takeWhile_append_of_pos hall, List.dropWhile_append_of_pos hall]
  simp

theorem splitColon_untyped {name : List Char} (h : ':' ∉ name) :
    splitColon name = (name, none) := by
  have hall : ∀ c ∈ name, decide (c ≠ ':') = true := fun c hc =>
    decide_eq_true fun he => h (he ▸ hc)
  rw [splitColon, ← List.append_nil name, List.takeWhile_append_of_pos hall,
    List.dropWhile_append_of_pos hall, List.append_nil]
  simp

section
variable (defaultType : String) (k : Nat) {b : List Char} (hb : Blank b)
include hb

/-- A token with a colon: what stands before the first one is the name. -/
theorem ofToken_typed {name type : List Char} (hc : ':' ∉ name)
    (hq : (trimChars type).getLast? ≠ some '?') :
    trimChars (name ++ ':' :: type ++ marks k ++ b) ≠ [] ∧
      ofToken defaultType (trimChars (name ++ ':' :: type ++ marks k ++ b)) =
        ⟨.ofList (trimChars name), .ofList (trimChars type), k = 0⟩ := by
  have hbody : trimChars (name ++ ':' :: type) =
      name.dropWhile isBlank ++ ':' :: dropEndWhile isBlank type :=
    trimChars_append_cons (by decide) name type
  have hq' : (trimChars (name ++ ':' :: type)).getLast? ≠ some '?' := by
    rw [hbody, List.getLast?_append, List.getLast?_cons, getLast?_dropEndWhile_isBlank]
    cases hl : (trimChars type).getLast? with
    | none => simp
    | some c => simpa [hl] using hq
  obtain ⟨hne, b', hb', hd, hm⟩ := exists_dropEndWhile_marks (name ++ ':' :: type) k hb
    (by simp [hbody]) hq'
  have hc' : ':' ∉ name.dropWhile isBlank := fun hm => hc ((List.dropWhile_sublist _).subset hm)
  have hsplit : splitColon (trimChars (name ++ ':' :: type) ++ b') =
      (name.dropWhile isBlank, some (dropEndWhile isBlank type ++ b')) := by
    rw [hbody, List.append_assoc, List.cons_append, splitColon_typed hc']
  refine ⟨hne, ?_⟩
  simp only [ofToken, hd, hsplit, trimChars_dropWhile, Option.elim_some,
    trimChars_append_blank hb', trimChars_dropEndWhile, hm]

/-- A token without a colon is a name. -/
theorem ofToken_untyped {name : List Char} (hc : ':' ∉ name) (hne : trimChars name ≠ [])
    (hq : (trimChars name).getLast? ≠ some '?') :
    trimChars (name ++ marks k ++ b) ≠ [] ∧
      ofToken defaultType (trimChars (name ++ marks k ++ b)) =
        ⟨.ofList (trimChars name), defaultType, k = 0⟩ := by
  obtain ⟨hne', b', hb', hd, hm⟩ := exists_dropEndWhile_marks name k hb hne hq
  have hc' : ':' ∉ trimChars name ++ b' := by
    intro hmem
    rcases List.mem_append.1 hmem with hmem | hmem
    · exact hc (trimChars_subset name hmem)
    · exact hb'.not_mem (by decide) hmem
  refine ⟨hne', ?_⟩
  simp only [ofToken, hd, splitColon_untyped hc', trimChars_append_blank hb', trimChars_trimChars,
    Option.elim_none, hm]

end

section
variable {defaultType : String} {f : Field} {token : List Char} (h : Spells defaultType f token)
include h

theorem Spells.comma : ',' ∉ token := by
  have hb : ∀ {b : List Char}, Blank b → ',' ∉ b := fun hb => hb.not_mem (by decide)
  have hk : ∀ k, ',' ∉ marks k := fun k hm => by simp [marks] at hm
  cases h with
  | typed h₁ h₂ h₃ h₄ h₅ _ hnc _ _ htc _ _ =>
    simp [hb h₁, hb h₂, hb h₃, hb h₄, hb h₅, hnc, htc, hk]
  | untyped h₁ h₂ h₃ _ _ hnc _ _ _ _ => simp [hb h₁, hb h₂, hb h₃, hnc, hk]

/-- **One token.** Every spelling of a field is read as the field. -/
theorem Spells.ofToken :
    trimChars token ≠ [] ∧ Field.ofToken defaultType (trimChars token) = f := by
  have hb : ∀ {b : List Char}, Blank b → ':' ∉ b := fun hb => hb.not_mem (by decide)
  cases h with
  | @typed b₁ b₂ b₃ b₄ b₅ k h₁ h₂ h₃ h₄ h₅ hn _ hc ht _ hq hr =>
    have hname := trimChars_padded h₁ h₂ hn
    have htype := trimChars_padded h₃ h₄ ht
    obtain ⟨hne, ho⟩ := ofToken_typed defaultType k h₅
      (show ':' ∉ b₁ ++ f.name.toList ++ b₂ by simp [hb h₁, hb h₂, hc]) (by rwa [htype])
    refine ⟨hne, ho.trans ?_⟩
    rw [hname, htype]
    simp [← hr]
  | @untyped b₁ b₂ b₃ k h₁ h₂ h₃ hne hn _ hc hq ht hr =>
    have hname := trimChars_padded h₁ h₂ hn
    obtain ⟨hne', ho⟩ := ofToken_untyped defaultType k h₃
      (show ':' ∉ b₁ ++ f.name.toList ++ b₂ by simp [hb h₁, hb h₂, hc])
      (by rw [hname]; simpa using hne) (by rwa [hname])
    refine ⟨hne', ho.trans ?_⟩
    rw [hname]
    simp [← hr, ← ht]

end

/-! ## The specification -/

theorem SpellsAll.comma {defaultType : String} {fs : List Field} {ts : List (List Char)}
    (h : SpellsAll defaultType fs ts) : ∀ token ∈ ts, ',' ∉ token := by
  induction h with
  | nil => nofun
  | blank hb _ ih =>
    exact List.forall_mem_cons.2 ⟨hb.not_mem (by decide), ih⟩
  | field hs _ ih => exact List.forall_mem_cons.2 ⟨hs.comma, ih⟩

/-- The tokens that are joined by commas are found again. -/
theorem tokens_intercalate {ts : List (List Char)} (h : ∀ token ∈ ts, ',' ∉ token) :
    tokens ([','].intercalate ts) = (ts.map trimChars).filter (!·.isEmpty) := by
  rcases ts.eq_nil_or_concat with rfl | ⟨_, _, rfl⟩
  · rfl
  · rw [tokens, List.splitOn_intercalate ',' h (by simp)]

/-- **Every spelling is accepted.** -/
theorem parseSpec_of_spellsAll {defaultType : String} {fs : List Field} {ts : List (List Char)}
    (h : SpellsAll defaultType fs ts) :
    parseSpec defaultType (.ofList ([','].intercalate ts)) = fs := by
  rw [parseSpec, String.toList_ofList, tokens_intercalate h.comma]
  induction h with
  | nil => rfl
  | blank hb _ ih => rwa [List.map_cons, trimChars_blank hb]
  | field hs _ ih =>
    obtain ⟨hne, ho⟩ := hs.ofToken
    rw [List.map_cons, List.filter_cons_of_pos (by simpa using hne), List.map_cons, ho, ih]

/-- Blank tokens at both ends, blanks around a name and a type, and two markers. -/
theorem parseSpec_of_spellsAll_padded :
    let fs : List Field := [⟨"title", "map:string", true⟩, ⟨"body", "string", false⟩]
    let ts := ["  ".toList, "title : map:string ".toList, " body\t??".toList, []]
    SpellsAll "string" fs ts ∧ parseSpec "string" (.ofList ([','].intercalate ts)) = fs := by
  intro fs ts
  have title : Spells "string" ⟨"title", "map:string", true⟩ ([] ++ "title".toList ++ [' '] ++
      ':' :: ([' '] ++ "map:string".toList ++ [' ']) ++ marks 0 ++ []) :=
    .typed (by decide) (by decide) (by decide) (by decide) (by decide) (by decide) (by decide)
      (by decide) (by decide) (by decide) (by decide) (by decide)
  have body : Spells "string" ⟨"body", "string", false⟩
      ([' '] ++ "body".toList ++ ['\t'] ++ marks 2 ++ []) :=
    .untyped (by decide) (by decide) (by decide) (by decide) (by decide) (by decide) (by decide)
      (by decide) rfl (by decide)
  have h : SpellsAll "string" fs ts :=
    .blank (by decide) (.field title (.field body (.blank (by decide) .nil)))
  exact ⟨h, parseSpec_of_spellsAll h⟩

end Scaffold.Field
