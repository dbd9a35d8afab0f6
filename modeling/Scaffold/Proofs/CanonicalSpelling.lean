import Scaffold.Proofs.FieldTokens

/-!
# The canonical spelling of what was read

`canonical` spells a field with its type and with one marker if it is optional. Read again, it gives
the field without the markers that its type ends in (`parseSpec_canonicalSpec`). One kind of token
alone leaves a marker in a type: after the colon a marker, blanks, and more markers
(`HasPartedMarks`), for the markers at the end are dropped before the blanks are
(`isMarked_ofToken_iff`). So what is read from a specification is read from its canonical spelling
too, unless the specification holds such a token (`parseSpec_canonicalSpec_iff`).
-/

set_option autoImplicit false

namespace Scaffold.Field

open Text

/-- Name, colon, type, and one marker if the field is optional. -/
def canonical (f : Field) : List Char :=
  f.name.toList ++ ':' :: f.type.toList ++ marks (if f.required then 0 else 1)

/-- The canonical spellings of the fields, between commas. -/
def canonicalSpec (fs : List Field) : String := .ofList ([','].intercalate (fs.map canonical))

/-- The type ends in an optional marker. -/
def IsMarked (f : Field) : Prop := f.type.toList.getLast? = some '?'

instance (f : Field) : Decidable f.IsMarked := inferInstanceAs (Decidable (_ = _))

/-- The field without the markers at the end of its type. -/
def unmarked (f : Field) : Field :=
  { f with type := .ofList (trimChars (dropEndWhile (· = '?') f.type.toList)) }

/-- Behind the colon the token has a marker that blanks part from the markers at its end. -/
def HasPartedMarks (token : List Char) : Prop :=
  ∃ body b k, ':' ∈ body ∧ b ≠ [] ∧ Blank b ∧ token = body ++ '?' :: b ++ marks (k + 1)

theorem HasPartedMarks.getLast? {token : List Char} (h : HasPartedMarks token) :
    token.getLast? = some '?' := by
  obtain ⟨body, b, k, -, -, -, rfl⟩ := h
  rw [marks_succ, ← List.append_assoc, List.getLast?_concat]

/-! ## Markers in types -/

theorem getLast?_append_blank {s b : List Char} (hne : b ≠ []) (hb : Blank b) :
    (s ++ b).getLast? ≠ some '?' := by
  obtain ⟨t, c, rfl⟩ := (List.eq_nil_or_concat b).resolve_left hne
  rw [List.concat_eq_append, ← List.append_assoc, List.getLast?_concat]
  rintro ⟨⟩
  exact hb.not_mem (show isBlank '?' = false by decide) (by simp)

theorem HasPartedMarks.isMarked (defaultType : String) {token : List Char}
    (h : HasPartedMarks token) : IsMarked (ofToken defaultType token) := by
  obtain ⟨body, b, k, hcolon, hne, hb, rfl⟩ := h
  obtain ⟨name, type, rfl, hname⟩ := List.eq_append_cons_of_mem hcolon
  have htoken : name ++ ':' :: type ++ '?' :: b ++ marks (k + 1) =
      name ++ ':' :: (type ++ ['?'] ++ b) ++ marks (k + 1) := by simp
  have htype : trimChars (type ++ ['?'] ++ b) = type.dropWhile isBlank ++ ['?'] := by
    rw [trimChars_append_blank hb, trimChars_append_cons (by decide)]
    rfl
  rw [htoken, ofToken_name_type defaultType _ hname (getLast?_append_blank hne hb), IsMarked,
    String.toList_ofList, htype, List.getLast?_concat]

section
variable {defaultType : String} {token : List Char}
  (mark : defaultType.toList.getLast? ≠ some '?') (trimmed : trimChars token = token)
include mark trimmed

theorem HasPartedMarks.of_isMarked (h : IsMarked (ofToken defaultType token)) :
    HasPartedMarks token := by
  cases shape token with
  | @name name k colon hname =>
    rw [ofToken_name defaultType k colon hname] at h
    exact absurd h mark
  | @typed name type k colon htype =>
    rw [ofToken_name_type defaultType k colon htype, IsMarked, String.toList_ofList,
      ← getLast?_dropEndWhile_isBlank, List.getLast?_eq_some_iff] at h
    obtain ⟨t, ht⟩ := h
    obtain ⟨b, hb, hs⟩ := exists_dropEndWhile_append isBlank type
    rw [ht] at hs
    subst hs
    have hne : b ≠ [] := by
      rintro rfl
      rw [List.append_nil, List.getLast?_concat] at htype
      exact htype rfl
    cases k with
    | zero =>
      -- without markers behind them the blanks would end the token
      have htoken : name ++ ':' :: (t ++ ['?'] ++ b) ++ marks 0 =
          name ++ ':' :: t ++ ['?'] ++ b := by simp [marks]
      rw [htoken] at trimmed
      exact absurd (eq_nil_of_trimChars_append trimmed hb) hne
    | succ k => exact ⟨name ++ ':' :: t, b, k, by simp, hne, hb, by simp⟩

/-- A type is read with a marker at its end exactly if blanks part the markers of the token. -/
theorem isMarked_ofToken_iff : IsMarked (ofToken defaultType token) ↔ HasPartedMarks token :=
  ⟨.of_isMarked mark trimmed, fun h => h.isMarked defaultType⟩

theorem required_of_isMarked (h : IsMarked (ofToken defaultType token)) :
    (ofToken defaultType token).required = false := by
  have hlast := ((isMarked_ofToken_iff mark trimmed).1 h).getLast?
  simp [ofToken, hlast]

end

/-! ## Reading it again -/

/-- A field that can be spelt canonically. -/
structure IsSpellable (f : Field) : Prop where
  name_trimmed : trim f.name = f.name
  name_comma : ',' ∉ f.name.toList
  name_colon : ':' ∉ f.name.toList
  type_trimmed : trim f.type = f.type
  type_comma : ',' ∉ f.type.toList
  required : IsMarked f → f.required = false

namespace IsSpellable

variable {f : Field} (h : IsSpellable f)
include h

theorem trimChars_canonical : trimChars (canonical f) = canonical f := by
  have hname : f.name.toList.dropWhile isBlank = f.name.toList := by
    rw [← trim_eq_self.1 h.name_trimmed, dropWhile_trimChars]
  have htype : ∀ k, dropEndWhile isBlank (f.type.toList ++ marks k) = f.type.toList ++ marks k := by
    intro k
    refine dropEndWhile_eq_self fun c hc => ?_
    cases k with
    | zero =>
      rw [marks, List.replicate_zero, List.append_nil, ← trim_eq_self.1 h.type_trimmed] at hc
      exact of_getLast?_trimChars hc
    | succ k =>
      rw [marks_succ, ← List.append_assoc, List.getLast?_concat] at hc
      cases hc
      decide
  rw [canonical, List.append_assoc, List.cons_append, trimChars_append_cons (by decide), hname,
    htype]

theorem comma_not_mem_canonical : ',' ∉ canonical f := by
  simp [canonical, h.name_comma, h.type_comma, marks]

theorem unmarked_eq_iff : unmarked f = f ↔ ¬ IsMarked f := by
  have htype : unmarked f = f ↔
      trimChars (dropEndWhile (· = '?') f.type.toList) = f.type.toList := by
    rw [← String.toList_ofList (l := trimChars _), String.toList_inj]
    exact ⟨congrArg Field.type, fun ht => by rw [unmarked, ht]⟩
  obtain ⟨k, hk⟩ := exists_append_marks f.type.toList
  rw [htype]
  constructor
  · intro ht hmark
    -- a marker that is dropped leaves the type shorter
    have hlen := (trimChars_sublist (dropEndWhile (· = '?') f.type.toList)).length_le
    have hk' := congrArg List.length hk
    rw [ht] at hlen
    rw [List.length_append, marks, List.length_replicate] at hk'
    obtain rfl : k = 0 := by omega
    rw [marks, List.replicate_zero, List.append_nil] at hk
    exact getLast?_dropEndWhile_mark f.type.toList (hk ▸ hmark)
  · intro hmark
    have hself := dropEndWhile_marks hmark 0
    rw [marks, List.replicate_zero, List.append_nil] at hself
    rw [hself, trim_eq_self.1 h.type_trimmed]

/-- The canonical spelling is read as the field without the markers in its type. -/
theorem ofToken_canonical (defaultType : String) :
    ofToken defaultType (canonical f) = unmarked f := by
  obtain ⟨j, hj⟩ := exists_append_marks f.type.toList
  have hrequired : (j + if f.required then 0 else 1) = 0 ↔ f.required = true := by
    cases hr : f.required with
    | false => simp
    | true =>
      have hmark : ¬ IsMarked f := fun hm => by
        rw [h.required hm] at hr
        cases hr
      have hlast := (getLast?_append_marks (getLast?_dropEndWhile_mark f.type.toList) j).1
      rw [← hj] at hlast
      simpa using hlast hmark
  have hcanonical : canonical f = f.name.toList ++ ':' :: dropEndWhile (· = '?') f.type.toList ++
      marks (j + if f.required then 0 else 1) := by
    rw [canonical]
    conv => lhs; rw [hj]
    simp [marks, List.replicate_append_replicate]
  rw [hcanonical, ofToken_name_type defaultType _ h.name_colon (getLast?_dropEndWhile_mark _),
    trim_eq_self.1 h.name_trimmed, String.ofList_toList, unmarked]
  simp only [hrequired, Bool.decide_eq_true]

end IsSpellable

/-- Fields read from their canonical spellings lose the markers that their types end in. -/
theorem parseSpec_canonicalSpec (defaultType : String) {fs : List Field}
    (h : ∀ f ∈ fs, IsSpellable f) :
    parseSpec defaultType (canonicalSpec fs) = fs.map unmarked := by
  have htokens : tokens ([','].intercalate (fs.map canonical)) = fs.map canonical := by
    have hcomma : ∀ token ∈ fs.map canonical, ',' ∉ token :=
      List.forall_mem_map.2 fun f hf => (h f hf).comma_not_mem_canonical
    have htrim : (fs.map canonical).map trimChars = fs.map canonical := by
      rw [List.map_map]
      exact List.map_congr_left fun f hf => (h f hf).trimChars_canonical
    rw [tokens_intercalate hcomma, htrim]
    exact List.filter_eq_self.2 (List.forall_mem_map.2 fun f _ => by simp [canonical])
  rw [parseSpec, canonicalSpec, String.toList_ofList, htokens, List.map_map]
  exact List.map_congr_left fun f hf => (h f hf).ofToken_canonical defaultType

section
variable {defaultType : String} (trimmed : trim defaultType = defaultType)
  (comma : ',' ∉ defaultType.toList) (mark : defaultType.toList.getLast? ≠ some '?')
include trimmed comma mark

theorem isSpellable_of_mem_parseSpec {spec : String} {f : Field}
    (hf : f ∈ parseSpec defaultType spec) : IsSpellable f := by
  obtain ⟨token, htoken, rfl⟩ := List.mem_map.1 hf
  obtain ⟨name_trimmed, name_comma, name_colon, htype⟩ :=
    isClean_ofToken defaultType (comma_not_mem_token htoken)
  have htype : trim (ofToken defaultType token).type = (ofToken defaultType token).type ∧
      ',' ∉ (ofToken defaultType token).type.toList := by
    rcases htype with htype | htype
    · rw [htype]
      exact ⟨trimmed, comma⟩
    · exact htype
  exact ⟨name_trimmed, name_comma, name_colon, htype.1, htype.2,
    required_of_isMarked mark (trimChars_token htoken)⟩

/-- Read again from the canonical spelling, the fields of a specification lose the markers at the
ends of their types. They come back as they were exactly if no type ends in a marker, and that is
exactly if the specification has no token in which blanks part the markers. -/
theorem parseSpec_canonicalSpec_iff (spec : String) :
    parseSpec defaultType (canonicalSpec (parseSpec defaultType spec)) =
      (parseSpec defaultType spec).map unmarked ∧
    (parseSpec defaultType (canonicalSpec (parseSpec defaultType spec)) =
        parseSpec defaultType spec ↔
      ∀ f ∈ parseSpec defaultType spec, ¬ IsMarked f) ∧
    ((∀ f ∈ parseSpec defaultType spec, ¬ IsMarked f) ↔
      ∀ token ∈ tokens spec.toList, ¬ HasPartedMarks token) := by
  have hspellable : ∀ f ∈ parseSpec defaultType spec, IsSpellable f := fun f =>
    isSpellable_of_mem_parseSpec trimmed comma mark
  have hread := parseSpec_canonicalSpec defaultType hspellable
  refine ⟨hread, ?_, ?_⟩
  · rw [hread]
    conv => lhs; rhs; rw [← List.map_id (parseSpec defaultType spec)]
    rw [List.map_inj_left]
    exact forall₂_congr fun f hf => (hspellable f hf).unmarked_eq_iff
  · exact List.forall_mem_map.trans <| forall₂_congr fun token htoken =>
      not_congr (isMarked_ofToken_iff mark (trimChars_token htoken))

end

/-- Blanks around the markers and a colon in the type. -/
theorem parseSpec_canonicalSpec_iff_colon :
    trim "string" = "string" ∧ ',' ∉ "string".toList ∧ "string".toList.getLast? ≠ some '?' ∧
    parseSpec "string" (canonicalSpec (parseSpec "string" " a ,, tags : map:x ?? ")) =
      parseSpec "string" " a ,, tags : map:x ?? " := by
  have trimmed : trim "string" = "string" := by decide
  have comma : ',' ∉ "string".toList := by decide
  have mark : "string".toList.getLast? ≠ some '?' := by decide
  refine ⟨trimmed, comma, mark, ?_⟩
  refine (parseSpec_canonicalSpec_iff trimmed comma mark _).2.1.2 ?_
  decide

/-- Blanks between the markers leave one of them in the type, and it is lost when the canonical
spelling is read. -/
theorem parseSpec_canonicalSpec_parted :
    trim "string" = "string" ∧ ',' ∉ "string".toList ∧ "string".toList.getLast? ≠ some '?' ∧
    parseSpec "string" "a:b? ?" = [⟨"a", "b?", false⟩] ∧
    parseSpec "string" (canonicalSpec (parseSpec "string" "a:b? ?")) ≠
      parseSpec "string" "a:b? ?" := by
  decide

end Scaffold.Field
