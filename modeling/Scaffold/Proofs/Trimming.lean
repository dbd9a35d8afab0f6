import Scaffold.Text.Blank

/-!
# Trimming

What the ends of a text lose. Up to a character that stays, both ends are trimmed on their own
(`dropWhile_append_cons`, `dropEndWhile_append_cons`, `trimChars_append_cons`), and blanks around a
text make no difference (`trimChars_blank_append`, `trimChars_append_blank`).
-/

set_option autoImplicit false

namespace Scaffold.Text

/-! ## One end -/

section
variable {p : Char → Bool}

theorem dropWhile_append_cons {c : Char} (h : p c = false) (s t : List Char) :
    (s ++ c :: t).dropWhile p = s.dropWhile p ++ c :: t := by
  rw [List.dropWhile_append, List.dropWhile_cons_of_neg (by simp [h])]
  split
  · rename_i he
    rw [List.isEmpty_iff.1 he, List.nil_append]
  · rfl

theorem of_dropWhile_eq_cons {s t : List Char} {c : Char} (h : s.dropWhile p = c :: t) :
    p c = false := by
  have hhead := List.head?_dropWhile_not p s
  rwa [h] at hhead

theorem dropEndWhile_append_cons {c : Char} (h : p c = false) (s t : List Char) :
    dropEndWhile p (s ++ c :: t) = s ++ c :: dropEndWhile p t := by
  simp [dropEndWhile, dropWhile_append_cons h]

theorem dropEndWhile_append_of_all {t : List Char} (h : ∀ c ∈ t, p c = true) (s : List Char) :
    dropEndWhile p (s ++ t) = dropEndWhile p s := by
  rw [dropEndWhile, List.reverse_append, List.dropWhile_append_of_pos (by simpa using h),
    dropEndWhile]

/-- What is dropped at the end satisfies the condition. -/
theorem exists_dropEndWhile_append (p : Char → Bool) (s : List Char) :
    ∃ t, (∀ c ∈ t, p c = true) ∧ s = dropEndWhile p s ++ t := by
  refine ⟨(s.reverse.takeWhile p).reverse, fun c hc => ?_, ?_⟩
  · exact List.all_eq_true.1 List.all_takeWhile c (List.mem_reverse.1 hc)
  · rw [dropEndWhile, ← List.reverse_append, List.takeWhile_append_dropWhile, List.reverse_reverse]

/-- What is left ends in a character that does not satisfy the condition. -/
theorem of_getLast?_dropEndWhile {s : List Char} {c : Char}
    (h : (dropEndWhile p s).getLast? = some c) : p c = false := by
  have hhead := List.head?_dropWhile_not p s.reverse
  rw [dropEndWhile, List.getLast?_reverse] at h
  rwa [h] at hhead

theorem dropEndWhile_eq_self {s : List Char} (h : ∀ c, s.getLast? = some c → p c = false) :
    dropEndWhile p s = s := by
  rcases List.eq_nil_or_concat s with rfl | ⟨t, c, rfl⟩
  · rfl
  · rw [List.concat_eq_append] at h ⊢
    exact dropEndWhile_append_cons (h c List.getLast?_concat) t []

end

/-! ## Both ends -/

/-- The text is blank. -/
def Blank (s : List Char) : Prop := ∀ c ∈ s, isBlank c = true

instance (s : List Char) : Decidable (Blank s) :=
  decidable_of_iff (s.all isBlank = true) List.all_eq_true

theorem Blank.not_mem {b : List Char} (h : Blank b) {c : Char} (hc : isBlank c = false) : c ∉ b :=
  fun hm => Bool.false_ne_true (hc.symm.trans (h c hm))

section
variable {b : List Char} (h : Blank b)
include h

theorem dropWhile_blank : b.dropWhile isBlank = [] := by
  rw [← List.append_nil b, List.dropWhile_append_of_pos h, List.dropWhile_nil]

theorem trimChars_blank : trimChars b = [] := by
  rw [trimChars, dropWhile_blank h]
  rfl

theorem trimChars_blank_append (s : List Char) : trimChars (b ++ s) = trimChars s := by
  rw [trimChars, List.dropWhile_append_of_pos h, trimChars]

theorem trimChars_append_blank (s : List Char) : trimChars (s ++ b) = trimChars s := by
  rw [trimChars, List.dropWhile_append]
  split
  · rename_i he
    rw [dropWhile_blank h, trimChars, List.isEmpty_iff.1 he]
  · rw [dropEndWhile_append_of_all h, trimChars]

end

theorem trimChars_append_cons {c : Char} (h : isBlank c = false) (s t : List Char) :
    trimChars (s ++ c :: t) = s.dropWhile isBlank ++ c :: dropEndWhile isBlank t := by
  rw [trimChars, dropWhile_append_cons h, dropEndWhile_append_cons h]

theorem trimChars_dropWhile (s : List Char) : trimChars (s.dropWhile isBlank) = trimChars s := by
  have : s = s.takeWhile isBlank ++ s.dropWhile isBlank := List.takeWhile_append_dropWhile.symm
  conv => rhs; rw [this]
  exact (trimChars_blank_append (fun c hc => List.all_eq_true.1 List.all_takeWhile c hc) _).symm

theorem trimChars_dropEndWhile (s : List Char) :
    trimChars (dropEndWhile isBlank s) = trimChars s := by
  obtain ⟨b, hb, hs⟩ := exists_dropEndWhile_append isBlank s
  conv => rhs; rw [hs]
  exact (trimChars_append_blank hb _).symm

/-- Blanks at the beginning do not change what is last. -/
theorem getLast?_dropEndWhile_isBlank (s : List Char) :
    (dropEndWhile isBlank s).getLast? = (trimChars s).getLast? := by
  have hs : s = s.takeWhile isBlank ++ s.dropWhile isBlank := List.takeWhile_append_dropWhile.symm
  have hb : Blank (s.takeWhile isBlank) := fun c hc => List.all_eq_true.1 List.all_takeWhile c hc
  cases hd : s.dropWhile isBlank with
  | nil =>
    rw [hd, List.append_nil] at hs
    rw [trimChars, hd, hs, ← List.nil_append (s.takeWhile isBlank), dropEndWhile_append_of_all hb]
  | cons c t =>
    have hc := of_dropWhile_eq_cons hd
    rw [trimChars, hd, hs, hd, dropEndWhile_append_cons hc, ← List.nil_append (c :: t),
      dropEndWhile_append_cons hc, List.getLast?_append, List.getLast?_append, List.getLast?_cons]
    rfl

theorem trimChars_eq_nil_iff {s : List Char} : trimChars s = [] ↔ Blank s := by
  refine ⟨fun h => ?_, trimChars_blank⟩
  obtain ⟨b, hb, hs⟩ := exists_dropEndWhile_append isBlank (s.dropWhile isBlank)
  rw [show dropEndWhile isBlank (s.dropWhile isBlank) = [] from h, List.nil_append] at hs
  have hparts : s = s.takeWhile isBlank ++ b := by rw [← hs, List.takeWhile_append_dropWhile]
  intro c hc
  rw [hparts] at hc
  exact (List.mem_append.1 hc).elim (List.all_eq_true.1 List.all_takeWhile c) (hb c)

/-- A trimmed text does not end in a blank. -/
theorem of_getLast?_trimChars {s : List Char} {c : Char} (h : (trimChars s).getLast? = some c) :
    isBlank c = false :=
  of_getLast?_dropEndWhile h

/-- A trimmed text does not begin with a blank. -/
theorem dropWhile_trimChars (s : List Char) : (trimChars s).dropWhile isBlank = trimChars s := by
  cases hs : s.dropWhile isBlank with
  | nil =>
    rw [trimChars, hs]
    rfl
  | cons c t =>
    have hc := of_dropWhile_eq_cons hs
    rw [trimChars, hs, ← List.nil_append (c :: t), dropEndWhile_append_cons hc,
      dropWhile_append_cons hc]
    rfl

theorem trimChars_trimChars (s : List Char) : trimChars (trimChars s) = trimChars s := by
  show trimChars (dropEndWhile isBlank (s.dropWhile isBlank)) = trimChars s
  rw [trimChars_dropEndWhile, trimChars_dropWhile]

theorem trimChars_sublist (s : List Char) : (trimChars s).Sublist s := by
  have hend := (List.dropWhile_sublist (l := (s.dropWhile isBlank).reverse) isBlank).reverse
  rw [List.reverse_reverse] at hend
  exact hend.trans (List.dropWhile_sublist _)

theorem trimChars_subset (s : List Char) : trimChars s ⊆ s := (trimChars_sublist s).subset

theorem trimChars_eq_self {s : List Char} (h : ∀ c ∈ s, isBlank c = false) : trimChars s = s := by
  have hdrop : s.dropWhile isBlank = s := by
    cases s with
    | nil => rfl
    | cons c t => exact List.dropWhile_cons_of_neg (by simp [h c (.head t)])
  rw [trimChars, hdrop]
  exact dropEndWhile_eq_self fun c hc => h c (List.mem_of_getLast? hc)

/-- A text is trimmed to what stands between blanks in it. -/
theorem trimChars_eq_iff {s word : List Char} : trimChars s = word ↔
    trimChars word = word ∧ ∃ before after, Blank before ∧ Blank after ∧
      s = before ++ word ++ after := by
  constructor
  · rintro rfl
    obtain ⟨after, hafter, hs⟩ := exists_dropEndWhile_append isBlank (s.dropWhile isBlank)
    refine ⟨trimChars_trimChars s, s.takeWhile isBlank, after, ?_, hafter, ?_⟩
    · exact fun c hc => List.all_eq_true.1 List.all_takeWhile c hc
    · rw [List.append_assoc, trimChars, ← hs, List.takeWhile_append_dropWhile]
  · rintro ⟨hword, before, after, hbefore, hafter, rfl⟩
    rw [trimChars_append_blank hafter, trimChars_blank_append hbefore, hword]

/-- No blanks stand at the end of a trimmed text. -/
theorem eq_nil_of_trimChars_append {s b : List Char} (h : trimChars (s ++ b) = s ++ b)
    (hb : Blank b) : b = [] := by
  rcases List.eq_nil_or_concat b with rfl | ⟨t, c, rfl⟩
  · rfl
  · have hlast : (trimChars (s ++ t.concat c)).getLast? = some c := by
      rw [h, List.concat_eq_append, ← List.append_assoc, List.getLast?_concat]
    have hc := of_getLast?_trimChars hlast
    rw [hb c (by simp)] at hc
    cases hc

theorem trim_eq_self {s : String} : trim s = s ↔ trimChars s.toList = s.toList := by
  rw [trim, ← String.toList_inj, String.toList_ofList]

/-- A trimmed text between blanks. -/
theorem trimChars_padded {a b : List Char} {s : String} (ha : Blank a) (hb : Blank b)
    (hs : trim s = s) : trimChars (a ++ s.toList ++ b) = s.toList := by
  rw [trimChars_append_blank hb, trimChars_blank_append ha, trim_eq_self.1 hs]

end Scaffold.Text
