/-!
# Splitting a text

A text is cut at the characters that satisfy a condition and loses nothing else: the characters of
the pieces are the others (`exists_mem_splitOnP_iff`).
-/

set_option autoImplicit false

namespace Scaffold.Text

variable {c : Char}

theorem exists_mem_splitOnP_iff {p : Char → Bool} :
    ∀ {s : List Char}, (∃ piece ∈ s.splitOnP p, c ∈ piece) ↔ c ∈ s ∧ p c = false
  | [] => by simp [List.splitOnP_nil]
  | d :: s => by
    have ih := exists_mem_splitOnP_iff (p := p) (s := s)
    obtain ⟨first, rest, hs⟩ := List.exists_cons_of_ne_nil (List.splitOnP_ne_nil p s)
    rw [List.splitOnP_cons_eq_if_modifyHead, hs, List.modifyHead_cons]
    rw [hs] at ih
    split
    all_goals
      simp only [List.mem_cons, exists_eq_or_imp, List.not_mem_nil, false_or, or_assoc] at ih ⊢
      rw [ih]
      grind

variable {s piece : List Char}

theorem mem_of_mem_splitOnP {p : Char → Bool} (h : piece ∈ s.splitOnP p) (hc : c ∈ piece) : c ∈ s :=
  (exists_mem_splitOnP_iff.1 ⟨piece, h, hc⟩).1

/-- No piece holds a character at which the text is cut. -/
theorem of_mem_splitOnP {p : Char → Bool} (h : piece ∈ s.splitOnP p) (hc : c ∈ piece) :
    p c = false :=
  (exists_mem_splitOnP_iff.1 ⟨piece, h, hc⟩).2

theorem not_mem_splitOn (h : piece ∈ s.splitOn c) : c ∉ piece := fun hc => by
  rw [List.splitOn_eq_splitOnP] at h
  simpa using of_mem_splitOnP h hc

end Scaffold.Text
