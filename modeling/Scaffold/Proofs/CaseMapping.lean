import Scaffold.Text.Case

/-!
# What case mappings keep

The tables of the case mappings are checked run by run (`CaseRun.isApart`, `CaseRun.Misses`); each
check is about two runs or about one run and one code point, whatever the number of letters in
them. From the checks follow the two facts that names rest on. A lower-cased text is lower-cased
already (`lowerChars_lowerChars`), although the lower case of a sigma hangs on the letters around it
and that of one letter has two characters. And a character such as a separator, a slash or the end
of a line (`Caseless`) is where it was before, and nowhere else (`Caseless.mem_lowerChars`,
`Caseless.mem_upperChar`).
-/

set_option autoImplicit false

namespace Scaffold.Text

/-! ## Runs -/

namespace CaseRun

theorem contains_iff {r : CaseRun} {n : Nat} :
    r.contains n = true ↔ r.first ≤ n ∧ n ≤ r.last ∧ (n - r.first) % r.step = 0 := by
  simp [contains, and_assoc]

/-- Either a run moves the code point, or no run holds it. -/
theorem image_cases (runs : List CaseRun) (n : Nat) :
    (∃ r ∈ runs, r.contains n = true ∧ image runs n = (n + r.distance).toNat) ∨
      (∀ r ∈ runs, r.contains n = false) ∧ image runs n = n := by
  unfold image
  split
  · rename_i r h
    exact .inl ⟨r, List.mem_of_find?_eq_some h, by simpa using List.find?_some h, rfl⟩
  · rename_i h
    exact .inr ⟨by simpa using h, rfl⟩

/-- A code point that no run holds stays. -/
theorem image_eq_self {runs : List CaseRun} {n : Nat} (h : ∀ r ∈ runs, r.contains n = false) :
    image runs n = n := by
  rcases image_cases runs n with ⟨r, hr, hc, -⟩ | ⟨-, he⟩
  · rw [h r hr] at hc
    cases hc
  · exact he

/-- The first code point that the run leads to. -/
def low (r : CaseRun) : Nat := (r.first + r.distance).toNat

/-- The last code point that the run leads to. -/
def high (r : CaseRun) : Nat := (r.last + r.distance).toNat

/-- The run leads to code points of characters. -/
def Valid (r : CaseRun) : Prop :=
  0 ≤ r.first + r.distance ∧ (r.high < 0xD800 ∨ 0xDFFF < r.low ∧ r.high < 0x110000)

instance (r : CaseRun) : Decidable r.Valid := inferInstanceAs (Decidable (_ ∧ _))

/-- The distance between neighbours; a single code point counts as one of an even distance. -/
def stride (r : CaseRun) : Nat := if r.first = r.last then 2 else r.step

/-- No code point that `r` leads to is held by `s`: the ranges do not meet, or the code points of
both leave out every second one. -/
def isApart (r s : CaseRun) : Bool :=
  r.high.blt s.first || s.last.blt r.low ||
    (r.stride % 2 == 0 && s.stride % 2 == 0 && r.low % 2 != s.first % 2)

/-- The code point is neither in the range of the run nor in the range that it leads to. -/
def Misses (r : CaseRun) (n : Nat) : Prop :=
  (n < r.first ∨ r.last < n) ∧ (n < r.low ∨ r.high < n)

instance (r : CaseRun) (n : Nat) : Decidable (r.Misses n) := inferInstanceAs (Decidable (_ ∧ _))

section
variable {r : CaseRun} {n : Nat}

theorem mod_two_eq (h : r.contains n = true) (hs : r.stride % 2 = 0) : n % 2 = r.first % 2 := by
  obtain ⟨hf, hl, hm⟩ := contains_iff.1 h
  unfold stride at hs
  split at hs
  · omega
  · have : 2 ∣ n - r.first :=
      Nat.dvd_trans (Nat.dvd_of_mod_eq_zero hs) (Nat.dvd_of_mod_eq_zero hm)
    omega

/-- What a run holds is moved into the range that the run leads to. -/
theorem toNat_add_mem (hv : r.Valid) (hn : r.contains n = true) :
    ((n + r.distance).toNat : Int) = n + r.distance ∧ r.low ≤ (n + r.distance).toNat ∧
      (n + r.distance).toNat ≤ r.high := by
  obtain ⟨hf, hl, -⟩ := contains_iff.1 hn
  obtain ⟨hnn, -⟩ := hv
  unfold low high
  omega

theorem contains_eq_false_of_isApart {s : CaseRun} (h : r.isApart s = true) (hv : r.Valid)
    (hn : r.contains n = true) : s.contains (n + r.distance).toNat = false := by
  rw [Bool.eq_false_iff]
  intro hm
  obtain ⟨hint, hlow, hhigh⟩ := toNat_add_mem hv hn
  obtain ⟨hf', hl', -⟩ := contains_iff.1 hm
  simp only [isApart, Bool.or_eq_true, Bool.and_eq_true, Nat.blt_eq, beq_iff_eq, bne_iff_ne,
    ne_eq] at h
  rcases h with (h | h) | ⟨⟨hr, hs⟩, h⟩
  · omega
  · omega
  · have hn₂ := mod_two_eq hn hr
    have hm₂ := mod_two_eq hm hs
    have hlow : (r.low : Int) = r.first + r.distance := Int.toNat_of_nonneg hv.1
    omega

theorem Misses.contains_eq_false (h : r.Misses n) : r.contains n = false := by
  rw [Bool.eq_false_iff]
  intro hn
  obtain ⟨hf, hl, -⟩ := contains_iff.1 hn
  rcases h.1 with h | h <;> omega

theorem Misses.ne_image {m : Nat} (h : r.Misses n) (hv : r.Valid) (hm : r.contains m = true) :
    (m + r.distance).toNat ≠ n := by
  obtain ⟨-, hlow, hhigh⟩ := toNat_add_mem hv hm
  rcases h.2 with h | h <;> omega

end

section
variable {runs : List CaseRun} (valid : ∀ r ∈ runs, r.Valid)
include valid

theorem isValidChar_image (c : Char) : (image runs c.toNat).isValidChar := by
  rcases image_cases runs c.toNat with ⟨r, hr, hc, he⟩ | ⟨-, he⟩
  · obtain ⟨-, hlow, hhigh⟩ := toNat_add_mem (valid r hr) hc
    rw [he]
    rcases (valid r hr).2 with hv | hv
    · exact .inl (by omega)
    · exact .inr (by omega)
  · rw [he]
    exact c.valid

theorem toNat_ofNat_image (c : Char) :
    (Char.ofNat (image runs c.toNat)).toNat = image runs c.toNat := by
  rw [Char.ofNat, dif_pos (isValidChar_image valid c)]
  rfl

/-- Runs that lead away from each other move nothing twice. -/
theorem image_image (apart : ∀ r ∈ runs, ∀ s ∈ runs, r.isApart s = true) (n : Nat) :
    image runs (image runs n) = image runs n := by
  rcases image_cases runs n with ⟨r, hr, hc, he⟩ | ⟨-, he⟩
  · rw [he]
    exact image_eq_self fun s hs =>
      contains_eq_false_of_isApart (apart r hr s hs) (valid r hr) hc
  · rw [he, he]

/-- A code point that the runs miss is the image of itself alone. -/
theorem image_eq_iff {n : Nat} (misses : ∀ r ∈ runs, r.Misses n) {m : Nat} :
    image runs m = n ↔ m = n := by
  constructor
  · intro h
    rcases image_cases runs m with ⟨r, hr, hc, he⟩ | ⟨-, he⟩
    · exact absurd (he.symm.trans h) ((misses r hr).ne_image (valid r hr) hc)
    · exact he.symm.trans h
  · rintro rfl
    exact image_eq_self fun r hr => (misses r hr).contains_eq_false

end

end CaseRun

/-! ## The tables -/

theorem lowerRuns_valid : ∀ r ∈ lowerRuns, r.Valid := by decide +kernel

theorem upperRuns_valid : ∀ r ∈ upperRuns, r.Valid := by decide +kernel

theorem lowerRuns_apart : ∀ r ∈ lowerRuns, ∀ s ∈ lowerRuns, r.isApart s = true := by
  have h : (lowerRuns.all fun r => lowerRuns.all fun s => r.isApart s) = true := by decide +kernel
  simpa only [List.all_eq_true] using h

/-- No letter is moved to the one whose lower case has two characters. -/
theorem lowerRuns_misses_dotted : ∀ r ∈ lowerRuns, r.Misses 'İ'.toNat := by decide +kernel

theorem upperExpansions_valid : ∀ e ∈ upperExpansions, ∀ n ∈ e.2, n.isValidChar := by
  decide +kernel

/-! ## Lower case twice -/

/-- The character is its own lower case, wherever it stands. -/
def IsLower (c : Char) : Prop := c ≠ 'Σ' ∧ lowerChar c = [c]

instance (c : Char) : Decidable (IsLower c) := inferInstanceAs (Decidable (_ ∧ _))

theorem isLower_of_mem_lowerChar {c d : Char} (h : d ∈ lowerChar c) : IsLower d := by
  unfold lowerChar at h
  split at h
  · rcases List.mem_cons.1 h with rfl | h
    · decide
    · rw [List.mem_singleton.1 h]
      decide
  · rename_i hc
    obtain rfl := List.mem_singleton.1 h
    have htwice := CaseRun.image_image lowerRuns_valid lowerRuns_apart c.toNat
    have hcode := CaseRun.toNat_ofNat_image lowerRuns_valid c
    refine ⟨fun he => ?_, ?_⟩
    · -- the lower case of a sigma is another letter
      rw [he] at hcode
      rw [← hcode] at htwice
      exact absurd htwice (by decide +kernel)
    · have hd : Char.ofNat (CaseRun.image lowerRuns c.toNat) ≠ 'İ' := fun he => hc <| by
        rw [he] at hcode
        exact Char.toNat_inj.1
          ((CaseRun.image_eq_iff lowerRuns_valid lowerRuns_misses_dotted).1 hcode.symm)
      rw [lowerChar, if_neg hd, hcode, htwice]

theorem isLower_lowerSigma (before after : List Char) : IsLower (lowerSigma before after) := by
  unfold lowerSigma
  split <;> decide

theorem isLower_of_mem_lowerFrom {d : Char} :
    ∀ {before s : List Char}, d ∈ lowerFrom before s → IsLower d
  | _, [], h => nomatch h
  | before, c :: rest, h => by
    rw [lowerFrom, List.mem_append] at h
    rcases h with h | h
    · split at h
      · rw [List.mem_singleton.1 h]
        exact isLower_lowerSigma before rest
      · exact isLower_of_mem_lowerChar h
    · exact isLower_of_mem_lowerFrom h

theorem lowerFrom_eq_self : ∀ {before s : List Char}, (∀ c ∈ s, IsLower c) → lowerFrom before s = s
  | _, [], _ => rfl
  | _, c :: rest, h => by
    obtain ⟨⟨hc, he⟩, hrest⟩ := List.forall_mem_cons.1 h
    rw [lowerFrom, if_neg hc, he, lowerFrom_eq_self hrest, List.singleton_append]

theorem lowerChars_eq_self {s : List Char} (h : ∀ c ∈ s, IsLower c) : lowerChars s = s :=
  lowerFrom_eq_self h

/-- A lower-cased text is lower-cased already. -/
theorem lowerChars_lowerChars (s : List Char) : lowerChars (lowerChars s) = lowerChars s :=
  lowerChars_eq_self fun _ => isLower_of_mem_lowerFrom

theorem lower_lower (s : String) : lower (lower s) = lower s := by
  rw [lower, lower, String.toList_ofList, lowerChars_lowerChars]

/-! ## Characters without case -/

/-- The letters that the runs leave to a rule of their own, and what they become. -/
def ruled : List Char := ['İ', 'i', '\u0307', 'Σ', 'σ', 'ς']

/-- No case mapping moves the character or leads to it. -/
structure Caseless (c : Char) : Prop where
  lower : ∀ r ∈ lowerRuns, r.Misses c.toNat
  upper : ∀ r ∈ upperRuns, r.Misses c.toNat
  expansion : ∀ e ∈ upperExpansions, e.1 ≠ c.toNat ∧ c.toNat ∉ e.2
  ruled : c ∉ ruled

instance (c : Char) : Decidable (Caseless c) :=
  decidable_of_iff ((∀ r ∈ lowerRuns, r.Misses c.toNat) ∧ (∀ r ∈ upperRuns, r.Misses c.toNat) ∧
      (∀ e ∈ upperExpansions, e.1 ≠ c.toNat ∧ c.toNat ∉ e.2) ∧ c ∉ ruled)
    ⟨fun ⟨hl, hu, he, hr⟩ => ⟨hl, hu, he, hr⟩, fun h => ⟨h.lower, h.upper, h.expansion, h.ruled⟩⟩

theorem CaseRun.ofNat_image_eq_iff {runs : List CaseRun} (valid : ∀ r ∈ runs, r.Valid) {c : Char}
    (misses : ∀ r ∈ runs, r.Misses c.toNat) {d : Char} :
    c = .ofNat (image runs d.toNat) ↔ d = c := by
  rw [← Char.toNat_inj, toNat_ofNat_image valid, eq_comm, image_eq_iff valid misses, Char.toNat_inj]

namespace Caseless

variable {c : Char} (h : Caseless c)
include h

theorem mem_lowerChar {d : Char} : c ∈ lowerChar d ↔ d = c := by
  have hr := h.ruled
  unfold lowerChar
  split
  · rename_i hd
    subst hd
    simp only [Text.ruled, List.mem_cons, not_or] at hr ⊢
    exact ⟨fun hm => by simp_all, fun hc => absurd hc.symm hr.1⟩
  · rw [List.mem_singleton, CaseRun.ofNat_image_eq_iff lowerRuns_valid h.lower]

theorem lowerChar_eq : lowerChar c = [c] := by
  have hc : c ≠ 'İ' := fun he => h.ruled (by simp [he, Text.ruled])
  have hm : c ∈ lowerChar c := h.mem_lowerChar.2 rfl
  unfold lowerChar at hm ⊢
  rw [if_neg hc] at hm ⊢
  rw [← List.mem_singleton.1 hm]

theorem mem_upperChar {d : Char} : c ∈ upperChar d ↔ d = c := by
  unfold upperChar
  split
  · rename_i image hd
    have hmem : (d.toNat, image) ∈ upperExpansions := by
      obtain ⟨l₁, l₂, hl, -⟩ := List.lookup_eq_some_iff.1 hd
      simp [hl]
    obtain ⟨hne, hnot⟩ := h.expansion _ hmem
    constructor
    · intro hm
      obtain ⟨n, hn, rfl⟩ := List.mem_map.1 hm
      have hcode : (Char.ofNat n).toNat = n := by
        rw [Char.ofNat, dif_pos (upperExpansions_valid _ hmem n hn)]
        rfl
      rw [hcode] at hnot
      exact absurd hn hnot
    · rintro rfl
      exact absurd rfl hne
  · rw [List.mem_singleton, CaseRun.ofNat_image_eq_iff upperRuns_valid h.upper]

theorem upperChar_eq : upperChar c = [c] := by
  have hnone : upperExpansions.lookup c.toNat = none := by
    rw [List.lookup_eq_none_iff]
    intro e he
    simpa using (h.expansion e he).1.symm
  have hm : c ∈ upperChar c := h.mem_upperChar.2 rfl
  rw [upperChar, hnone] at hm ⊢
  rw [← List.mem_singleton.1 hm]

theorem mem_lowerFrom : ∀ {before s : List Char}, c ∈ lowerFrom before s ↔ c ∈ s
  | _, [] => Iff.rfl
  | before, d :: rest => by
    rw [lowerFrom, List.mem_append, mem_lowerFrom, List.mem_cons, eq_comm (a := c)]
    split
    · rename_i hd
      have hs : c ≠ lowerSigma before rest := fun he => h.ruled <| by
        rw [he, lowerSigma]
        split <;> simp [Text.ruled]
      have hc : d ≠ c := fun he => h.ruled (by simp [← he, hd, Text.ruled])
      simp [hs, hc]
    · rw [mem_lowerChar h]

theorem mem_lowerChars {s : List Char} : c ∈ lowerChars s ↔ c ∈ s := mem_lowerFrom h

end Caseless

end Scaffold.Text
