import Scaffold.Proofs.CaseMapping
import Scaffold.Proofs.Registrations
import Scaffold.Proofs.Trimming

/-!
# Names of stacks

Names of stacks are compared in lower case, which for some letters beyond ASCII is a letter of
ASCII. None of these is in an alias (`Stack.unshared_of_mem_aliases`), and where that is so the
lower case of a text tells no more than which letters of ASCII it has (`Text.lowerChars_eq_iff`).
So a text is read as a stack exactly if it spells an alias of the stack (`Stack.parse_iff_spells`).
-/

set_option autoImplicit false

namespace Scaffold

/-! ## Lower case and ASCII -/

namespace Text

theorem toNat_toLower (c : Char) :
    c.toLower.toNat = if 65 ≤ c.toNat ∧ c.toNat ≤ 90 then c.toNat + 32 else c.toNat := by
  have hcapital : (c.val ≥ 'A'.val ∧ c.val ≤ 'Z'.val) ↔ 65 ≤ c.toNat ∧ c.toNat ≤ 90 := by
    rw [ge_iff_le, UInt32.le_iff_toNat_le, UInt32.le_iff_toNat_le]
    rfl
  unfold Char.toLower
  split
  · rename_i h
    obtain ⟨hfirst, hlast⟩ := hcapital.1 h
    rw [if_pos ⟨hfirst, hlast⟩]
    calc (c.val + 32).toNat = (c.toNat + 32) % 2 ^ 32 := UInt32.toNat_add _ _
      _ = c.toNat + 32 := Nat.mod_eq_of_lt (by omega)
  · rename_i h
    rw [if_neg (mt hcapital.2 h)]

/-- What ASCII lower-cases to a letter is a letter of ASCII. -/
theorem of_isLower_toLower {c : Char} (h : c.toLower.isLower = true) :
    isBlank c = false ∧ c.toNat < 128 := by
  have hcode : 97 ≤ c.toLower.toNat ∧ c.toLower.toNat ≤ 122 := by
    obtain ⟨hfirst, hlast⟩ := Bool.and_eq_true_iff.1 h
    exact ⟨UInt32.le_iff_toNat_le.1 (of_decide_eq_true hfirst),
      UInt32.le_iff_toNat_le.1 (of_decide_eq_true hlast)⟩
  rw [toNat_toLower] at hcode
  have hletter : 65 ≤ c.toNat ∧ c.toNat ≤ 90 ∨ 97 ≤ c.toNat ∧ c.toNat ≤ 122 := by
    split at hcode <;> omega
  constructor
  · simp [isBlank]
    omega
  · omega

theorem CaseRun.image_cons (r : CaseRun) (runs : List CaseRun) (n : Nat) :
    image (r :: runs) n = if r.contains n = true then (n + r.distance).toNat else image runs n := by
  unfold image
  rw [List.find?_cons]
  cases r.contains n <;> rfl

/-- The first run holds the capitals of ASCII. -/
theorem image_lowerRuns (n : Nat) : CaseRun.image lowerRuns n =
    if 65 ≤ n ∧ n ≤ 90 then n + 32 else CaseRun.image lowerRuns.tail n := by
  have hcontains : CaseRun.contains ⟨65, 90, 1, 32⟩ n = true ↔ 65 ≤ n ∧ n ≤ 90 := by
    simp [CaseRun.contains, Nat.mod_one]
  have hcode : ((n : Int) + 32).toNat = n + 32 := by omega
  calc CaseRun.image lowerRuns n
      = CaseRun.image (⟨65, 90, 1, 32⟩ :: lowerRuns.tail) n := rfl
    _ = _ := by simp only [CaseRun.image_cons, hcontains, hcode]

/-- No character has it in its lower case but itself and, where it is a small letter of ASCII, its
capital. -/
structure Unshared (d : Char) : Prop where
  runs : ∀ r ∈ lowerRuns.tail, r.Misses d.toNat
  ruled : d ∉ ruled

instance (d : Char) : Decidable (Unshared d) :=
  decidable_of_iff ((∀ r ∈ lowerRuns.tail, r.Misses d.toNat) ∧ d ∉ ruled)
    ⟨fun ⟨hruns, hruled⟩ => ⟨hruns, hruled⟩, fun h => ⟨h.runs, h.ruled⟩⟩

namespace Unshared

variable {d : Char} (h : Unshared d)
include h

theorem ne_of_mem_ruled {c : Char} (hc : c ∈ Text.ruled) : c ≠ d := fun he => h.ruled (he ▸ hc)

theorem ofNat_image_eq_iff {c : Char} :
    Char.ofNat (CaseRun.image lowerRuns c.toNat) = d ↔ c.toLower = d := by
  have hvalid : ∀ r ∈ lowerRuns.tail, r.Valid := fun r hr =>
    lowerRuns_valid r (List.mem_of_mem_tail hr)
  rw [← Char.toNat_inj, ← Char.toNat_inj, toNat_toLower, CaseRun.toNat_ofNat_image lowerRuns_valid,
    image_lowerRuns]
  split
  · rfl
  · exact CaseRun.image_eq_iff hvalid h.runs

/-- What begins with the lower case of a letter begins with the character exactly if that is the
lower case of the letter in ASCII. -/
theorem lower_append_eq_iff {c : Char} {before after s t : List Char} :
    (if c = 'Σ' then [lowerSigma before after] else lowerChar c) ++ s = d :: t ↔
      c.toLower = d ∧ s = t := by
  by_cases hsigma : c = 'Σ'
  · subst hsigma
    have hsmall : lowerSigma before after ≠ d := by
      unfold lowerSigma
      split <;> exact h.ne_of_mem_ruled (by decide)
    have hself : 'Σ'.toLower ≠ d := h.ne_of_mem_ruled (by decide)
    rw [if_pos rfl, List.singleton_append, List.cons_eq_cons]
    exact and_congr_left fun _ => iff_of_false hsmall hself
  · rw [if_neg hsigma]
    by_cases hdotted : c = 'İ'
    · subst hdotted
      have hsmall : 'i' ≠ d := h.ne_of_mem_ruled (by decide)
      have hself : 'İ'.toLower ≠ d := h.ne_of_mem_ruled (by decide)
      rw [lowerChar, if_pos rfl, List.cons_append, List.cons_eq_cons]
      exact iff_of_false (fun he => hsmall he.1) fun he => hself he.1
    · rw [lowerChar, if_neg hdotted, List.singleton_append, List.cons_eq_cons, h.ofNat_image_eq_iff]

end Unshared

theorem lowerFrom_eq_iff : ∀ {before s t : List Char}, (∀ d ∈ t, Unshared d) →
    (lowerFrom before s = t ↔ s.map Char.toLower = t)
  | _, [], _, _ => by rw [lowerFrom, List.map_nil]
  | _, c :: _, [], _ => by
    have hne : lowerChar c ≠ [] := by
      unfold lowerChar
      split <;> exact List.cons_ne_nil _ _
    rw [lowerFrom]
    split <;> simp [hne]
  | _, _ :: _, _ :: _, h => by
    obtain ⟨hd, ht⟩ := List.forall_mem_cons.1 h
    rw [lowerFrom, hd.lower_append_eq_iff, lowerFrom_eq_iff ht, List.map_cons, List.cons_eq_cons]

/-- The texts differ at most in the case of letters of ASCII. -/
def EqIgnoringCase (s t : List Char) : Prop := s.map Char.toLower = t.map Char.toLower

instance (s t : List Char) : Decidable (EqIgnoringCase s t) := inferInstanceAs (Decidable (_ = _))

/-- Where no letter beyond ASCII is lower-cased to a character of the text, no other text has it as
its lower case than in the lower case of ASCII. -/
theorem lowerChars_eq_iff {s t : List Char} (h : ∀ d ∈ t, Unshared d) :
    lowerChars s = t ↔ s.map Char.toLower = t :=
  lowerFrom_eq_iff h

/-- The sign for kelvin is shared: its lower case is a letter of ASCII. -/
example : lower "\u212A" = "k" ∧ ¬ Unshared 'k' := by decide +kernel

end Text

/-! ## Spellings -/

namespace Stack

open Text

/-- The names that a stack goes by. -/
def aliases : Stack → List String
  | go => ["go", "golang"]
  | laravel => ["laravel", "php"]
  | react => ["react"]
  | flutter => ["flutter", "dart"]

/-- The text is an alias of the stack, with letters in any case and between blanks. -/
inductive Spells (stack : Stack) : List Char → Prop
  | mk {name : String} {before word after : List Char} (name_mem : name ∈ stack.aliases)
      (eq : EqIgnoringCase word name.toList) (blank_before : Blank before)
      (blank_after : Blank after) : Spells stack (before ++ word ++ after)

theorem mem_spellings_iff {name : String} {stack : Stack} :
    (name, stack) ∈ spellings ↔ name ∈ stack.aliases := by
  cases stack <;> simp [spellings, aliases]

theorem lookup_spellings {text : String} {stack : Stack} :
    spellings.lookup text = some stack ↔ text ∈ stack.aliases := by
  rw [← mem_spellings_iff]
  constructor
  · intro h
    obtain ⟨before, after, hs, -⟩ := List.lookup_eq_some_iff.1 h
    simp [hs]
  · have hall : ∀ e ∈ spellings, spellings.lookup e.1 = some e.2 := by decide
    exact hall (text, stack)

/-- An alias consists of small letters. -/
theorem isLower_of_mem_aliases {stack : Stack} {name : String} (h : name ∈ stack.aliases) :
    ∀ c ∈ name.toList, c.isLower = true ∧ c.toLower = c := by
  -- `List.all`, since a statement about characters may be decided by trying every character.
  have hall : ∀ name ∈ stack.aliases,
      name.toList.all fun c => decide (c.isLower = true ∧ c.toLower = c) := by
    cases stack <;> decide
  simpa only [List.all_eq_true, decide_eq_true_eq] using hall name h

/-- No letter beyond ASCII is folded into an alias. -/
theorem unshared_of_mem_aliases {stack : Stack} {name : String} (h : name ∈ stack.aliases) :
    ∀ c ∈ name.toList, Unshared c := by
  have hall : ∀ name ∈ stack.aliases, name.toList.all fun c => decide (Unshared c) := by
    cases stack <;> decide +kernel
  simpa only [List.all_eq_true, decide_eq_true_eq] using hall name h

section
variable {stack : Stack} {name : String} (h : name ∈ stack.aliases) {word : List Char}
include h

theorem eqIgnoringCase_iff : EqIgnoringCase word name.toList ↔ lowerChars word = name.toList := by
  have hname : name.toList.map Char.toLower = name.toList :=
    (List.map_congr_left fun c hc => (isLower_of_mem_aliases h c hc).2).trans (List.map_id _)
  rw [EqIgnoringCase, hname, lowerChars_eq_iff (unshared_of_mem_aliases h)]

/-- An alias in any letter case consists of letters of ASCII. -/
theorem letter_of_eqIgnoringCase (heq : EqIgnoringCase word name.toList) :
    ∀ c ∈ word, isBlank c = false ∧ c.toNat < 128 := by
  intro c hc
  have hmem : c.toLower ∈ name.toList.map Char.toLower := heq ▸ List.mem_map_of_mem hc
  obtain ⟨d, hd, hlower⟩ := List.mem_map.1 hmem
  obtain ⟨hletter, hself⟩ := isLower_of_mem_aliases h d hd
  rw [← hself, hlower] at hletter
  exact of_isLower_toLower hletter

end

theorem parse?_eq_some_iff {text : String} {stack : Stack} :
    parse? text = some stack ↔ stack.Spells text.toList := by
  have hlower : lower (trim text) = .ofList (lowerChars (trimChars text.toList)) := by
    rw [lower, trim, String.toList_ofList]
  rw [parse?, lookup_spellings, hlower]
  constructor
  · intro h
    obtain ⟨-, before, after, hbefore, hafter, hs⟩ :=
      trimChars_eq_iff.1 (Eq.refl (trimChars text.toList))
    rw [hs]
    exact .mk h ((eqIgnoringCase_iff h).2 (String.toList_ofList).symm) hbefore hafter
  · intro h
    generalize hs : text.toList = s at h
    cases h with
    | @mk name before word after hname heq hbefore hafter =>
      have hword : trimChars word = word := trimChars_eq_self fun c hc =>
        (letter_of_eqIgnoringCase hname heq c hc).1
      rw [trimChars_eq_iff.2 ⟨hword, before, after, hbefore, hafter, rfl⟩,
        (eqIgnoringCase_iff hname).1 heq, String.ofList_toList]
      exact hname

theorem Spells.blank_or_ascii {stack : Stack} {s : List Char} (h : stack.Spells s) :
    ∀ c ∈ s, isBlank c = true ∨ c.toNat < 128 := by
  cases h with
  | mk hname heq hbefore hafter =>
    intro c hc
    have hletters := letter_of_eqIgnoringCase hname heq
    rcases List.mem_append.1 hc with hc | hc
    · exact (List.mem_append.1 hc).imp (hbefore c) fun hc => (hletters c hc).2
    · exact .inl (hafter c hc)

theorem spells_name (stack : Stack) : stack.Spells stack.name.toList := by
  have hname : stack.name ∈ stack.aliases := by cases stack <;> decide
  have hspells : stack.Spells ([] ++ stack.name.toList ++ []) := .mk hname rfl nofun nofun
  rwa [List.append_nil] at hspells

theorem message_eq (text : String) : UnknownStack.message ⟨text⟩ =
    "unknown stack '" ++ text ++ "', expected one of: go, laravel, react, flutter" := by
  have hnames : "', expected one of: " ++ String.intercalate ", " (all.map name) =
      "', expected one of: go, laravel, react, flutter" := by decide
  calc UnknownStack.message ⟨text⟩
      = "unknown stack '" ++ text ++
          ("', expected one of: " ++ String.intercalate ", " (all.map name)) :=
        String.append_assoc
    _ = _ := by rw [hnames]

theorem parse_eq_ok {text : String} {stack : Stack} :
    parse text = .ok stack ↔ parse? text = some stack := by
  unfold parse
  cases parse? text <;> simp

theorem parse_eq_error {text : String} {e : UnknownStack} :
    parse text = .error e ↔ parse? text = none ∧ e = ⟨text⟩ := by
  unfold parse
  cases parse? text <;> simp [eq_comm]

end Stack

/-! ## Look-ups by a spelling -/

namespace Registry

variable {γ : Type} [Codegen γ] (r : Registry γ) {a b : String}
  (h : Stack.parse? a = Stack.parse? b)
include h

/-- Two spellings of a stack lead to the same generator; a failure quotes the one that was given. -/
theorem get_of_parse?_eq : r.get b = (r.get a).mapError fun e => { e with stack := b } := by
  unfold get
  rw [h]
  cases (Stack.parse? b).bind r.find? <;> rfl

theorem run_of_parse?_eq (q : Request) : r.run { q with stack := b } =
    (r.run { q with stack := a }).mapError fun e => { e with stack := b } := by
  rw [run_eq, run_eq, get_of_parse?_eq r h]
  cases r.get a <;> rfl

end Registry

namespace Stack

open Text

/-- How a text is read as the name of a stack. -/
structure IsRead (text : String) : Prop where
  ok_iff : ∀ stack, parse text = .ok stack ↔ stack.Spells text.toList
  blank_or_ascii : ∀ stack, parse text = .ok stack →
    ∀ c ∈ text.toList, isBlank c = true ∨ c.toNat < 128
  /-- A failure quotes the text as it is. -/
  message : ∀ e, parse text = .error e → e.message =
    "unknown stack '" ++ text ++ "', expected one of: go, laravel, react, flutter"
  /-- A registry answers another text for the same stack in the same way: with one generator, or
  with a failure that quotes the text. -/
  get : ∀ (γ : Type) [Codegen γ] (r : Registry γ) (other : String) (stack : Stack),
    parse text = .ok stack → parse other = .ok stack →
    r.get other = (r.get text).mapError fun e => { e with stack := other }
  run : ∀ (γ : Type) [Codegen γ] (r : Registry γ) (other : String) (stack : Stack),
    parse text = .ok stack → parse other = .ok stack → ∀ q : Request,
    r.run { q with stack := other } =
      (r.run { q with stack := text }).mapError fun e => { e with stack := other }

/-- **Stack names are read exactly.** A text is read as a stack if and only if it spells an alias of
the stack, so it consists of letters of ASCII and blanks; the error on any other text quotes it as
it is. The name of a stack is read as the stack, and a registry of any generators answers two texts
that are read as the same stack in the same way: with one generator or generation, or with a failure
that quotes the text. -/
theorem parse_iff_spells :
    (∀ text, IsRead text) ∧ ∀ stack : Stack, parse stack.name = .ok stack := by
  have hspells : ∀ text stack, parse text = .ok stack ↔ stack.Spells text.toList :=
    fun _ _ => parse_eq_ok.trans parse?_eq_some_iff
  have hsame : ∀ {a b : String} {stack : Stack}, parse a = .ok stack → parse b = .ok stack →
      parse? a = parse? b := fun ha hb => (parse_eq_ok.1 ha).trans (parse_eq_ok.1 hb).symm
  refine ⟨fun text => ?_, fun stack => (hspells _ _).2 (spells_name stack)⟩
  exact {
    ok_iff := hspells text
    blank_or_ascii := fun stack h => ((hspells text stack).1 h).blank_or_ascii
    message := fun e h => by rw [(parse_eq_error.1 h).2, message_eq]
    get := fun γ _ r other stack h hother => r.get_of_parse?_eq (hsame h hother)
    run := fun γ _ r other stack h hother => r.run_of_parse?_eq (hsame h hother) }

/-- Two spellings of a stack, and the first in full-width letters, which spells none. -/
theorem parse_iff_spells_golang :
    parse "\u2003GoLang\n" = .ok go ∧ parse "GO" = .ok go ∧
    parse "\uFF27\uFF2F" = .error ⟨"\uFF27\uFF2F"⟩ ∧
    go.Spells "\u2003GoLang\n".toList ∧
    (∀ stack : Stack, ¬ stack.Spells "\uFF27\uFF2F".toList) ∧
    UnknownStack.message ⟨"\uFF27\uFF2F"⟩ =
      "unknown stack '\uFF27\uFF2F', expected one of: go, laravel, react, flutter" ∧
    Registry.standard.get "GO" =
      (Registry.standard.get "\u2003GoLang\n").mapError fun e => { e with stack := "GO" } := by
  have hlong : parse "\u2003GoLang\n" = .ok go := by decide +kernel
  have hshort : parse "GO" = .ok go := by decide +kernel
  have hwide : parse "\uFF27\uFF2F" = .error ⟨"\uFF27\uFF2F"⟩ := by decide +kernel
  have hread := parse_iff_spells.1
  refine ⟨hlong, hshort, hwide, ((hread _).ok_iff _).1 hlong, fun stack h => ?_, ?_, ?_⟩
  · cases hwide.symm.trans (((hread _).ok_iff _).2 h)
  · exact (hread _).message _ hwide
  · exact (hread _).get Generator Registry.standard _ go hlong hshort

end Stack

end Scaffold
