import Scaffold.Proofs.OneLine

/-!
# Well-nested brackets

A text is `Nested` if every bracket in it is closed by the matching one, in order (`NestedChars`).
`pending` reads a text with some brackets open and answers the brackets that are open after it; it
decides the nesting (`nestedChars_iff`) and is compositional (`pending_append`), so that a text of
many pieces is followed from piece to piece (`Leads`). Identifiers and target types have the
brackets of what they are made from (`brackets_pascalChars` and its neighbours).
-/

set_option autoImplicit false

namespace Scaffold.Text

/-! ## Nesting -/

/-- The closing bracket of an opening one. -/
def closer? : Char → Option Char
  | '(' => some ')'
  | '[' => some ']'
  | '\x7b' => some '\x7d'
  | _ => none

def isCloser (c : Char) : Bool := c = ')' || c = ']' || c = '\x7d'

def isBracket (c : Char) : Bool := (closer? c).isSome || isCloser c

/-- The texts in which each bracket is closed by the matching one, in order. -/
inductive NestedChars : List Char → Prop
  | nil : NestedChars []
  | plain {c : Char} {s : List Char} (hc : isBracket c = false) (hs : NestedChars s) :
      NestedChars (c :: s)
  | pair {opening closing : Char} {body rest : List Char} (h : closer? opening = some closing)
      (hbody : NestedChars body) (hrest : NestedChars rest) :
      NestedChars (opening :: (body ++ closing :: rest))

def Nested (s : String) : Prop := NestedChars s.toList

/-! ## The brackets that are open -/

/-- The brackets to close after a character, the next one first; nothing if the character closes
another one than the next. -/
def touch (stack : List Char) (c : Char) : Option (List Char) :=
  match closer? c with
  | some closing => some (closing :: stack)
  | none =>
    if isCloser c then
      match stack with
      | [] => none
      | next :: below => if c = next then some below else none
    else some stack

/-- The brackets to close after a text. -/
def pending : List Char → List Char → Option (List Char)
  | stack, [] => some stack
  | stack, c :: s => (touch stack c).bind fun stack => pending stack s

section Pending

variable {stack : List Char} {c closing : Char} {s : List Char}

theorem touch_open (h : closer? c = some closing) : touch stack c = some (closing :: stack) := by
  simp [touch, h]

theorem isCloser_of_closer? (h : closer? c = some closing) : isCloser closing = true := by
  unfold closer? at h
  split at h <;> cases h <;> rfl

theorem closer?_of_isCloser (h : isCloser c = true) : closer? c = none := by
  simp only [isCloser, Bool.or_eq_true, decide_eq_true_eq] at h
  rcases h with (rfl | rfl) | rfl <;> rfl

theorem touch_close (h : isCloser c = true) : touch (c :: stack) c = some stack := by
  simp [touch, closer?_of_isCloser h, h]

theorem touch_plain (h : isBracket c = false) : touch stack c = some stack := by
  obtain ⟨ho, hc⟩ : closer? c = none ∧ isCloser c = false := by simpa [isBracket] using h
  simp [touch, ho, hc]

/-- A character that is read opens a bracket, closes the next one, or is none. -/
theorem touch_eq_some {r : List Char} (h : touch stack c = some r) :
    (isBracket c = false ∧ r = stack) ∨ (∃ closing, closer? c = some closing ∧ r = closing :: stack) ∨
      stack = c :: r := by
  unfold touch at h
  split at h
  · rename_i closing hc
    exact .inr (.inl ⟨closing, hc, (Option.some.inj h).symm⟩)
  · rename_i ho
    split at h
    · split at h
      · cases h
      · rename_i next below
        split at h
        · rename_i he
          exact .inr (.inr (by rw [he, Option.some.inj h]))
        · cases h
    · rename_i hc
      exact .inl ⟨by simp [isBracket, ho, hc], (Option.some.inj h).symm⟩

/-- Reading on from what the first text leaves open. -/
theorem pending_append (t : List Char) : ∀ (s stack : List Char),
    pending stack (s ++ t) = (pending stack s).bind (pending · t)
  | [], _ => rfl
  | c :: s, stack => by
    rw [List.cons_append, pending, pending, Option.bind_assoc]
    simp only [pending_append t s]

/-- A nested text leaves open what was open. -/
theorem NestedChars.pending (h : NestedChars s) : ∀ stack, pending stack s = some stack := by
  induction h with
  | nil => exact fun _ => rfl
  | plain hc _ ih =>
    intro stack
    rw [Text.pending, touch_plain hc, Option.bind_some, ih]
  | pair h _ _ ihbody ihrest =>
    intro stack
    rw [Text.pending, touch_open h, Option.bind_some, pending_append, ihbody, Option.bind_some,
      Text.pending, touch_close (isCloser_of_closer? h), Option.bind_some, ihrest]

/-- A text that closes all that is open is nested up to the bracket that closes the next. -/
theorem nestedChars_of_pending : ∀ {s stack : List Char}, pending stack s = some [] →
    (stack = [] → NestedChars s) ∧ ∀ next below, stack = next :: below →
      ∃ body rest, s = body ++ next :: rest ∧ NestedChars body ∧ pending below rest = some []
  | [], stack, h => by
    obtain rfl : stack = [] := Option.some.inj h
    exact ⟨fun _ => .nil, fun _ _ h => by cases h⟩
  | c :: s, stack, h => by
    rw [pending, Option.bind_eq_some_iff] at h
    obtain ⟨after, hafter, hs⟩ := h
    rcases touch_eq_some hafter with ⟨hc, rfl⟩ | ⟨closing, hc, rfl⟩ | rfl
    · obtain ⟨hnil, hcons⟩ := nestedChars_of_pending hs
      refine ⟨fun he => .plain hc (hnil he), fun next below he => ?_⟩
      obtain ⟨body, rest, rfl, hbody, hrest⟩ := hcons next below he
      exact ⟨c :: body, rest, rfl, .plain hc hbody, hrest⟩
    · -- the bracket is closed in `s`, and the text goes on after that
      obtain ⟨body, rest, rfl, hbody, hrest⟩ := (nestedChars_of_pending hs).2 closing stack rfl
      obtain ⟨hnil, hcons⟩ := nestedChars_of_pending hrest
      refine ⟨fun he => .pair hc hbody (hnil he), fun next below he => ?_⟩
      obtain ⟨body', rest', rfl, hbody', hrest'⟩ := hcons next below he
      exact ⟨c :: (body ++ closing :: body'), rest', by simp, .pair hc hbody hbody', hrest'⟩
    · refine ⟨nofun, fun next below' he => ?_⟩
      obtain ⟨rfl, rfl⟩ := List.cons.inj he
      exact ⟨[], s, rfl, .nil, hs⟩
  termination_by s => s.length

/-- Reading a text decides whether it is nested. -/
theorem nestedChars_iff : NestedChars s ↔ Text.pending [] s = some [] :=
  ⟨fun h => h.pending [], fun h => (nestedChars_of_pending h).1 rfl⟩

end Pending

instance (s : List Char) : Decidable (NestedChars s) := decidable_of_iff _ nestedChars_iff.symm

instance (s : String) : Decidable (Nested s) := inferInstanceAs (Decidable (NestedChars _))

/-! ## Texts made of pieces -/

/-- With the brackets of `a` open, the text leads to those of `b`. -/
def Leads (s : String) (a b : List Char) : Prop := pending a s.toList = some b

instance (s : String) (a b : List Char) : Decidable (Leads s a b) :=
  inferInstanceAs (Decidable (_ = _))

theorem nested_iff {s : String} : Nested s ↔ Leads s [] [] := nestedChars_iff

/-- A literal is read character by character. -/
theorem nested_ofList {s : List Char} (h : pending [] s = some []) : Nested (.ofList s) := by
  rwa [nested_iff, Leads, String.toList_ofList]

namespace Leads

variable {s t : String} {a b c : List Char}

theorem of_nested (h : Nested s) : Leads s a a := h.pending a

theorem ofList {s : List Char} (h : pending a s = some b) : Leads (.ofList s) a b := by
  rwa [Leads, String.toList_ofList]

theorem append (hs : Leads s a b) (ht : Leads t b c) : Leads (s ++ t) a c := by
  rw [Leads, String.toList_append, pending_append, hs, Option.bind_some, ht]

end Leads

theorem nested_ite {p : Prop} [Decidable p] {s t : String} (hs : Nested s) (ht : Nested t) :
    Nested (if p then s else t) := by
  split
  · exact hs
  · exact ht

theorem Nested.append {s t : String} (hs : Nested s) (ht : Nested t) : Nested (s ++ t) :=
  nested_iff.2 (.append (.of_nested hs) (.of_nested ht))

/-! ### Literals and nested pieces

A text of literals and nested pieces is read by `simp +decide`: the literals gather in front, nested
pieces are left out, and what is left is closed. -/

/-- With the brackets of `a` open, the literals, the last one first, lead to those of `b`. -/
def LiteralsLead (front : List (List Char)) (a b : List Char) : Prop :=
  pending a front.reverse.flatten = some b

instance (front : List (List Char)) (a b : List Char) : Decidable (LiteralsLead front a b) :=
  inferInstanceAs (Decidable (_ = _))

/-- The text leads to the brackets of `b` behind literals that begin at those of `a`. -/
def LeadsBehind (front : List (List Char)) (s : String) (a b : List Char) : Prop :=
  pending a (front.reverse.flatten ++ s.toList) = some b

section Behind

variable {front : List (List Char)} {s t u : String} {a b : List Char}

@[simp]
theorem leads_append_iff : Leads (s ++ t) a b ↔ LeadsBehind [] (s ++ t) a b := by
  simp [LeadsBehind, Leads]

@[simp]
theorem nested_append_iff : Nested (s ++ t) ↔ LeadsBehind [] (s ++ t) [] [] := by
  rw [nested_iff, leads_append_iff]

@[simp high]
theorem leadsBehind_append_append :
    LeadsBehind front (s ++ t ++ u) a b ↔ LeadsBehind front (s ++ (t ++ u)) a b := by
  rw [String.append_assoc]

@[simp]
theorem leadsBehind_nested_append (h : Nested s) :
    LeadsBehind front (s ++ t) a b ↔ LeadsBehind front t a b := by
  simp only [LeadsBehind, String.toList_append, pending_append, h.pending, Option.bind_some]

@[simp 900]
theorem leadsBehind_append :
    LeadsBehind front (s ++ t) a b ↔ LeadsBehind (s.toList :: front) t a b := by
  simp [LeadsBehind]

@[simp 800]
theorem leadsBehind_nested (h : Nested s) :
    LeadsBehind front s a b ↔ LiteralsLead front a b := by
  simp only [LeadsBehind, LiteralsLead, pending_append, h.pending, Option.bind_fun_some]

@[simp 700]
theorem leadsBehind_literal : LeadsBehind front s a b ↔ LiteralsLead (s.toList :: front) a b := by
  simp [LeadsBehind, LiteralsLead]

end Behind

theorem nested_join : ∀ {items : List String}, (∀ item ∈ items, Nested item) →
    Nested (String.join items)
  | [], _ => by
    rw [String.join_nil]
    decide
  | item :: rest, h => by
    obtain ⟨hitem, hrest⟩ := List.forall_mem_cons.1 h
    rw [String.join_cons]
    exact hitem.append (nested_join hrest)

theorem nested_intercalate {separator : String} (h : Nested separator) :
    ∀ {items : List String}, (∀ item ∈ items, Nested item) →
      Nested (String.intercalate separator items)
  | [], _ => by
    rw [String.intercalate_nil]
    decide
  | [item], hitems => by simpa using hitems
  | first :: second :: rest, hitems => by
    obtain ⟨hfirst, hrest⟩ := List.forall_mem_cons.1 hitems
    rw [String.intercalate_cons_cons]
    exact (hfirst.append h).append (nested_intercalate h hrest)

/-! ## The brackets of a text -/

/-- The text without all that is no bracket. -/
def brackets (s : List Char) : List Char := s.filter isBracket

theorem brackets_append (s t : List Char) : brackets (s ++ t) = brackets s ++ brackets t :=
  List.filter_append ..

theorem brackets_eq_nil {s : List Char} (h : ∀ c ∈ s, isBracket c = false) : brackets s = [] := by
  simpa [brackets] using h

theorem brackets_singleton_eq_nil {c : Char} (h : isBracket c = false) : brackets [c] = [] :=
  brackets_eq_nil fun d hd => by rwa [List.mem_singleton.1 hd]

/-- Only brackets matter. -/
theorem pending_brackets : ∀ (s stack : List Char), pending stack (brackets s) = pending stack s
  | [], _ => rfl
  | c :: s, stack => by
    cases hc : isBracket c with
    | false =>
      rw [brackets, List.filter_cons_of_neg (by simp [hc]), ← brackets, pending, touch_plain hc,
        Option.bind_some, pending_brackets s]
    | true =>
      rw [brackets, List.filter_cons_of_pos hc, ← brackets, pending, pending]
      simp only [pending_brackets s]

theorem Nested.of_brackets {s t : String} (h : Nested s)
    (he : brackets t.toList = brackets s.toList) : Nested t := by
  rw [nested_iff, Leads] at *
  rw [← pending_brackets, he, pending_brackets, h]

theorem nested_of_no_bracket {s : String} (h : ∀ c ∈ s.toList, isBracket c = false) :
    Nested s := by
  have hempty : Nested "" := by decide
  exact hempty.of_brackets (brackets_eq_nil h)

theorem brackets_flatMap {α : Type} (f : α → List Char) (items : List α) :
    brackets (items.flatMap f) = items.flatMap fun item => brackets (f item) := by
  induction items with
  | nil => rfl
  | cons item rest ih => rw [List.flatMap_cons, brackets_append, ih, List.flatMap_cons]

/-- Mapping each character to a text with its brackets keeps the brackets. -/
theorem brackets_flatMap_eq {f : Char → List Char} (h : ∀ c, brackets (f c) = brackets [c])
    (s : List Char) : brackets (s.flatMap f) = brackets s := by
  induction s with
  | nil => rfl
  | cons c s ih => rw [List.flatMap_cons, brackets_append, h, ih, ← brackets_append]; rfl

/-! ## Identifiers -/

/-- What is checked of the six brackets holds of every bracket. -/
theorem of_isBracket {p : Char → Bool} (hall : ['(', '[', '\x7b', ')', ']', '\x7d'].all p = true)
    {c : Char} (h : isBracket c = true) : p c = true := by
  refine List.all_eq_true.1 hall c ?_
  rw [isBracket, Bool.or_eq_true] at h
  rcases h with h | h
  · unfold closer? at h
    split at h <;> simp_all
  · simp only [isCloser, Bool.or_eq_true, decide_eq_true_eq] at h
    rcases h with (rfl | rfl) | rfl <;> simp

/-- No case mapping touches a bracket. -/
theorem caseless_of_isBracket {c : Char} (h : isBracket c = true) : Caseless c :=
  of_decide_eq_true (of_isBracket (p := fun c => decide (Caseless c)) (by decide +kernel) h)

theorem brackets_lowerChar (c : Char) : brackets (lowerChar c) = brackets [c] := by
  cases hc : isBracket c with
  | true => rw [(caseless_of_isBracket hc).lowerChar_eq]
  | false =>
    rw [brackets_singleton_eq_nil hc]
    refine brackets_eq_nil fun d hd => Bool.eq_false_iff.2 fun hb => ?_
    rw [(caseless_of_isBracket hb).mem_lowerChar.1 hd, hb] at hc
    cases hc

theorem brackets_upperChar (c : Char) : brackets (upperChar c) = brackets [c] := by
  cases hc : isBracket c with
  | true => rw [(caseless_of_isBracket hc).upperChar_eq]
  | false =>
    rw [brackets_singleton_eq_nil hc]
    refine brackets_eq_nil fun d hd => Bool.eq_false_iff.2 fun hb => ?_
    rw [(caseless_of_isBracket hb).mem_upperChar.1 hd, hb] at hc
    cases hc

theorem brackets_lowerFrom : ∀ (before s : List Char), brackets (lowerFrom before s) = brackets s
  | _, [] => rfl
  | before, c :: rest => by
    have hc : brackets (if c = 'Σ' then [lowerSigma before rest] else lowerChar c) =
        brackets [c] := by
      split
      · rename_i hs
        subst hs
        unfold lowerSigma
        split <;> decide
      · exact brackets_lowerChar c
    rw [lowerFrom, brackets_append, hc, brackets_lowerFrom, ← brackets_append]
    rfl

theorem brackets_lowerChars (s : List Char) : brackets (lowerChars s) = brackets s :=
  brackets_lowerFrom [] s

end Scaffold.Text

namespace Scaffold.Naming

open Text

theorem brackets_capitalizeChars (s : List Char) : brackets (capitalizeChars s) = brackets s := by
  cases s with
  | nil => rfl
  | cons c rest =>
    rw [capitalizeChars, brackets_append, brackets_upperChar,
      brackets_flatMap_eq brackets_lowerChar, ← brackets_append]
    rfl

theorem isBracket_of_isSeparator {c : Char} (h : isSeparator c = true) : isBracket c = false := by
  rcases isSeparator_iff.1 h with rfl | rfl <;> rfl

/-- Cutting at separators loses no bracket. -/
theorem flatMap_brackets_splitOnP : ∀ s : List Char,
    (s.splitOnP isSeparator).flatMap brackets = brackets s
  | [] => rfl
  | c :: s => by
    rw [List.splitOnP_cons_eq_if_modifyHead]
    split
    · rename_i hc
      rw [List.flatMap_cons, flatMap_brackets_splitOnP s, brackets, brackets, brackets,
        List.filter_cons_of_neg (by simp [isBracket_of_isSeparator hc])]
      rfl
    · obtain ⟨first, rest, hs⟩ := List.exists_cons_of_ne_nil (List.splitOnP_ne_nil isSeparator s)
      have ih := flatMap_brackets_splitOnP s
      rw [hs, List.flatMap_cons] at ih
      rw [hs, List.modifyHead_cons, List.flatMap_cons, ← List.singleton_append, brackets_append,
        List.append_assoc, ih, ← brackets_append]
      rfl

theorem flatMap_brackets_segments (s : List Char) :
    (segments s).flatMap brackets = brackets s := by
  rw [← flatMap_brackets_splitOnP s, segments]
  induction s.splitOnP isSeparator with
  | nil => rfl
  | cons piece rest ih =>
    cases piece with
    | nil => simpa [brackets] using ih
    | cons c piece => simp [ih]

theorem brackets_pascalChars (s : List Char) : brackets (pascalChars s) = brackets s := by
  rw [pascalChars, brackets_flatMap]
  simp only [brackets_capitalizeChars, flatMap_brackets_segments]

theorem brackets_camelChars (s : List Char) : brackets (camelChars s) = brackets s := by
  have hs := flatMap_brackets_segments s
  unfold camelChars
  split
  · rename_i hnil
    rw [← hs, hnil]
    rfl
  · rename_i first rest hcons
    rw [← hs, hcons, brackets_append, brackets_lowerChars, brackets_flatMap, List.flatMap_cons]
    simp only [brackets_capitalizeChars]

theorem brackets_exchange {old new : Char} (hold : isBracket old = false)
    (hnew : isBracket new = false) (s : List Char) : brackets (exchange old new s) = brackets s := by
  rw [exchange, List.map_eq_flatMap]
  refine brackets_flatMap_eq (fun c => ?_) s
  split
  · rename_i hc
    subst hc
    rw [brackets_singleton_eq_nil hnew, brackets_singleton_eq_nil hold]
  · rfl

theorem brackets_pluralChars (s : List Char) : brackets (pluralChars s) = brackets s := by
  have hies : brackets ['i', 'e', 's'] = [] := by decide
  unfold pluralChars
  split
  · rename_i hy
    obtain ⟨stem, rfl⟩ := List.getLast?_eq_some_iff.1 hy
    rw [List.dropLast_concat, brackets_append, brackets_append, hies]
    rfl
  · have hend : brackets ['e', 's'] = [] ∧ brackets ['s'] = [] := by decide
    split
    · rw [brackets_append, hend.1, List.append_nil]
    · rw [brackets_append, hend.2, List.append_nil]

end Scaffold.Naming

namespace Scaffold.Text

open Naming

section Names

variable {s : String} (h : Nested s)
include h

theorem Nested.lower : Nested (lower s) :=
  h.of_brackets (by rw [Text.lower, String.toList_ofList, brackets_lowerChars])

theorem Nested.pascal : Nested (pascal s) :=
  h.of_brackets (by rw [Naming.pascal, String.toList_ofList, brackets_pascalChars])

theorem Nested.camel : Nested (camel s) :=
  h.of_brackets (by rw [Naming.camel, String.toList_ofList, brackets_camelChars])

theorem Nested.kebab : Nested (kebab s) := by
  refine h.of_brackets ?_
  rw [Naming.kebab, String.toList_ofList, kebabChars, brackets_exchange rfl rfl,
    brackets_lowerChars]

theorem Nested.pluralize : Nested (pluralize s) :=
  h.of_brackets (by rw [Naming.pluralize, String.toList_ofList, brackets_pluralChars])

/-- Dropping a mark at the beginning of a text. -/
theorem Nested.dropWhile {p : Char → Bool} (hp : ∀ c, p c = true → isBracket c = false) :
    Nested (.ofList (s.toList.dropWhile p)) := by
  refine h.of_brackets ?_
  have hdropped : brackets (s.toList.takeWhile p) = [] :=
    brackets_eq_nil fun c hc => hp c (List.all_eq_true.1 List.all_takeWhile c hc)
  conv => rhs; rw [← List.takeWhile_append_dropWhile (p := p) (l := s.toList)]
  rw [String.toList_ofList, brackets_append, hdropped, List.nil_append]

end Names

theorem nested_intDigits (n : Int) : Nested (intDigits n) := by
  refine nested_of_no_bracket fun c hc => Bool.eq_false_iff.2 fun hb => ?_
  have hbracket := of_isBracket (p := fun b => b != '-' && !b.isDigit) (by decide) hb
  obtain ⟨hminus, hdigit⟩ : c ≠ '-' ∧ c.isDigit = false := by simpa using hbracket
  rcases mem_intDigits hc with h | h
  · exact hminus h
  · rw [hdigit] at h
    cases h

end Scaffold.Text
