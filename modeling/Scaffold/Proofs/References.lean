import Mathlib.Data.List.Infix
import Scaffold.Proofs.PlainPrograms

/-!
# References in generated code

A reference is a qualifier, a dot and a name, such as `dtos.CreateProductRequest`. `Scope.Cites` says
of a text that it is put together from names that were given, from references to names that are
declared, and from pieces that are quiet: at each dot they show that no qualifier stands before it.
Names may hold anything, so they can spell a reference of their own; as long as they are quiet,
whatever reads as a reference in such a text is one (`Scope.Cites.exists_name`).
-/

set_option autoImplicit false

namespace Scaffold.Code

/-! ## The texts of a program -/

mutual

/-- The texts that an instruction writes, without their indentation. -/
def Op.texts : Op → List String
  | .line s => [s]
  | .block header body close => header :: (Op.allTexts body ++ [close])
  | .indented body => Op.allTexts body
  | .blank | .lines _ | .raw _ | .indent | .dedent => []

def Op.allTexts : List Op → List String
  | [] => []
  | op :: rest => op.texts ++ Op.allTexts rest

end

theorem Op.allTexts_eq (ops : List Op) : Op.allTexts ops = ops.flatMap Op.texts := by
  induction ops with
  | nil => rfl
  | cons op rest ih => rw [Op.allTexts, ih, List.flatMap_cons]

theorem Op.allTexts_append (a b : List Op) :
    Op.allTexts (a ++ b) = Op.allTexts a ++ Op.allTexts b := by
  simp [Op.allTexts_eq]

theorem Op.allTexts_map {α : Type} (items : List α) (op : α → Op) :
    Op.allTexts (items.map op) = items.flatMap fun item => (op item).texts := by
  simp [Op.allTexts_eq, List.flatMap_map]

theorem Op.mem_allTexts_separated {s : String} {programs : List Program}
    (h : s ∈ Op.allTexts (Program.separated programs)) :
    ∃ program ∈ programs, s ∈ Op.allTexts program := by
  simp only [Op.allTexts_eq, List.mem_flatMap] at h ⊢
  obtain ⟨op, hop, hs⟩ := h
  rcases Program.mem_separated hop with rfl | ⟨program, hp, hop⟩
  · cases hs
  · exact ⟨program, hp, op, hop, hs⟩

mutual

/-- A written line is empty or one of the texts at its level. -/
theorem Op.mem_written {unit : Indent} {line : String} :
    ∀ {level : Nat} {op : Op}, line ∈ op.written unit level →
      line = "" ∨ ∃ n, ∃ s ∈ op.texts, line = lineAt unit n s
  | level, .line s, h => .inr ⟨level, s, .head _, List.mem_singleton.1 h⟩
  | _, .blank, h => .inl (List.mem_singleton.1 h)
  | level, .block header body close, h => by
    rw [Op.written, List.mem_cons, List.mem_append, List.mem_singleton] at h
    rcases h with h | h | h
    · exact .inr ⟨level, header, .head _, h⟩
    · refine (Op.mem_allWritten h).imp_right fun ⟨n, s, hs, hl⟩ => ⟨n, s, ?_, hl⟩
      exact .tail _ (List.mem_append_left _ hs)
    · exact .inr ⟨level, close, .tail _ (List.mem_append_right _ (.head _)), h⟩
  | _, .indented body, h => Op.mem_allWritten (by rwa [Op.written] at h)

theorem Op.mem_allWritten {unit : Indent} {line : String} :
    ∀ {level : Nat} {ops : List Op}, line ∈ Op.allWritten unit level ops →
      line = "" ∨ ∃ n, ∃ s ∈ Op.allTexts ops, line = lineAt unit n s
  | level, op :: rest, h => by
    rw [Op.allWritten, List.mem_append] at h
    rcases h with h | h
    · exact (Op.mem_written h).imp_right fun ⟨n, s, hs, hl⟩ =>
        ⟨n, s, List.mem_append_left _ hs, hl⟩
    · exact (Op.mem_allWritten h).imp_right fun ⟨n, s, hs, hl⟩ =>
        ⟨n, s, List.mem_append_right _ hs, hl⟩

end

/-! ## Quiet texts -/

/-- At each dot the text shows that no qualifier stands before it, if it follows a text that ends in
`seen`, read backwards. -/
def isQuietFrom (qualifiers : List (List Char)) (seen : List Char) : List Char → Bool
  | [] => true
  | c :: rest =>
    (c != '.' || qualifiers.all fun q =>
      !q.reverse.isPrefixOf seen && !seen.isPrefixOf q.reverse) &&
    isQuietFrom qualifiers (c :: seen) rest

theorem isQuietFrom_iff {qualifiers : List (List Char)} {s : List Char} :
    ∀ {seen : List Char}, isQuietFrom qualifiers seen s = true ↔
      ∀ q ∈ qualifiers, ∀ u v, s = u ++ '.' :: v →
        ¬ q <:+ seen.reverse ++ u ∧ ¬ seen.reverse ++ u <:+ q := by
  induction s with
  | nil => simp [isQuietFrom]
  | cons c s ih =>
    intro seen
    rw [isQuietFrom, Bool.and_eq_true, ih, Bool.or_eq_true, List.all_eq_true]
    have hseen : ∀ q, (!q.reverse.isPrefixOf seen && !seen.isPrefixOf q.reverse) = true ↔
        ¬ q <:+ seen.reverse ∧ ¬ seen.reverse <:+ q := fun q => by
      rw [← List.reverse_prefix, ← List.reverse_prefix, List.reverse_reverse, Bool.and_eq_true,
        Bool.not_eq_true', Bool.not_eq_true', ← List.isPrefixOf_iff_prefix,
        ← List.isPrefixOf_iff_prefix, Bool.not_eq_true, Bool.not_eq_true]
    constructor
    · rintro ⟨hc, hrest⟩ q hq (_ | ⟨d, u⟩) v h <;> obtain ⟨rfl, rfl⟩ := List.cons.inj h
      · simpa using (hseen q).1 (hc.resolve_left (by simp) q hq)
      · simpa using hrest q hq u v rfl
    · intro h
      refine ⟨?_, fun q hq u v hs => by simpa using h q hq (c :: u) v (by rw [hs]; rfl)⟩
      by_cases hc : c = '.'
      · exact .inr fun q hq => (hseen q).2 (by simpa using h q hq [] s (by rw [hc]; rfl))
      · exact .inl (by simpa using hc)

theorem isQuietFrom_append {qualifiers : List (List Char)} (s t : List Char) :
    ∀ seen, isQuietFrom qualifiers seen (s ++ t) =
      (isQuietFrom qualifiers seen s && isQuietFrom qualifiers (s.reverse ++ seen) t) := by
  induction s with
  | nil => intro seen; rfl
  | cons c s ih =>
    intro seen
    rw [List.cons_append, isQuietFrom, isQuietFrom, ih, Bool.and_assoc, List.reverse_cons,
      List.append_assoc, List.singleton_append]

/-- A text without a dot. -/
theorem isQuietFrom_of_not_mem {qualifiers : List (List Char)} {s seen : List Char} (h : '.' ∉ s) :
    isQuietFrom qualifiers seen s = true :=
  isQuietFrom_iff.2 fun _ _ u v hs => absurd (by simp [hs]) h

/-- What comes before the text so far makes no difference. -/
theorem isQuietFrom_after {qualifiers : List (List Char)} {s seen : List Char}
    (h : isQuietFrom qualifiers seen s = true) (more : List Char) :
    isQuietFrom qualifiers (seen ++ more) s = true := by
  refine isQuietFrom_iff.2 fun q hq u v hs => ?_
  obtain ⟨hnq, hnu⟩ := isQuietFrom_iff.1 h q hq u v hs
  have hsuffix : seen.reverse ++ u <:+ (seen ++ more).reverse ++ u := ⟨more.reverse, by simp⟩
  exact ⟨fun h => (List.suffix_or_suffix_of_suffix h hsuffix).elim hnq hnu,
    fun h => hnu (hsuffix.trans h)⟩

/-! ## Scopes -/

/-- A character that names in code are made of. -/
def isNameChar (c : Char) : Bool := c.isAlphanum || c = '_'

/-- The text does not go on with a name. -/
def Delimited (s : List Char) : Prop := ∀ c ∈ s.head?, isNameChar c = false

/-- What the texts of a generation may refer to. -/
structure Scope where
  /-- The texts that come from outside of the templates. -/
  given : List String
  /-- The qualifiers with the names that are declared behind them. -/
  links : List (List Char × List String)
  isName : ∀ q ∈ links.map (·.1), q.all isNameChar = true
  apart : ∀ q ∈ links.map (·.1), ∀ r ∈ links.map (·.1), q <:+ r → q = r

namespace Scope

variable {σ : Scope}

def qualifiers (σ : Scope) : List (List Char) := σ.links.map (·.1)

/-- A character that is not part of names is not part of a qualifier. -/
theorem not_mem_qualifier {c : Char} (hc : isNameChar c = false) {q : List Char}
    (hq : q ∈ σ.qualifiers) : c ∉ q := fun h => by
  simp [List.all_eq_true.1 (σ.isName q hq) c h] at hc

/-- The name is declared behind the qualifier. -/
def Declares (σ : Scope) (q : List Char) (name : String) : Prop :=
  ∃ names, (q, names) ∈ σ.links ∧ name ∈ names

/-- The text ends in the qualifier and a dot, and is quiet before them. -/
def leadsTo (qualifiers : List (List Char)) (seen q lead : List Char) : Bool :=
  (q ++ ['.']).isSuffixOf lead &&
    isQuietFrom qualifiers seen (lead.take (lead.length - (q.length + 1)))

/-- Behind a text that ends in `seen`, read backwards, the text refers only to what is declared. -/
inductive Cites (σ : Scope) : List Char → String → Prop
  | nil {seen : List Char} : Cites σ seen ""
  | quiet {seen : List Char} {s t : String}
    (h : isQuietFrom σ.qualifiers seen s.toList = true)
    (ht : Cites σ (s.toList.reverse ++ seen) t) : Cites σ seen (s ++ t)
  | given {seen : List Char} {s t : String} (h : s ∈ σ.given) (ht : Cites σ [] t) :
    Cites σ seen (s ++ t)
  /-- A declared name without its qualifier. -/
  | own {seen q : List Char} {name t : String} (h : σ.Declares q name) (ht : Cites σ [] t) :
    Cites σ seen (name ++ t)
  | reference {seen q : List Char} {name t : String} (h : σ.Declares q name)
    (hd : Delimited t.toList) (ht : Cites σ [] t) : Cites σ seen (.ofList q ++ "." ++ name ++ t)

namespace Cites

variable {seen : List Char}

theorem of_append_empty {s : String} (h : Cites σ seen (s ++ "")) : Cites σ seen s := by
  rwa [String.append_empty] at h

/-- What comes before the text so far makes no difference. -/
theorem after {t : String} (h : Cites σ seen t) (more : List Char) : Cites σ (seen ++ more) t := by
  induction h with
  | nil => exact .nil
  | quiet h _ ih =>
    exact .quiet (isQuietFrom_after h more) (by rwa [← List.append_assoc])
  | given h ht => exact .given h ht
  | own h ht => exact .own h ht
  | reference h hd ht => exact .reference h hd ht

/-- A literal. -/
theorem lit {s : List Char} {t : String} (h : isQuietFrom σ.qualifiers seen s = true)
    (ht : Cites σ (s.reverse ++ seen) t) : Cites σ seen (.ofList s ++ t) :=
  .quiet (by rwa [String.toList_ofList]) (by rwa [String.toList_ofList])

/-- A literal that ends in a qualifier and a dot, and the name behind it. -/
theorem link {q lead : List Char} {name t : String} (h : σ.Declares q name)
    (hlead : leadsTo σ.qualifiers seen q lead = true) (hd : Delimited t.toList)
    (ht : Cites σ [] t) : Cites σ seen (.ofList lead ++ (name ++ t)) := by
  obtain ⟨hq, hlead⟩ := (Bool.and_eq_true _ _).mp hlead
  obtain ⟨front, rfl⟩ := List.isSuffixOf_iff_suffix.1 hq
  rw [List.length_append, List.length_append, List.length_singleton, Nat.add_sub_cancel,
    List.take_left'] at hlead
  · have htext : String.ofList (front ++ (q ++ ['.'])) ++ (name ++ t) =
        .ofList front ++ (.ofList q ++ "." ++ name ++ t) := by
      simp [← String.toList_inj]
    rw [htext]
    exact lit hlead (.reference h hd ht)
  · rfl

theorem link_lit {q lead : List Char} {name : String} {c : Char} {s : List Char} {t : String}
    (h : σ.Declares q name) (hlead : leadsTo σ.qualifiers seen q lead = true)
    (hc : isNameChar c = false) (ht : Cites σ [] (.ofList (c :: s) ++ t)) :
    Cites σ seen (.ofList lead ++ (name ++ (.ofList (c :: s) ++ t))) :=
  link h hlead (by simpa [Delimited] using hc) ht

theorem link_end {q lead : List Char} {name : String} (h : σ.Declares q name)
    (hlead : leadsTo σ.qualifiers seen q lead = true) :
    Cites σ seen (.ofList lead ++ (name ++ "")) :=
  link h hlead (by simp [Delimited]) .nil

/-- A qualifier, a dot and a name, each a piece of its own. -/
theorem reference_lit {q : List Char} {name : String} {c : Char} {s : List Char} {t : String}
    (h : σ.Declares q name) (hc : isNameChar c = false) (ht : Cites σ [] (.ofList (c :: s) ++ t)) :
    Cites σ seen (.ofList q ++ ("." ++ (name ++ (.ofList (c :: s) ++ t)))) := by
  have htext : String.ofList q ++ ("." ++ (name ++ (.ofList (c :: s) ++ t))) =
      .ofList q ++ "." ++ name ++ (.ofList (c :: s) ++ t) := by
    simp only [String.append_assoc]
  rw [htext]
  exact .reference h (by simpa [Delimited] using hc) ht

/-- A text without a dot. -/
theorem dotless {s t : String} (h : '.' ∉ s.toList) (ht : Cites σ (s.toList.reverse ++ seen) t) :
    Cites σ seen (s ++ t) :=
  .quiet (isQuietFrom_of_not_mem h) ht

end Cites

/-- A text that may stand between any others. -/
def Piece (σ : Scope) (s : String) : Prop := ∀ seen t, σ.Cites [] t → σ.Cites seen (s ++ t)

namespace Piece

theorem of_mem {s : String} (h : s ∈ σ.given) : σ.Piece s := fun _ _ => .given h

theorem of_declares {q : List Char} {name : String} (h : σ.Declares q name) : σ.Piece name :=
  fun _ _ => .own h

theorem of_isQuiet {s : String} (h : isQuietFrom σ.qualifiers [] s.toList = true) : σ.Piece s :=
  fun seen _ ht => .quiet (isQuietFrom_after h seen) (ht.after _)

theorem of_dotless {s : String} (h : '.' ∉ s.toList) : σ.Piece s :=
  of_isQuiet (isQuietFrom_of_not_mem h)

theorem append {s t : String} (hs : σ.Piece s) (ht : σ.Piece t) : σ.Piece (s ++ t) :=
  fun seen u hu => by
    rw [String.append_assoc]
    exact hs seen _ (ht [] u hu)

theorem cites {seen : List Char} {s t : String} (h : σ.Piece s) (ht : σ.Cites [] t) :
    σ.Cites seen (s ++ t) :=
  h seen t ht

end Piece

/-! ## Lines -/

theorem suffix_of_suffix_cons {c : Char} {q a b : List Char} (h : q <:+ a ++ c :: b) (hc : c ∉ q) :
    q <:+ b := by
  rcases List.suffix_or_suffix_of_suffix h (List.suffix_append a (c :: b)) with h | h
  · rcases List.suffix_cons_iff.1 h with rfl | h
    · exact absurd List.mem_cons_self hc
    · exact h
  · exact absurd (h.subset List.mem_cons_self) hc

section

variable {c d : Char} (hd : isNameChar d = false)
include hd

/-- Which character stands between names makes no difference, nor does what comes before it. -/
theorem isQuietFrom_boundary {s seen before before' : List Char}
    (h : isQuietFrom σ.qualifiers (seen ++ c :: before) s = true) :
    isQuietFrom σ.qualifiers (seen ++ d :: before') s = true := by
  refine isQuietFrom_iff.2 fun q hq u v hs => ?_
  have hnot := (isQuietFrom_iff.1 h q hq u v hs).1
  have hreverse (c : Char) (before : List Char) :
      (seen ++ c :: before).reverse ++ u = before.reverse ++ c :: (seen.reverse ++ u) := by
    simp
  rw [hreverse] at hnot ⊢
  refine ⟨fun hsuffix => hnot ?_, fun hsuffix => ?_⟩
  · exact (suffix_of_suffix_cons hsuffix (not_mem_qualifier hd hq)).trans
      ⟨before.reverse ++ [c], by simp⟩
  · exact not_mem_qualifier hd hq (hsuffix.subset (by simp))

theorem Cites.boundary (seen : List Char) {before before' : List Char} {t : String}
    (h : σ.Cites (seen ++ c :: before) t) : σ.Cites (seen ++ d :: before') t := by
  generalize hs : seen ++ c :: before = whole at h
  induction h generalizing seen with
  | nil => exact .nil
  | @quiet _ s t h _ ih =>
    subst hs
    refine .quiet (isQuietFrom_boundary hd h) ?_
    rw [← List.append_assoc]
    exact ih _ (List.append_assoc ..)
  | given h ht => exact .given h ht
  | own h ht => exact .own h ht
  | reference h hd ht => exact .reference h hd ht

end

theorem mem_margin {unit : Indent} {level : Nat} {c : Char}
    (h : c ∈ (Page.margin unit level).toList) : c ∈ [' ', '\t'] := by
  have hunit : ∀ c ∈ unit.unit.toList, c ∈ [' ', '\t'] := by
    unfold Indent.unit
    split <;> simp
  induction level with
  | zero => simp [Page.margin] at h
  | succ level ih =>
    rw [Page.margin, List.replicate_succ, String.join_cons, String.toList_append,
      List.mem_append] at h
    exact h.elim (hunit c) ih

/-- The lines of a program cite what its texts cite. -/
theorem Cites.of_mem_written {unit : Indent} {level : Nat} {ops : List Op} {line : String}
    (h : ∀ s ∈ Op.allTexts ops, σ.Cites ['\n'] s) (hl : line ∈ Op.allWritten unit level ops) :
    σ.Cites ['\n'] line := by
  rcases Op.mem_allWritten hl with rfl | ⟨n, s, hs, rfl⟩
  · exact .nil
  · refine dotless (fun hdot => absurd (mem_margin hdot) (by simp)) ?_
    match hm : (Page.margin unit n).toList.reverse with
    | [] => exact h s hs
    | c :: rest =>
      have hblank : c ∈ [' ', '\t'] := mem_margin (List.mem_reverse.1 (hm ▸ List.mem_cons_self))
      have hc : isNameChar c = false := by
        rcases List.mem_pair.1 hblank with rfl | rfl <;> rfl
      exact boundary hc [] (h s hs)

/-! ## Reading references -/

/-- The texts and names of a scope spell no reference of their own. -/
structure IsClear (σ : Scope) : Prop where
  given : ∀ s ∈ σ.given, isQuietFrom σ.qualifiers [] s.toList = true
  declared : ∀ q name, σ.Declares q name → isQuietFrom σ.qualifiers [] name.toList = true

theorem Declares.mem_qualifiers {q : List Char} {name : String} (h : σ.Declares q name) :
    q ∈ σ.qualifiers := by
  obtain ⟨names, hn, -⟩ := h
  exact List.mem_map.2 ⟨_, hn, rfl⟩

/-- A dot that is in the second or in the third of three texts. -/
theorem dot_cases {x s t u v : List Char} (h : x ++ (s ++ t) = u ++ '.' :: v)
    (hv : v.length < (s ++ t).length) :
    v.length < t.length ∨ ∃ w r, s = w ++ '.' :: r ∧ u = x ++ w ∧ v = r ++ t := by
  rw [← List.append_assoc] at h
  rcases List.append_eq_append_iff.1 h with ⟨w, -, rfl⟩ | ⟨_ | ⟨d, r⟩, hxs, hr⟩
  · exact .inl (by simp; omega)
  · exact .inl (by rw [← List.nil_append t, ← hr]; simp)
  · obtain ⟨rfl, rfl⟩ := List.cons.inj (hr.trans (List.cons_append ..))
    rcases List.append_eq_append_iff.1 hxs with ⟨w, rfl, hw⟩ | ⟨w, rfl, hw⟩
    · exact .inr ⟨w, r, hw, rfl, rfl⟩
    · have hlen := congrArg List.length hw
      simp only [List.length_append, List.length_cons] at hlen hv
      obtain rfl : w = [] := List.length_eq_zero_iff.1 (by omega)
      exact .inr ⟨[], r, hw.symm, by simp, rfl⟩

section

variable {q : List Char} (hq : q ∈ σ.qualifiers)
include hq

/-- A dot in a quiet piece stands behind no qualifier. -/
theorem not_suffix_of_isQuietFrom {seen s x w r : List Char}
    (hs : isQuietFrom σ.qualifiers seen s = true) (hx : seen.reverse <:+ x)
    (hw : s = w ++ '.' :: r) : ¬ q <:+ x ++ w := fun h => by
  obtain ⟨hnq, hnu⟩ := isQuietFrom_iff.1 hs q hq w r hw
  obtain ⟨front, rfl⟩ := hx
  exact (List.suffix_or_suffix_of_suffix h ⟨front, by simp⟩).elim hnq hnu

variable (hσ : σ.IsClear)
include hσ

/-- What reads as a reference in a text is one; `x` is all that stands before the text. -/
theorem Cites.exists_name_after {seen : List Char} {t : String} (h : σ.Cites seen t) :
    ∀ {x before after : List Char}, seen.reverse <:+ x →
      x ++ t.toList = before ++ q ++ '.' :: after → after.length < t.toList.length →
      ∃ name, σ.Declares q name ∧ ∃ rest, after = name.toList ++ rest ∧ Delimited rest := by
  induction h with
  | nil => intro x before after _ _ h; simp at h
  | @quiet seen s t hs _ ih =>
    intro x before after hx h hlen
    rw [String.toList_append] at h hlen
    rcases dot_cases h hlen with hlen | ⟨w, r, hw, hbefore, rfl⟩
    · refine ih ?_ (by rwa [List.append_assoc]) hlen
      obtain ⟨front, rfl⟩ := hx
      exact ⟨front, by simp⟩
    · exact absurd ⟨before, hbefore⟩ (not_suffix_of_isQuietFrom hq hs hx hw)
  | given hs _ ih =>
    intro x before after _ h hlen
    rw [String.toList_append] at h hlen
    rcases dot_cases h hlen with hlen | ⟨w, r, hw, hbefore, rfl⟩
    · exact ih List.nil_suffix (by rwa [List.append_assoc]) hlen
    · exact absurd ⟨before, hbefore⟩
        (not_suffix_of_isQuietFrom hq (hσ.given _ hs) List.nil_suffix hw)
  | own hname _ ih =>
    intro x before after _ h hlen
    rw [String.toList_append] at h hlen
    rcases dot_cases h hlen with hlen | ⟨w, r, hw, hbefore, rfl⟩
    · exact ih List.nil_suffix (by rwa [List.append_assoc]) hlen
    · exact absurd ⟨before, hbefore⟩
        (not_suffix_of_isQuietFrom hq (hσ.declared _ _ hname) List.nil_suffix hw)
  | @reference seen r name t hname hd _ ih =>
    intro x before after _ h hlen
    have htext : (String.ofList r ++ "." ++ name ++ t).toList =
        (r ++ ['.']) ++ (name.toList ++ t.toList) := by
      simp
    rw [htext] at h hlen
    rcases dot_cases h hlen with hlen | ⟨w, u, hw, hbefore, rfl⟩
    · rw [← List.append_assoc] at h
      rcases dot_cases h hlen with hlen | ⟨w, u, hw, hbefore, rfl⟩
      · exact ih List.nil_suffix (by rwa [← List.append_assoc] at h) hlen
      · exact absurd ⟨before, hbefore⟩
          (not_suffix_of_isQuietFrom hq (hσ.declared _ _ hname) List.nil_suffix hw)
    · -- The dot is the one behind the qualifier, which ends what the other qualifier ends.
      have hdot : '.' ∉ r := not_mem_qualifier (by decide) hname.mem_qualifiers
      obtain ⟨rfl, -, rfl⟩ := (List.append_cons_inj_of_notMem hdot List.not_mem_nil).1 hw
      have heq : q = r := by
        have hsuffix : q <:+ x ++ r := ⟨before, hbefore⟩
        rcases List.suffix_or_suffix_of_suffix hsuffix (List.suffix_append x r) with h | h
        · exact σ.apart q hq r hname.mem_qualifiers h
        · exact (σ.apart r hname.mem_qualifiers q hq h).symm
      exact ⟨name, heq ▸ hname, t.toList, rfl, hd⟩

/-- What reads as a reference in a line is one. -/
theorem Cites.exists_name {line : String} (h : σ.Cites ['\n'] line) {before after : List Char}
    (hl : line.toList = before ++ q ++ '.' :: after) :
    ∃ name, σ.Declares q name ∧ ∃ rest, after = name.toList ++ rest ∧ Delimited rest := by
  have hwhole : ['\n'] ++ line.toList = ('\n' :: before) ++ q ++ '.' :: after := by simp [hl]
  refine h.exists_name_after hq hσ List.suffix_rfl hwhole ?_
  rw [hl, List.length_append, List.length_cons]
  omega

end

end Scope

end Scaffold.Code
