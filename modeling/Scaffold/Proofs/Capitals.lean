import Mathlib.Data.List.SplitBy
import Scaffold.Proofs.Containment
import Scaffold.Proofs.Styles

/-!
# What the styles keep of a usual name

Pascal and camel case drop the separators of a name and leave a capital at the head of each segment
behind. In a usual name, of small letters and digits with a letter at the head of each segment, there
are no other capitals, so that the segments can be read back (`segments_pascalChars`). Two usual
names have one Pascal case, one camel case, a class file or a member in common exactly if they have
the same segments (`IsUsual.shared_iff`).
-/

set_option autoImplicit false

namespace Scaffold.Naming

open Text

/-! ## Letters and digits -/

/-- A small letter from `a` to `z` or a digit. -/
def IsPlain (c : Char) : Prop := c.isLower = true ∨ c.isDigit = true

instance (c : Char) : Decidable (IsPlain c) := inferInstanceAs (Decidable (_ ∨ _))

theorem IsPlain.exists_code {c : Char} (h : IsPlain c) : ∃ n < 128, c = .ofNat n := by
  refine ⟨c.toNat, ?_, (Char.ofNat_toNat c).symm⟩
  have hranges : c.val ≥ 97 ∧ c.val ≤ 122 ∨ c.val ≥ 48 ∧ c.val ≤ 57 :=
    h.imp (fun h => by simpa using Bool.and_eq_true_iff.1 h)
      fun h => by simpa using Bool.and_eq_true_iff.1 h
  simp only [ge_iff_le, UInt32.le_iff_toNat_le] at hranges
  change 97 ≤ c.toNat ∧ c.toNat ≤ 122 ∨ 48 ≤ c.toNat ∧ c.toNat ≤ 57 at hranges
  omega

/-- A small letter has one capital, which leads back to it. -/
theorem upperChar_of_isLower {c : Char} (h : c.isLower = true) :
    upperChar c = [c.toUpper] ∧ c.toUpper.isUpper = true ∧ c.toUpper.toLower = c := by
  obtain ⟨n, hn, rfl⟩ := IsPlain.exists_code (.inl h)
  revert h n
  decide +kernel

/-- Small letters and digits are in lower case and are no capitals. -/
theorem IsPlain.isLower {c : Char} (h : IsPlain c) : IsLower c ∧ c.isUpper = false := by
  obtain ⟨n, hn, rfl⟩ := h.exists_code
  revert h n
  decide +kernel

/-! ## Usual names -/

/-- A name of small letters, digits and separators, with a letter at the head of each segment. -/
structure IsUsual (name : String) : Prop where
  chars : ∀ c ∈ name.toList, IsPlain c ∨ isSeparator c = true
  heads : ∀ segment ∈ segments name.toList, ∃ c ∈ segment.head?, c.isLower = true

instance (name : String) : Decidable (IsUsual name) :=
  decidable_of_iff
    ((name.toList.all fun c => decide (IsPlain c ∨ isSeparator c = true)) = true ∧
      ((segments name.toList).all fun segment => segment.head?.any Char.isLower) = true) <| by
    simp only [List.all_eq_true, decide_eq_true_eq, Option.any_eq_true]
    exact ⟨fun h => ⟨h.1, h.2⟩, fun h => ⟨h.chars, h.heads⟩⟩

/-- The names differ in their separators alone. -/
def SameSegments (a b : String) : Prop := segments a.toList = segments b.toList

/-- A letter, and behind it small letters and digits. -/
inductive IsWord : List Char → Prop
  | mk {c : Char} {rest : List Char} (letter : c.isLower = true)
      (plain : ∀ d ∈ rest, IsPlain d) : IsWord (c :: rest)

section
variable {name : String} (h : IsUsual name)
include h

theorem IsUsual.isLower : ∀ c ∈ name.toList, IsLower c := fun c hc =>
  (h.chars c hc).elim (fun hc => hc.isLower.1) isLower_of_isSeparator

theorem IsUsual.isWord {segment : List Char} (hs : segment ∈ segments name.toList) :
    IsWord segment := by
  obtain ⟨c, hc, hletter⟩ := h.heads segment hs
  obtain ⟨rest, rfl⟩ := List.head?_eq_some_iff.1 hc
  refine .mk hletter fun d hd => ?_
  have hmem : d ∈ c :: rest := .tail _ hd
  refine (h.chars d (mem_of_mem_segments hs hmem)).resolve_right fun hsep => ?_
  rw [isSeparator_of_mem_segments hs hmem] at hsep
  cases hsep

end

/-! ## Reading the segments back -/

/-- The pieces of a text, cut before each capital. -/
def cutAtCapitals (s : List Char) : List (List Char) := s.splitBy fun _ d => !d.isUpper

/-- The text with a small letter for a capital at its head. -/
def lowerFirst : List Char → List Char
  | [] => []
  | c :: rest => c.toLower :: rest

/-- A capitalized word has a capital at its head, which leads back to the letter, and no other. -/
theorem IsWord.exists_capitalizeChars {w : List Char} (h : IsWord w) :
    ∃ c capital rest, w = c :: rest ∧ capitalizeChars w = capital :: rest ∧
      capital.isUpper = true ∧ capital.toLower = c ∧ ∀ d ∈ rest, d.isUpper = false := by
  cases h with
  | @mk c rest letter plain =>
    have hlower : ∀ d ∈ c :: rest, IsLower d :=
      List.forall_mem_cons.2 ⟨(IsPlain.isLower (.inl letter)).1, fun d hd => (plain d hd).isLower.1⟩
    obtain ⟨hupper, hcapital, hback⟩ := upperChar_of_isLower letter
    refine ⟨c, c.toUpper, rest, rfl, ?_, hcapital, hback, fun d hd => (plain d hd).isLower.2⟩
    rw [capitalizeChars_eq hlower, upperFirst, hupper, List.singleton_append]

theorem IsWord.lowerFirst_capitalizeChars {w : List Char} (h : IsWord w) :
    lowerFirst (capitalizeChars w) = w := by
  obtain ⟨c, capital, rest, rfl, hcapitalize, -, rfl, -⟩ := h.exists_capitalizeChars
  rw [hcapitalize, lowerFirst]

/-- Capitalized words that were joined are cut apart again. -/
theorem cutAtCapitals_flatMap {words : List (List Char)} (h : ∀ w ∈ words, IsWord w) :
    cutAtCapitals (words.flatMap capitalizeChars) = words.map capitalizeChars := by
  have hshape : ∀ piece ∈ words.map capitalizeChars, ∃ capital rest, piece = capital :: rest ∧
      capital.isUpper = true ∧ ∀ d ∈ rest, d.isUpper = false := List.forall_mem_map.2 fun w hw => by
    obtain ⟨-, capital, rest, -, hcapitalize, hcapital, -, hrest⟩ := (h w hw).exists_capitalizeChars
    exact ⟨capital, rest, hcapitalize, hcapital, hrest⟩
  rw [cutAtCapitals, List.flatMap_def]
  refine List.splitBy_flatten (fun hnil => ?_) (fun piece hpiece => ?_) ?_
  · obtain ⟨c, rest, hne, -⟩ := hshape [] hnil
    cases hne
  · obtain ⟨c, rest, rfl, -, hrest⟩ := hshape piece hpiece
    refine List.Pairwise.isChain (List.pairwise_cons.2 ⟨?_, ?_⟩)
    · exact fun d hd => by simp [hrest d hd]
    · exact List.pairwise_of_forall_mem_list fun _ _ d hd => by simp [hrest d hd]
  · refine List.Pairwise.isChain (List.pairwise_of_forall_mem_list fun piece hpiece next hnext => ?_)
    obtain ⟨c, rest, rfl, -⟩ := hshape piece hpiece
    obtain ⟨d, more, rfl, hd, -⟩ := hshape next hnext
    exact ⟨List.cons_ne_nil c rest, List.cons_ne_nil d more, by simp [hd]⟩

/-- The segments of a usual name, read from its Pascal case. -/
theorem segments_pascalChars {name : String} (h : IsUsual name) :
    (cutAtCapitals (pascalChars name.toList)).map lowerFirst = segments name.toList := by
  rw [pascalChars, cutAtCapitals_flatMap fun _ => h.isWord, List.map_map]
  calc (segments name.toList).map (lowerFirst ∘ capitalizeChars)
      = (segments name.toList).map id :=
        List.map_congr_left fun _ hw => (h.isWord hw).lowerFirst_capitalizeChars
    _ = segments name.toList := List.map_id _

namespace IsUsual

variable {a b : String} (ha : IsUsual a) (hb : IsUsual b)
include ha hb

theorem pascal_eq_iff : pascal a = pascal b ↔ SameSegments a b := by
  rw [pascal, pascal, String.ofList_inj]
  constructor
  · intro h
    rw [SameSegments, ← segments_pascalChars ha, ← segments_pascalChars hb, h]
  · intro h
    rw [pascalChars, pascalChars, h]

/-- Camel case determines Pascal case. -/
theorem camel_eq_iff : camel a = camel b ↔ SameSegments a b := by
  rw [← pascal_eq_iff ha hb, camel, camel, pascal, pascal, String.ofList_inj, String.ofList_inj]
  constructor
  · intro h
    rw [pascalChars_eq ha.isLower, pascalChars_eq hb.isLower, h]
  · intro h
    have hsegments : SameSegments a b :=
      (pascal_eq_iff ha hb).1 (by rw [pascal, pascal, h])
    rw [camelChars, camelChars, hsegments]

end IsUsual

end Scaffold.Naming

/-! ## Class files -/

namespace Scaffold.LaravelModule

open Scaffold.Path

/-- The paths of the files that declare a class with a name, which are all but the migration. -/
def classPaths (p : Pagination) (b : Blueprint) : List String :=
  ArtifactSet.paths ((artifacts p b).filter (·.kind ≠ .migration))

/-- Where the class files of an entity stand. -/
def classParts (entity : String) : List (List String) :=
  [["app", "Models", entity ++ ".php"],
   ["app", "Http", "Controllers", entity ++ "Controller.php"],
   ["app", "Http", "Requests", entity ++ "Request.php"],
   ["app", "Http", "Resources", entity ++ "Resource.php"]] ++
  Action.all.map fun a => ["app", "UseCases", entity, a.name ++ (entity ++ "UseCase.php")]

theorem parts_classPaths (p : Pagination) {b : Blueprint}
    (h : parts b.entity.pascal = [b.entity.pascal]) :
    (classPaths p b).map parts = classParts b.entity.pascal := by
  have hclasses : classPaths p b = (artifacts p b).paths.take 1 ++ (artifacts p b).paths.drop 2 := rfl
  rw [hclasses, List.map_append, List.map_take, List.map_drop, parts_paths, h]
  rfl

/-- A class file stands in a place that belongs to one entity alone. -/
theorem eq_of_mem_classParts {e e' : String} {place : List String} (h : place ∈ classParts e)
    (h' : place ∈ classParts e') : e = e' := by
  simp only [classParts, List.mem_append, List.mem_cons, List.not_mem_nil, or_false,
    List.mem_map] at h h'
  rcases h with (rfl | rfl | rfl | rfl) | ⟨a, -, rfl⟩ <;>
    rcases h' with (h' | h' | h' | h') | ⟨a', -, h'⟩ <;> simp_all

end Scaffold.LaravelModule

namespace Scaffold.Naming.IsUsual

open LaravelModule

/-! ## What two names share -/

variable {a b : String} (ha : IsUsual a) (hb : IsUsual b)

theorem slash_not_mem {name : String} (h : IsUsual name) : '/' ∉ name.toList :=
  fun hmem => absurd (h.chars '/' hmem) (by decide)

theorem pascal_named {name : String} (h : IsUsual name) :
    (Entity.named name).pascal = pascal name := by
  have hlower : Text.lower name = name := by
    rw [Text.lower, Text.lowerChars_eq_self h.isLower, String.ofList_toList]
  simp only [Entity.pascal, Entity.named, Ident.of, hlower]

theorem parts_mem_classParts {name : String} (h : IsUsual name) {p : Pagination} {b : Blueprint}
    (hb : b.entity = .named name) {path : String} (hpath : path ∈ classPaths p b) :
    Path.parts path ∈ classParts (pascal name) := by
  have hentity : b.entity.pascal = pascal name := by rw [hb, h.pascal_named]
  have hparts : Path.parts b.entity.pascal = [b.entity.pascal] := by
    rw [hb]
    exact (Entity.parts_names h.slash_not_mem).2.1
  rw [← hentity, ← parts_classPaths p hparts]
  exact List.mem_map_of_mem hpath

include ha hb

theorem exists_classPath_iff (p q : Pagination) (fields fields' : List Field)
    (project project' : String) (options options' : Options) :
    (∃ path, path ∈ classPaths p ⟨.named a, fields, project, options⟩ ∧
      path ∈ classPaths q ⟨.named b, fields', project', options'⟩) ↔ SameSegments a b := by
  rw [← pascal_eq_iff ha hb]
  constructor
  · rintro ⟨path, hpath, hpath'⟩
    exact eq_of_mem_classParts (ha.parts_mem_classParts rfl hpath)
      (hb.parts_mem_classParts rfl hpath')
  · intro h
    have hmodel : (model ⟨.named a, fields, project, options⟩).path =
        (model ⟨.named b, fields', project', options'⟩).path := by
      simp only [model, ha.pascal_named, hb.pascal_named, h]
    refine ⟨(model ⟨.named a, fields, project, options⟩).path, .head _, ?_⟩
    rw [hmodel]
    exact .head _

/-- Two usual names have one Pascal case or one camel case exactly if they differ in their
separators alone. So no other two entities share a class file, and no other two fields a member. -/
theorem shared_iff :
    (pascal a = pascal b ↔ SameSegments a b) ∧ (camel a = camel b ↔ SameSegments a b) ∧
    (∀ p q fields fields' project project' options options',
      (∃ path, path ∈ classPaths p ⟨.named a, fields, project, options⟩ ∧
        path ∈ classPaths q ⟨.named b, fields', project', options'⟩) ↔ SameSegments a b) ∧
    ∀ type type' required required',
      (GoModule.memberName ⟨a, type, required⟩ = GoModule.memberName ⟨b, type', required'⟩ ↔
        SameSegments a b) ∧
      (FlutterFeature.memberName ⟨a, type, required⟩ =
        FlutterFeature.memberName ⟨b, type', required'⟩ ↔ SameSegments a b) :=
  ⟨pascal_eq_iff ha hb, camel_eq_iff ha hb, exists_classPath_iff ha hb,
    fun _ _ _ _ => ⟨pascal_eq_iff ha hb, camel_eq_iff ha hb⟩⟩

omit ha hb in
theorem shared_iff_separators :
    IsUsual "order_item2" ∧ IsUsual "-order--item2" ∧
    (camel "order_item2" = camel "-order--item2" ↔ SameSegments "order_item2" "-order--item2") := by
  have hfirst : IsUsual "order_item2" := by decide
  have hsecond : IsUsual "-order--item2" := by decide
  exact ⟨hfirst, hsecond, (shared_iff hfirst hsecond).2.1⟩

/-- A digit has no capital, so that a separator before it leaves no trace. -/
example : pascal "line_2" = pascal "line2" ∧ ¬ SameSegments "line_2" "line2" := by
  unfold SameSegments
  decide +kernel

end Scaffold.Naming.IsUsual
