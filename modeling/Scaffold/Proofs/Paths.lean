import Scaffold.Disk
import Scaffold.Proofs.Splitting

/-!
# The parts of a path and where they lead

A path and its parts determine each other (`parts_ofParts`, `ofParts_parts`), and below a base a
path only appends its parts (`parts_join`, up to an empty part of the base at its end, which leads
nowhere). `land` is the location that parts lead to when every node on the way is a directory; the
locations they pass are `passed`.
-/

set_option autoImplicit false

namespace Scaffold.Path

/-! ## Parts -/

theorem parts_ne_nil (path : String) : parts path ≠ [] := by simp [parts]

theorem slash_not_mem {path part : String} (h : part ∈ parts path) : '/' ∉ part.toList := by
  obtain ⟨piece, hp, rfl⟩ := List.mem_map.1 h
  rw [String.toList_ofList]
  exact Text.not_mem_splitOn hp

/-- A character of a path stands in one of its parts or separates two. -/
theorem mem_parts_of_mem {c : Char} {path : String} (hc : c ≠ '/') (h : c ∈ path.toList) :
    ∃ part ∈ parts path, c ∈ part.toList := by
  obtain ⟨piece, hp, hcp⟩ :=
    (Text.exists_mem_splitOnP_iff (p := (· == '/'))).2 ⟨h, beq_false_of_ne hc⟩
  rw [← List.splitOn_eq_splitOnP] at hp
  exact ⟨.ofList piece, List.mem_map_of_mem hp, by rwa [String.toList_ofList]⟩

theorem toList_ofParts (ps : List String) :
    (ofParts ps).toList = ['/'].intercalate (ps.map String.toList) := by
  rw [ofParts, String.toList_intercalate]
  rfl

theorem ofParts_parts (path : String) : ofParts (parts path) = path := by
  apply String.toList_injective
  rw [toList_ofParts, parts, List.map_map]
  have : String.toList ∘ String.ofList = id := funext fun _ => String.toList_ofList
  rw [this, List.map_id, List.intercalate_splitOn]

theorem parts_ofParts {ps : List String} (hne : ps ≠ []) (hs : ∀ p ∈ ps, '/' ∉ p.toList) :
    parts (ofParts ps) = ps := by
  rw [parts, toList_ofParts, List.splitOn_intercalate '/' (by simpa using hs) (by simpa using hne),
    List.map_map]
  have : String.ofList ∘ String.toList = id := funext fun _ => String.ofList_toList
  rw [this, List.map_id]

theorem ofParts_append {ps qs : List String} (hp : ps ≠ []) (hq : qs ≠ []) :
    ofParts (ps ++ qs) = ofParts ps ++ "/" ++ ofParts qs :=
  String.intercalate_append_of_ne_nil hp hq

theorem parts_append_slash (a b : String) : parts (a ++ "/" ++ b) = parts a ++ parts b := by
  have : (a ++ "/" ++ b).toList = a.toList ++ '/' :: b.toList := by simp
  rw [parts, this, List.splitOn_append_cons_self, List.map_append]
  rfl

theorem parts_empty : parts "" = [""] := rfl

theorem parts_of_slash_not_mem {s : String} (h : '/' ∉ s.toList) : parts s = [s] := by
  simpa [ofParts] using parts_ofParts (List.cons_ne_nil s []) (by simpa using h)

/-- A path around one of its parts. -/
theorem toList_ofParts_middle (part : String) (after : List String) : ∀ before : List String,
    (ofParts (before ++ part :: after)).toList =
      before.flatMap (fun p => p.toList ++ ['/']) ++ part.toList ++
        after.flatMap fun p => '/' :: p.toList
  | [] => by
    rw [toList_ofParts, List.nil_append, List.map_cons]
    induction after generalizing part with
    | nil => simp
    | cons q after ih => simp [List.intercalate_cons_cons, ih]
  | p :: before => by
    obtain ⟨q, qs, hq⟩ := List.exists_cons_of_ne_nil (show before ++ part :: after ≠ [] by simp)
    have ih := toList_ofParts_middle part after before
    rw [toList_ofParts] at ih ⊢
    rw [hq, List.map_cons] at ih
    rw [List.cons_append, hq, List.map_cons, List.map_cons, List.intercalate_cons_cons, ih]
    simp

/-- Texts are joined at the last part of the first and the first part of the second. -/
theorem parts_append (s t : String) : parts (s ++ t) =
    (parts s).dropLast ++ ((parts s).getLastD "" ++ (parts t).headD "") :: (parts t).tail := by
  obtain ⟨before, last, hs⟩ : ∃ before last, parts s = before ++ [last] :=
    ⟨_, _, (List.dropLast_concat_getLast (parts_ne_nil s)).symm⟩
  obtain ⟨first, after, ht⟩ := List.exists_cons_of_ne_nil (parts_ne_nil t)
  have hpieces : s ++ t = ofParts (before ++ (last ++ first) :: after) := by
    have hfirst := toList_ofParts_middle first after []
    rw [List.nil_append] at hfirst
    rw [← ofParts_parts s, ← ofParts_parts t, hs, ht, ← String.toList_inj]
    simp [toList_ofParts_middle, hfirst]
  rw [hs, ht, hpieces, parts_ofParts (by simp)]
  · simp
  · intro part hp
    have hmem : ∀ {u : String} {q : String}, q ∈ parts u → '/' ∉ q.toList := slash_not_mem
    simp only [List.mem_append, List.mem_cons] at hp
    rcases hp with hp | rfl | hp
    · exact hmem (u := s) (by simp [hs, hp])
    · rw [String.toList_append, List.mem_append, not_or]
      exact ⟨hmem (u := s) (by simp [hs]), hmem (u := t) (by simp [ht])⟩
    · exact hmem (u := t) (by simp [ht, hp])

/-- A path starts with an empty part before a slash exactly when it is absolute. -/
theorem isAbsolute_ofParts {p : String} {ps : List String} (hs : '/' ∉ p.toList) :
    isAbsolute (ofParts (p :: ps)) = (p = "" && ps ≠ []) := by
  have key : (ofParts (p :: ps)).toList =
      p.toList ++ (if ps = [] then [] else '/' :: (ofParts ps).toList) := by
    cases ps with
    | nil => simp [ofParts]
    | cons q qs =>
      rw [← List.singleton_append, ofParts_append (by simp) (by simp)]
      simp [ofParts]
  have hp : p = "" ↔ p.toList = [] := by simp
  rw [isAbsolute, key, Bool.eq_iff_iff]
  simp only [decide_eq_true_eq, Bool.and_eq_true, hp]
  cases hl : p.toList with
  | nil => by_cases h : ps = [] <;> simp [h]
  | cons c cs =>
    have : c ≠ '/' := fun h => hs (by rw [hl, h]; exact List.mem_cons_self)
    simp [this]

/-! ## Names -/

/-- A part that leads into a node of the directory it stands in. -/
def IsName (part : String) : Prop := isIdle part = false ∧ part ≠ ".."

instance (part : String) : Decidable (IsName part) := inferInstanceAs (Decidable (_ ∧ _))

theorem IsName.ne_empty {part : String} (h : IsName part) : part ≠ "" := fun he => by
  simp [IsName, he, isIdle] at h

theorem isName_of_three_le {part : String} (h : 3 ≤ part.length) : IsName part := by
  constructor
  · rw [isIdle, Bool.or_eq_false_iff, decide_eq_false_iff_not, decide_eq_false_iff_not]
    constructor <;> rintro rfl <;> exact absurd h (by decide)
  · rintro rfl
    exact absurd h (by decide)

theorem isName_append_right {s t : String} (h : 3 ≤ t.length) : IsName (s ++ t) :=
  isName_of_three_le (by rw [String.length_append]; omega)

theorem isName_append_left {s t : String} (h : 3 ≤ s.length) : IsName (s ++ t) :=
  isName_of_three_le (by rw [String.length_append]; omega)

/-- A path of ordinary components: none is empty, `.` or `..`. -/
def IsOrdinary (path : String) : Prop := ∀ part ∈ parts path, IsName part

instance (path : String) : Decidable (IsOrdinary path) :=
  inferInstanceAs (Decidable (∀ part ∈ parts path, IsName part))

theorem IsOrdinary.isAbsolute {path : String} (h : IsOrdinary path) : isAbsolute path = false := by
  obtain ⟨p, ps, hp⟩ := List.exists_cons_of_ne_nil (parts_ne_nil path)
  have hm : p ∈ parts path := by rw [hp]; exact List.mem_cons_self
  rw [← ofParts_parts path, hp, isAbsolute_ofParts (slash_not_mem hm)]
  simp [(h p hm).ne_empty]

/-! ## Joining -/

/-- Below a base a path appends its parts to those of the base, less an empty one at its end. -/
theorem parts_join {path : String} (base : String) (hr : isAbsolute path = false) :
    ∃ ps, parts (join base path) = ps ++ parts path ∧
      (parts base = ps ∨ parts base = ps ++ [""]) := by
  simp only [join, hr, Bool.false_eq_true, if_false]
  split
  · rename_i hb
    rw [Bool.or_eq_true] at hb
    rcases hb with he | hl
    · obtain rfl : base = "" := by simpa using he
      exact ⟨[], by simp, .inr rfl⟩
    · obtain ⟨cs, hcs⟩ : ∃ cs, base.toList = cs ++ ['/'] := by
        simpa [List.getLast?_eq_some_iff] using hl
      obtain rfl : base = String.ofList cs ++ "/" := String.toList_injective (by simpa using hcs)
      refine ⟨parts (String.ofList cs), parts_append_slash _ _, .inr ?_⟩
      simpa [parts_empty] using parts_append_slash (String.ofList cs) ""
  · exact ⟨parts base, parts_append_slash _ _, .inl rfl⟩

theorem isAbsolute_join {path : String} (base : String) (hr : isAbsolute path = false) :
    isAbsolute (join base path) = isAbsolute base := by
  by_cases hb : base = ""
  · subst hb
    rw [show join "" path = path by simp [join, hr], hr]
    rfl
  · obtain ⟨c, cs, hc⟩ := List.exists_cons_of_ne_nil
      (show base.toList ≠ [] from fun h => hb (String.toList_injective h))
    simp only [join, hr, Bool.false_eq_true, if_false]
    split <;> simp [isAbsolute, hc]

/-! ## Where parts lead -/

/-- Where `parts` lead from `loc` when every node on the way is a directory. -/
def land (loc : Location) : List String → Location
  | [] => loc
  | part :: rest =>
    if isIdle part then land loc rest
    else if part = ".." then land loc.dropLast rest
    else land (loc ++ [part]) rest

theorem land_append (a b : List String) : ∀ loc, land loc (a ++ b) = land (land loc a) b := by
  induction a with
  | nil => exact fun _ => rfl
  | cons part a ih =>
    intro loc
    simp only [List.cons_append, land, ih]
    split
    · rfl
    · split <;> rfl

theorem passed_append (a b : List String) :
    ∀ loc, passed loc (a ++ b) = passed loc a ++ passed (land loc a) b := by
  induction a with
  | nil => exact fun _ => rfl
  | cons part a ih =>
    intro loc
    simp only [List.cons_append, passed, land, ih]
    split
    · rfl
    · split <;> rfl

theorem land_name {part : String} (h : IsName part) (loc : Location) :
    land loc [part] = loc ++ [part] := by
  simp [land, h.1, h.2]

theorem land_names : ∀ {ps : List String} {loc : Location}, (∀ part ∈ ps, IsName part) →
    land loc ps = loc ++ ps
  | [], loc, _ => (List.append_nil loc).symm
  | part :: ps, loc, h => by
    rw [List.forall_mem_cons] at h
    rw [← List.singleton_append, land_append, land_name h.1, land_names h.2, List.append_assoc]

theorem passed_name {part : String} (h : IsName part) (loc : Location) :
    passed loc [part] = [loc ++ [part]] := by
  simp [passed, h.1, h.2]

theorem land_idle {part : String} (h : isIdle part = true) (loc : Location) :
    land loc [part] = loc := by
  simp [land, h]

theorem passed_idle {part : String} (h : isIdle part = true) (loc : Location) :
    passed loc [part] = [] := by
  simp [passed, h]

theorem land_up (loc : Location) (rest : List String) :
    land loc (".." :: rest) = land loc.dropLast rest := rfl

theorem passed_up (loc : Location) : passed loc [".."] = [] := rfl

end Scaffold.Path
