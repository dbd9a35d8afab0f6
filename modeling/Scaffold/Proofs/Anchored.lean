import Scaffold.Proofs.Directories

/-!
# Paths that climb only out of what exists

A path is anchored on a disk when every `..` in it leaves directories that exist (`Anchored`); a
path without `..` always is (`anchored_of_not_mem`). From the last `..` on, such a path only
descends, so in a tree its place lies below every location that it could still miss
(`Anchored.descends`): when the place is there, so is the way (`Anchored.open`), and a file above
the place is met before anything is missing (`Anchored.walk`).
-/

set_option autoImplicit false

namespace Scaffold

/-! ## Descending -/

namespace Path

theorem prefix_land : ∀ {ps : List String} {loc : Location}, ".." ∉ ps → loc <+: land loc ps
  | [], loc, _ => List.prefix_refl loc
  | part :: ps, loc, hu => by
    rw [List.mem_cons, not_or] at hu
    rw [land, if_neg (Ne.symm hu.1)]
    split
    · exact prefix_land hu.2
    · exact (List.prefix_append loc [part]).trans (prefix_land hu.2)

/-- Without `..`, parts pass exactly what lies between their start and where they lead. -/
theorem mem_passed {s : Location} : ∀ {ps : List String} {loc : Location}, ".." ∉ ps →
    (s ∈ passed loc ps ↔ loc <+: s ∧ s ≠ loc ∧ s <+: land loc ps)
  | [], loc, _ => by
    simp only [passed, List.not_mem_nil, land, false_iff]
    rintro ⟨h1, h2, h3⟩
    exact h2 (h3.eq_of_length_le h1.length_le)
  | part :: ps, loc, hu => by
    rw [List.mem_cons, not_or] at hu
    rw [passed, land]
    split
    · exact mem_passed hu.2
    rw [if_neg (Ne.symm hu.1), if_neg (Ne.symm hu.1), List.mem_cons, mem_passed hu.2]
    have hl : loc ++ [part] <+: land (loc ++ [part]) ps := prefix_land hu.2
    constructor
    · rintro (rfl | ⟨h1, -, h3⟩)
      · exact ⟨List.prefix_append loc [part], by simp, hl⟩
      · refine ⟨(List.prefix_append loc [part]).trans h1, ?_, h3⟩
        rintro rfl
        exact absurd h1.length_le (by simp)
    · rintro ⟨h1, h2, h3⟩
      have hlt : loc.length < s.length :=
        Nat.lt_of_le_of_ne h1.length_le fun he => h2 (h1.eq_of_length he).symm
      by_cases hs : s = loc ++ [part]
      · exact .inl hs
      · have hle : (loc ++ [part]).length ≤ s.length := by simpa using Nat.succ_le_of_lt hlt
        exact .inr ⟨List.prefix_of_prefix_length_le hl h3 hle, hs, h3⟩

/-- A list ends after the last place of an element. -/
theorem exists_last (u : String) : ∀ ps : List String,
    u ∉ ps ∨ ∃ lead rest, ps = lead ++ u :: rest ∧ u ∉ rest
  | [] => .inl List.not_mem_nil
  | part :: ps => by
    rcases exists_last u ps with h | ⟨lead, rest, rfl, h⟩
    · by_cases he : part = u
      · exact .inr ⟨[], ps, by rw [he]; rfl, h⟩
      · exact .inl (by simp [h, Ne.symm he])
    · exact .inr ⟨part :: lead, rest, rfl, h⟩

end Path

namespace Disk

open Scaffold.Path

/-! ## Trees -/

theorem IsTree.of_prefix {d : Disk} (h : d.IsTree) {above loc : Location} (hp : above <+: loc)
    (hne : above ≠ loc) (hf : d.find? loc ≠ none) : d.find? above = some .dir := by
  obtain ⟨rest, rfl⟩ := hp
  cases rest with
  | nil => simp at hne
  | cons part rest => exact h.above hf

/-- Descending in a tree, a file stops a walk that it is on: nothing above it is missing. -/
theorem IsTree.walk_passed {d : Disk} (h : d.IsTree) : ∀ {ps : List String} {loc : Location},
    ".." ∉ ps → (∃ s ∈ passed loc ps, ∃ c, d.find? s = some (.file c)) →
      d.walk (passed loc ps) = .error .notADirectory
  | [], _, _, ⟨_, hs, _⟩ => nomatch hs
  | part :: ps, loc, hu, ⟨s, hs, c, hc⟩ => by
    rw [List.mem_cons, not_or] at hu
    rw [passed] at hs ⊢
    split at hs
    · rename_i hi
      rw [if_pos hi]
      exact h.walk_passed hu.2 ⟨s, hs, c, hc⟩
    rename_i hi
    rw [if_neg (Ne.symm hu.1)] at hs
    rw [if_neg hi, if_neg (Ne.symm hu.1), walk]
    cases hf : d.find? (loc ++ [part]) with
    | none =>
      rcases List.mem_cons.1 hs with rfl | hs
      · simp [hf] at hc
      · obtain ⟨hp, hne, -⟩ := (mem_passed hu.2).1 hs
        simp [h.of_prefix hp (Ne.symm hne) (by simp [hc])] at hf
    | some node =>
      cases node with
      | file _ => rfl
      | dir =>
        rcases List.mem_cons.1 hs with rfl | hs
        · simp [hf] at hc
        · exact h.walk_passed hu.2 ⟨s, hs, c, hc⟩

/-! ## Anchored paths -/

/-- Every `..` of the path leaves directories that exist. -/
def Anchored (d : Disk) (path : String) : Prop :=
  ∀ lead rest, parts path = lead ++ ".." :: rest → ∃ loc, d.enter (d.start path) lead = .ok loc

instance (d : Disk) (path : String) : Decidable (d.Anchored path) :=
  decidable_of_iff (∀ i < (parts path).length, (parts path)[i]? = some ".." →
      (d.enter (d.start path) ((parts path).take i)).isOk = true) <| by
    have hok : ∀ r : Except DiskError Location, r.isOk = true ↔ ∃ loc, r = .ok loc := by
      intro r
      cases r <;> simp [Except.isOk, Except.toBool]
    simp only [hok]
    constructor
    · intro h lead rest hp
      simpa [hp] using h lead.length (by simp [hp]) (by simp [hp])
    · intro h i hi hu
      have hp : parts path = (parts path).take i ++ ".." :: (parts path).drop (i + 1) := by
        rw [← (List.getElem?_eq_some_iff.1 hu).2, List.getElem_cons_drop, List.take_append_drop]
      exact h _ _ hp

theorem anchored_of_not_mem (d : Disk) {path : String} (h : ".." ∉ parts path) :
    d.Anchored path := fun lead rest hp => absurd (by simp [hp]) h

theorem Extends.anchored {d d' : Disk} (h : d.Extends d') {path : String} (ha : d.Anchored path) :
    d'.Anchored path := by
  intro lead rest hp
  obtain ⟨loc, hl⟩ := ha lead rest hp
  obtain ⟨rfl, hn, hd⟩ := enter_eq_ok.1 hl
  exact ⟨_, enter_eq_ok.2 ⟨rfl, fun p hp => by rw [h.admitsName]; exact hn p hp,
    fun s hs => h.dirs s (hd s (h.start path ▸ hs))⟩⟩

/-- Ordinary paths below an anchored root are anchored. -/
theorem Anchored.join {d : Disk} {root path : String} (h : d.Anchored root)
    (ho : IsOrdinary path) : d.Anchored (Path.join root path) := by
  intro lead rest hp
  have hr := ho.isAbsolute
  have hu : ".." ∉ parts path := fun hm => (ho _ hm).2 rfl
  obtain ⟨ps, hps, hroot⟩ := parts_join root hr
  obtain ⟨more, hlead⟩ : ∃ more, ps = lead ++ ".." :: more := by
    rcases List.append_eq_append_iff.1 (hps.symm.trans hp) with ⟨as, -, hpath⟩ | ⟨bs, hpre, hbs⟩
    · exact absurd (by simp [hpath]) hu
    · cases bs with
      | nil => exact absurd (by simp [← show ".." :: rest = parts path from hbs]) hu
      | cons b bs =>
        obtain ⟨rfl, -⟩ := List.cons.inj hbs
        exact ⟨bs, hpre⟩
  rw [start_join d root hr]
  rcases hroot with hroot | hroot
  · exact h lead more (hroot.trans hlead)
  · exact h lead (more ++ [""]) (by rw [hroot, hlead]; simp)

/-- From its last `..` on, an anchored path descends from a directory. -/
theorem Anchored.descends {d : Disk} {path : String} (h : d.Anchored path) (tree : d.IsTree)
    (hn : IsName (last path)) : ∃ before base tail, ".." ∉ tail ∧ d.find? base = some .dir ∧
      (∀ s ∈ before, d.find? s = some .dir) ∧ d.way path = before ++ passed base tail ∧
      d.place path = land base tail ++ [last path] := by
  obtain ⟨lead, tail, hdrop, hu, hd⟩ : ∃ lead tail, (parts path).dropLast = lead ++ tail ∧
      ".." ∉ tail ∧ ∀ s ∈ passed (d.start path) lead, d.find? s = some .dir := by
    rcases exists_last ".." (parts path).dropLast with hu | ⟨lead, tail, hdrop, hu⟩
    · exact ⟨[], (parts path).dropLast, rfl, hu, fun s hs => nomatch hs⟩
    · have hp : parts path = lead ++ ".." :: (tail ++ [last path]) := by
        rw [parts_eq path, hdrop]
        simp
      obtain ⟨loc, hl⟩ := h lead _ hp
      refine ⟨lead ++ [".."], tail, by rw [hdrop]; simp, hu, ?_⟩
      rw [passed_append, passed_up, List.append_nil]
      exact (enter_eq_ok.1 hl).2.2
  refine ⟨_, land (d.start path) lead, tail, hu, tree.land (tree.start path) hd, hd, ?_, ?_⟩
  · rw [way, hdrop, passed_append]
  · rw [place_of_isName hn, hdrop, land_append]

section
variable {d : Disk} {path : String} (h : d.Anchored path) (tree : d.IsTree)
  (hn : IsName (last path))
include h tree hn

/-- On the way are directories and locations above the place. -/
theorem Anchored.way_cases {s : Location} (hs : s ∈ d.way path) :
    d.find? s = some .dir ∨ s <+: d.place path ∧ s ≠ d.place path := by
  obtain ⟨before, base, tail, hu, -, hb, hw, hp⟩ := h.descends tree hn
  rw [hw] at hs
  rcases List.mem_append.1 hs with hs | hs
  · exact .inl (hb s hs)
  · have hl := ((mem_passed hu).1 hs).2.2
    rw [hp]
    refine .inr ⟨hl.trans (List.prefix_append _ _), ?_⟩
    rintro rfl
    exact absurd hl.length_le (by simp)

/-- What is above the place is a directory or on the way. -/
theorem Anchored.above_place {above : Location} (ha : above <+: d.place path)
    (hne : above ≠ d.place path) : d.find? above = some .dir ∨ above ∈ d.way path := by
  obtain ⟨before, base, tail, hu, hbase, -, hw, hp⟩ := h.descends tree hn
  rw [hp] at ha hne
  have ha : above <+: land base tail := (List.prefix_concat_iff.1 ha).resolve_left hne
  rw [hw]
  rcases List.prefix_or_prefix_of_prefix ha (prefix_land hu) with hb | hb
  · by_cases he : above = base
    · exact .inl (he ▸ hbase)
    · exact .inl (tree.of_prefix hb he (by simp [hbase]))
  · by_cases he : above = base
    · exact .inl (he ▸ hbase)
    · exact .inr (List.mem_append_right _ ((mem_passed hu).2 ⟨hb, he, ha⟩))

/-- When the place is there, so is the way. -/
theorem Anchored.open (hf : d.find? (d.place path) ≠ none) : d.Open path := by
  intro s hs
  rcases h.way_cases tree hn hs with hd | ⟨hp, hne⟩
  · exact hd
  · exact tree.of_prefix hp hne hf

/-- A file above the place is met before anything is missing. -/
theorem Anchored.walk (hf : ∃ s, s <+: d.place path ∧ s ≠ d.place path ∧
    ∃ c, d.find? s = some (.file c)) : d.walk (d.way path) = .error .notADirectory := by
  obtain ⟨s, hp, hne, c, hc⟩ := hf
  have hs := (h.above_place tree hn hp hne).resolve_left (by simp [hc])
  obtain ⟨before, base, tail, hu, -, hb, hw, -⟩ := h.descends tree hn
  rw [hw] at hs ⊢
  rw [walk_append, walk_eq_ok.2 hb]
  rcases List.mem_append.1 hs with hs | hs
  · simp [hb s hs] at hc
  · exact tree.walk_passed hu ⟨s, hs, c, hc⟩

end

end Disk

end Scaffold
