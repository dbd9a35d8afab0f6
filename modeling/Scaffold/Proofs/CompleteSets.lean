import Mathlib.Data.List.Nodup
import Scaffold.Proofs.Always
import Scaffold.Proofs.Descent

/-!
# Sets that write out completely

Some files do not get in each other's way (`Path.Independent`): their places differ, and none is a
directory on the way to another. A set with such paths is written completely below an empty
directory, in either mode: after each artifact, what is below the root are the files so far and the
directories on the way to them (`ArtifactSet.Progress`), so the next one can be written
(`ArtifactSet.Progress.step`), and at the end each file is counted once
(`Disk.IsListing.length_filesBelow`).
-/

set_option autoImplicit false

namespace Scaffold

/-! ## Listings -/

namespace Disk

/-- Each location is listed once, and the root is not listed. -/
structure IsListing (d : Disk) : Prop where
  once : (d.nodes.map Prod.fst).Nodup
  root : [] ∉ d.nodes.map Prod.fst

instance (d : Disk) : Decidable d.IsListing :=
  decidable_of_iff ((d.nodes.map Prod.fst).Nodup ∧ [] ∉ d.nodes.map Prod.fst)
    ⟨fun ⟨h1, h2⟩ => ⟨h1, h2⟩, fun ⟨h1, h2⟩ => ⟨h1, h2⟩⟩

theorem mem_map_putNode {loc other : Location} {node : Node} :
    ∀ {nodes : List (Location × Node)}, other ∈ (putNode loc node nodes).map Prod.fst ↔
      other = loc ∨ other ∈ nodes.map Prod.fst
  | [] => by simp [putNode]
  | (first, old) :: rest => by
    rw [putNode]
    split
    · rename_i h
      simp [h]
    · rw [List.map_cons, List.mem_cons, mem_map_putNode, List.map_cons, List.mem_cons]
      exact or_left_comm

theorem nodup_putNode {loc : Location} {node : Node} : ∀ {nodes : List (Location × Node)},
    (nodes.map Prod.fst).Nodup → ((putNode loc node nodes).map Prod.fst).Nodup
  | [], _ => by simp [putNode]
  | (first, old) :: rest, h => by
    obtain ⟨hfirst, hrest⟩ := List.nodup_cons.1 h
    rw [putNode]
    split
    · rename_i he
      exact List.nodup_cons.2 ⟨he ▸ hfirst, hrest⟩
    · rename_i hne
      refine List.nodup_cons.2 ⟨fun hm => ?_, nodup_putNode hrest⟩
      exact (mem_map_putNode.1 hm).elim hne hfirst

theorem IsListing.put {d : Disk} (h : d.IsListing) {loc : Location} (hne : loc ≠ [])
    (node : Node) : (d.put loc node).IsListing :=
  ⟨nodup_putNode h.once, fun hm => (mem_map_putNode.1 hm).elim (Ne.symm hne) h.root⟩

theorem isListing_kept : Kept IsListing where
  mkdir h hm := by
    obtain ⟨-, -, hn, -, rfl⟩ := mkdir_eq_ok.1 hm
    exact h.put (place_ne_nil hn) _
  write h hw := by
    obtain ⟨-, -, hn, -, rfl⟩ := write_eq_ok.1 hw
    exact h.put (place_ne_nil hn) _

/-- In a listing, what is listed is what is found. -/
theorem IsListing.mem_nodes_iff {d : Disk} (h : d.IsListing) {loc : Location} {node : Node} :
    (loc, node) ∈ d.nodes ↔ loc ≠ [] ∧ d.find? loc = some node := by
  constructor
  · intro hm
    have hne : loc ≠ [] := fun he => h.root (List.mem_map.2 ⟨_, he ▸ hm, rfl⟩)
    obtain ⟨before, after, hl⟩ := List.append_of_mem hm
    refine ⟨hne, ?_⟩
    rw [find?, if_neg hne, List.lookup_eq_some_iff]
    refine ⟨before, after, hl, fun e he => bne_iff_ne.2 fun heq => ?_⟩
    have honce := h.once
    rw [hl, List.map_append, List.map_cons, List.nodup_append] at honce
    exact honce.2.2 _ (List.mem_map.2 ⟨e, he, rfl⟩) _ (.head _) heq.symm
  · rintro ⟨hne, hf⟩
    rw [find?, if_neg hne, List.lookup_eq_some_iff] at hf
    obtain ⟨before, after, hl, -⟩ := hf
    rw [hl]
    exact List.mem_append_right _ (.head _)

/-- In a listing there are as many files below a location as distinct places of files. -/
theorem IsListing.length_filesBelow {d : Disk} (h : d.IsListing) {loc : Location}
    {places : List Location} (hnodup : places.Nodup)
    (hplaces : ∀ l, l ∈ places ↔ loc <+: l ∧ ∃ c, d.find? l = some (.file c)) :
    (d.filesBelow loc).length = places.length := by
  rw [filesBelow, List.length_mergeSort, List.length_filterMap_eq_countP,
    List.countP_eq_length_filter, ← List.length_map Prod.fst]
  refine ((List.perm_ext_iff_of_nodup ?_ hnodup).2 fun l => ?_).length_eq
  · exact h.once.sublist (List.filter_sublist.map _)
  · rw [hplaces, List.mem_map]
    constructor
    · rintro ⟨⟨other, node⟩, hm, rfl⟩
      obtain ⟨hmem, hsome⟩ := List.mem_filter.1 hm
      cases node with
      | dir => cases hsome
      | file c =>
        have hl : loc.isPrefixOf other = true := by simpa using hsome
        exact ⟨List.isPrefixOf_iff_prefix.1 hl, c, (h.mem_nodes_iff.1 hmem).2⟩
    · rintro ⟨hl, c, hf⟩
      have hne : l ≠ [] := by
        rintro rfl
        cases hf
      refine ⟨(l, .file c), List.mem_filter.2 ⟨h.mem_nodes_iff.2 ⟨hne, hf⟩, ?_⟩, rfl⟩
      simp [List.isPrefixOf_iff_prefix.2 hl]

end Disk

/-! ## Independent paths -/

namespace Path

/-- The files, given by the parts of their paths, do not get in each other's way. -/
structure Independent (files : List (List String)) : Prop where
  names : ∀ ps ∈ files, IsName (ps.getLastD "")
  /-- Their places differ. -/
  distinct : (files.map (land [])).Nodup
  /-- No place is a directory on the way to another. -/
  clear : ∀ ps ∈ files, ∀ qs ∈ files, land [] ps ∉ passed [] qs.dropLast

end Path

/-- The path is a directory with nothing below it. -/
structure Disk.IsEmptyDir (d : Disk) (root : String) : Prop where
  isDir : d.isDir root = true
  empty : ∀ rest, rest ≠ [] → d.find? (d.place root ++ rest) = none

namespace ArtifactSet

open Disk Scaffold.Path

/-- The place of an artifact below its root. -/
def placeOf (a : Artifact) : Location := land [] (parts a.path)

/-- The directories on the way to it. -/
def wayOf (a : Artifact) : List Location := passed [] (parts a.path).dropLast

/-- The set can be written below any directory: its paths are relative, stay below their start, hold
no character that no path may hold, and do not get in each other's way. -/
structure Writable (set : ArtifactSet) : Prop where
  relative : ∀ a ∈ set, isAbsolute a.path = false
  stays : ∀ a ∈ set, Stays a.path
  noNul : ∀ a ∈ set, '\x00' ∉ a.path.toList
  independent : Independent (set.paths.map parts)

namespace Writable

variable {set : ArtifactSet} (h : set.Writable)
include h

theorem isName_last {a : Artifact} (ha : a ∈ set) : IsName (last a.path) :=
  h.independent.names _ (List.mem_map_of_mem (List.mem_map_of_mem ha))

theorem nodup_places : (set.map placeOf).Nodup := by
  have hd := h.independent.distinct
  rwa [paths, List.map_map, List.map_map] at hd

theorem clear {a b : Artifact} (ha : a ∈ set) (hb : b ∈ set) : placeOf a ∉ wayOf b :=
  h.independent.clear _ (List.mem_map_of_mem (List.mem_map_of_mem ha)) _
    (List.mem_map_of_mem (List.mem_map_of_mem hb))

theorem placeOf_ne_nil {a : Artifact} (ha : a ∈ set) : placeOf a ≠ [] := by
  rw [placeOf, parts_eq, land_append, land_name (h.isName_last ha)]
  simp

theorem place_join {a : Artifact} (ha : a ∈ set) (d : Disk) (root : String) :
    d.place (join root a.path) = d.place root ++ placeOf a := by
  rw [place_join_eq_land d root (h.relative a ha), (h.stays a ha).land_eq, placeOf]

theorem way_join {a : Artifact} (ha : a ∈ set) (d : Disk) (root : String) :
    d.way (join root a.path) = d.stops root ++ (wayOf a).map (d.place root ++ ·) := by
  rw [Disk.way_join d root (h.relative a ha), (h.stays a ha).passed_eq, wayOf, stops]

theorem isName_last_join {a : Artifact} (ha : a ∈ set) (root : String) :
    IsName (last (join root a.path)) := by
  rw [last_join root (h.relative a ha)]
  exact h.isName_last ha

/-- Without limits, a path below an admitted root is admitted. -/
theorem admits_join {a : Artifact} (ha : a ∈ set) {d : Disk} {root : String}
    (hroot : d.Admits root) (hlimits : d.limits = none) : d.Admits (join root a.path) where
  nonempty he := by
    have hname := h.isName_last_join ha root
    rw [he] at hname
    exact hname.ne_empty rfl
  noNul := by
    have hpath := h.noNul a ha
    have hslash : '\x00' ∉ "/".toList := by decide
    rw [join, if_neg (by simp [h.relative a ha])]
    split <;> simp only [String.toList_append, List.mem_append, not_or]
    · exact ⟨hroot.noNul, hpath⟩
    · exact ⟨⟨hroot.noNul, hslash⟩, hpath⟩
  length := by
    rw [admitsPath, hlimits]
    rfl
  names part _ := by
    rw [admitsName, hlimits]
    rfl

/-- Different artifacts have different paths, so each is found at its own. -/
theorem nodup_paths : set.paths.Nodup :=
  .of_map (land [] ∘ parts) (by rw [← List.map_map]; exact h.independent.distinct)

theorem get?_path {a : Artifact} (ha : a ∈ set) : set.get? a.path = some a := by
  obtain ⟨b, hb⟩ : ∃ b, set.get? a.path = some b :=
    Option.isSome_iff_exists.1 (List.find?_isSome.2 ⟨a, ha, by simp⟩)
  have hpath : b.path = a.path := by simpa using List.find?_some hb
  rwa [List.inj_on_of_nodup_map h.nodup_paths (List.mem_of_find?_eq_some hb) ha hpath] at hb

end Writable

/-! ## Writing into an empty directory -/

/-- What a run into an empty directory has done: the artifacts so far read back, and below the root
are only their files and the directories on the way to them. -/
structure Progress (root : String) (start : Disk) (done : ArtifactSet) (d : Disk) : Prop where
  grown : start.Extends d
  reads : ∀ a ∈ done, d.read (join root a.path) = .ok a.content
  files : ∀ rest content, d.find? (start.place root ++ rest) = some (.file content) →
    ∃ a ∈ done, placeOf a = rest
  dirs : ∀ rest, rest ≠ [] → d.find? (start.place root ++ rest) = some .dir →
    ∃ a ∈ done, rest ∈ wayOf a

section Step

variable {root : String} {start d : Disk} {set done : ArtifactSet} {a : Artifact}
  (hempty : start.IsEmptyDir root) (h : set.Writable) (hp : Progress root start done d)
  (hdone : done ⊆ set) (ha : a ∈ set)
include h hp ha

theorem Progress.place_eq : d.place (join root a.path) = start.place root ++ placeOf a := by
  rw [hp.grown.place, h.place_join ha]

theorem Progress.way_eq : d.way (join root a.path) =
    start.stops root ++ (wayOf a).map (start.place root ++ ·) := by
  rw [hp.grown.way, h.way_join ha]

include hdone

/-- Nothing is at the place of an artifact that is not done. -/
theorem Progress.find?_place (hnew : ∀ b ∈ done, placeOf b ≠ placeOf a) :
    d.find? (d.place (join root a.path)) = none := by
  rw [hp.place_eq h ha]
  cases hf : d.find? (start.place root ++ placeOf a) with
  | none => rfl
  | some node =>
    cases node with
    | dir =>
      obtain ⟨b, hb, hm⟩ := hp.dirs _ (h.placeOf_ne_nil ha) hf
      exact absurd hm (h.clear ha (hdone hb))
    | file c =>
      obtain ⟨b, hb, he⟩ := hp.files _ c hf
      exact absurd he (hnew b hb)

include hempty

/-- No file is in its way. -/
theorem Progress.no_file_on_way : ∀ s ∈ d.way (join root a.path), ∀ c,
    d.find? s ≠ some (.file c) := by
  intro s hs c hf
  rw [hp.way_eq h ha] at hs
  rcases List.mem_append.1 hs with hs | hs
  · simp [hp.grown.dirs s ((isDir_iff_stops.1 hempty.isDir).2 s hs)] at hf
  · obtain ⟨rest, hrest, rfl⟩ := List.mem_map.1 hs
    obtain ⟨b, hb, rfl⟩ := hp.files rest c hf
    exact h.clear (hdone hb) ha hrest

omit hdone in
/-- Its place is not on its own way. -/
theorem Progress.place_not_mem_way : d.place (join root a.path) ∉ d.way (join root a.path) := by
  rw [hp.place_eq h ha, hp.way_eq h ha, List.mem_append, not_or]
  constructor
  · -- the stops of the root were there, and below it there was nothing
    intro hm
    have hdir := (isDir_iff_stops.1 hempty.isDir).2 _ hm
    rw [hempty.empty _ (h.placeOf_ne_nil ha)] at hdir
    cases hdir
  · intro hm
    obtain ⟨rest, hrest, he⟩ := List.mem_map.1 hm
    exact h.clear ha ha (List.append_cancel_left he ▸ hrest)

/-- The next artifact is written. -/
theorem Progress.step (hlimits : start.limits = none)
    (hnew : ∀ b ∈ done, placeOf b ≠ placeOf a) (mode : Overwrite) :
    ∃ d', a.write root mode d = (.ok .written, d') ∧ Progress root start (done ++ [a]) d' := by
  obtain ⟨hroot, hstops⟩ := isDir_iff_stops.1 hempty.isDir
  have hname := h.isName_last_join ha root
  have hnone := hp.find?_place h hdone ha hnew
  obtain ⟨d₁, d', hg, hw, hf⟩ := writeFile_ok
    (h.admits_join ha (hp.grown.admits.2 hroot) (hp.grown.limits.trans hlimits)) hname
    (hp.no_file_on_way hempty h hdone ha) (by rw [hnone]; nofun) (hp.place_not_mem_way hempty h ha)
    a.content
  have hexists : d.exists? (join root a.path) = false := by
    rw [Bool.eq_false_iff]
    exact fun he => (exists?_iff.1 he).2.2 hname hnone
  have hgrown : d.Extends d' := hg.extends.trans (Disk.extends_write hw)
  have hfind : ∀ loc, d'.find? loc =
      if loc = start.place root ++ placeOf a then some (.file a.content) else d₁.find? loc := by
    obtain ⟨-, -, hn, -, rfl⟩ := write_eq_ok.1 hw
    intro loc
    rw [find?_put d₁ (place_ne_nil hn), hg.extends.place, hp.place_eq h ha]
  refine ⟨d', by simp [Artifact.write, hexists, hf], hp.grown.trans hgrown, ?_, ?_, ?_⟩
  · rw [List.forall_mem_append, List.forall_mem_singleton]
    refine ⟨fun b hb => ?_, read_of_writeFile hf⟩
    have hread := hp.reads b hb
    have hplace := hp.place_eq h (hdone hb)
    refine hgrown.read_of_find? hread ?_
    rw [hfind, hplace, if_neg fun he => hnew b hb (List.append_cancel_left he), ← hplace]
    exact hg.find? (read_eq_ok.1 hread).2.2.2
  · intro rest content hr
    rw [hfind] at hr
    split at hr
    · rename_i he
      exact ⟨a, by simp, (List.append_cancel_left he).symm⟩
    · obtain ⟨b, hb, hrest⟩ := hp.files rest content (hg.file hr)
      exact ⟨b, List.mem_append_left _ hb, hrest⟩
  · intro rest hne hr
    rw [hfind] at hr
    split at hr
    · cases hr
    rcases hg.nodes (start.place root ++ rest) with he | ⟨hn, -, hm⟩
    · obtain ⟨b, hb, hrest⟩ := hp.dirs rest hne (he ▸ hr)
      exact ⟨b, List.mem_append_left _ hb, hrest⟩
    · rw [hp.way_eq h ha] at hm
      rcases List.mem_append.1 hm with hm | hm
      · rw [hp.grown.dirs _ (hstops _ hm)] at hn
        cases hn
      · obtain ⟨rest', hrest, he⟩ := List.mem_map.1 hm
        exact ⟨a, by simp, List.append_cancel_left he ▸ hrest⟩

end Step

section Run

variable {root : String} {start d : Disk} {set : ArtifactSet} (tree : start.IsTree)
  (hempty : start.IsEmptyDir root)
include hempty

include tree in
theorem progress_nil : Progress root start [] start where
  grown := .refl start
  reads := nofun
  files rest content hf := by
    by_cases hrest : rest = []
    · have hdir : start.find? (start.place root) = some .dir :=
        tree.land (tree.start root) (isDir_iff_stops.1 hempty.isDir).2
      rw [hrest, List.append_nil, hdir] at hf
      cases hf
    · rw [hempty.empty rest hrest] at hf
      cases hf
  dirs rest hrest hf := by
    rw [hempty.empty rest hrest] at hf
    cases hf

variable (hlimits : start.limits = none) (h : set.Writable)
include hlimits h

/-- From any progress on, all that is left is written. -/
theorem Progress.run (mode : Overwrite) : ∀ {rest done : ArtifactSet} {d : Disk},
    Progress root start done d → done ++ rest ⊆ set → ((done ++ rest).map placeOf).Nodup →
      ∃ d', rest.write root mode d = (.ok (rest.map fun a => ⟨join root a.path, .written⟩), d') ∧
        Progress root start (done ++ rest) d'
  | [], done, d, hp, _, _ => ⟨d, rfl, by rwa [List.append_nil]⟩
  | a :: rest, done, d, hp, hsub, hnodup => by
    rw [List.append_cons] at hsub hnodup
    have hnew : ∀ b ∈ done, placeOf b ≠ placeOf a := by
      intro b hb
      rw [List.map_append, List.map_append, List.nodup_append] at hnodup
      exact (List.nodup_append.1 hnodup.1).2.2 _ (List.mem_map_of_mem hb) _ (.head _)
    obtain ⟨d₁, hw, hp₁⟩ := hp.step hempty h (fun b hb => hsub (by simp [hb])) (hsub (by simp))
      hlimits hnew mode
    obtain ⟨d', hr, hp'⟩ := Progress.run mode hp₁ hsub hnodup
    rw [← List.append_cons] at hp'
    exact ⟨d', write_cons_eq_ok.2 ⟨.written, d₁, _, hw, hr, rfl⟩, hp'⟩

include tree in
/-- **A complete run.** Below an empty directory all of the set is written, in either mode. -/
theorem Writable.write_eq_ok (hlisting : start.IsListing) (mode : Overwrite) :
    ∃ d', set.write root mode start =
        (.ok (set.map fun a => ⟨join root a.path, .written⟩), d') ∧
      (∀ a ∈ set, d'.read (join root a.path) = .ok a.content) ∧
      (d'.filesBelow (d'.place root)).length = set.length := by
  obtain ⟨d', hw, hp⟩ := Progress.run hempty hlimits h mode (progress_nil tree hempty)
    (List.Subset.refl set) h.nodup_places
  refine ⟨d', hw, hp.reads, ?_⟩
  have hlisting' : d'.IsListing := by
    have := isListing_kept.run root mode set hlisting
    rwa [hw] at this
  have hnodup : ((set.map placeOf).map (start.place root ++ ·)).Nodup :=
    h.nodup_places.map fun _ _ => List.append_cancel_left
  rw [List.map_map] at hnodup
  rw [hp.grown.place, hlisting'.length_filesBelow hnodup, List.length_map]
  intro l
  rw [List.mem_map]
  constructor
  · rintro ⟨a, ha, rfl⟩
    refine ⟨List.prefix_append _ _, a.content, ?_⟩
    rw [Function.comp_apply, ← h.place_join ha, ← hp.grown.place]
    exact (read_eq_ok.1 (hp.reads a ha)).2.2.2
  · rintro ⟨⟨rest, rfl⟩, c, hf⟩
    obtain ⟨a, ha, rfl⟩ := hp.files rest c hf
    exact ⟨a, ha, rfl⟩

end Run

end ArtifactSet

end Scaffold
