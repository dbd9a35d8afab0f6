import Scaffold.Proofs.Anchored

/-!
# Writing without replacement

A file that is there is left alone when its path leads to it. A path can lead past a directory
that is missing and back out of it by `..`; then nothing is found at the path, the directory is
made for the write, and the write lands on the file: a detour (`Detour`). Nothing else changes a
file (`find?_writeFile`), so a run leaves every file with the content of the last artifact that
reached it by a detour (`ArtifactSet.find?_write`). An anchored path is no detour.
-/

set_option autoImplicit false

namespace Scaffold

namespace Disk

open Scaffold.Path

/-- The path leads to `loc` through directories, of which some are still to be made. -/
structure Detour (d : Disk) (path : String) (loc : Location) : Prop where
  admitted : d.Admits path
  named : IsName (last path)
  place : d.place path = loc
  clear : ∀ s ∈ d.way path, d.find? s = some .dir ∨ d.find? s = none
  missing : ∃ s ∈ d.way path, d.find? s = none

instance (d : Disk) (path : String) (loc : Location) : Decidable (d.Detour path loc) :=
  decidable_of_iff (d.Admits path ∧ IsName (last path) ∧ d.place path = loc ∧
    (∀ s ∈ d.way path, d.find? s = some .dir ∨ d.find? s = none) ∧
    ∃ s ∈ d.way path, d.find? s = none)
    ⟨fun ⟨h1, h2, h3, h4, h5⟩ => ⟨h1, h2, h3, h4, h5⟩,
      fun ⟨h1, h2, h3, h4, h5⟩ => ⟨h1, h2, h3, h4, h5⟩⟩

theorem Detour.exists?_eq_false {d : Disk} {path : String} {loc : Location}
    (h : d.Detour path loc) : d.exists? path = false := by
  obtain ⟨s, hs, hn⟩ := h.missing
  rw [Bool.eq_false_iff]
  intro he
  have hd := (exists?_iff.1 he).2.1 s hs
  rw [hn] at hd
  cases hd

/-- In a tree, an anchored path is no detour to a file. -/
theorem Anchored.not_detour {d : Disk} {path : String} {loc : Location} {c : String}
    (h : d.Anchored path) (tree : d.IsTree) (hf : d.find? loc = some (.file c)) :
    ¬ d.Detour path loc := by
  intro hd
  obtain ⟨s, hs, hn⟩ := hd.missing
  have ho := h.open tree hd.named (by simp [hd.place, hf]) s hs
  rw [hn] at ho
  cases ho

section
variable {d : Disk} {path : String} {loc : Location} {c : String}
  (hf : d.find? loc = some (.file c))
include hf

/-- A detour is taken, and the file replaced. -/
theorem Detour.writeFile (h : d.Detour path loc) (content : String) :
    ∃ d', Disk.writeFile path content d = (.ok (), d') ∧
      d'.find? loc = some (.file content) := by
  have hclear : ∀ s ∈ d.way path, ∀ c, d.find? s ≠ some (.file c) := by
    intro s hs c hc
    rcases h.clear s hs with he | he <;> simp [he] at hc
  have hpw : d.place path ∉ d.way path := fun hm => hclear _ hm c (h.place ▸ hf)
  obtain ⟨d₁, d', hg, hw, hr⟩ :=
    writeFile_ok h.admitted h.named hclear (by simp [h.place, hf]) hpw content
  have hfound := (read_eq_ok.1 (read_of_write hw)).2.2.2
  rw [(extends_write hw).place, hg.extends.place, h.place] at hfound
  exact ⟨d', hr, hfound⟩

/-- Where nothing is found, a write that changes a file is a detour. -/
theorem find?_writeFile (he : d.exists? path = false) (h : ¬ d.Detour path loc)
    (content : String) : (Disk.writeFile path content d).2.find? loc = some (.file c) := by
  obtain ⟨d₁, hg, ⟨d', hw, hr⟩ | ⟨e, hr⟩⟩ := writeFile_cases path content d
  · rw [hr]
    obtain ⟨had, ho, hn, -, rfl⟩ := write_eq_ok.1 hw
    have had : d.Admits path := hg.extends.admits.1 had
    rw [hg.extends.place]
    have hne : loc ≠ d.place path := by
      intro hloc
      have hclear : ∀ s ∈ d.way path, d.find? s = some .dir ∨ d.find? s = none := by
        intro s hs
        rcases hg.nodes s with he | ⟨hnone, -, -⟩
        · exact .inl (he ▸ ho s (by rwa [hg.extends.way]))
        · exact .inr hnone
      have hopen : ¬ d.Open path := by
        intro hopen
        rw [exists?_iff.2 ⟨had, hopen, fun _ => by simp [← hloc, hf]⟩] at he
        cases he
      have hmissing : ∃ s ∈ d.way path, d.find? s = none := by
        simp only [Disk.Open, Classical.not_forall] at hopen
        obtain ⟨s, hs, hd⟩ := hopen
        exact ⟨s, hs, (hclear s hs).resolve_left hd⟩
      exact h ⟨had, hn, hloc.symm, hclear, hmissing⟩
    rw [find?_put_of_ne d₁ _ hne]
    exact hg.find? hf
  · rw [hr]
    exact hg.find? hf

end

end Disk

open Disk

section
variable {d : Disk} {loc : Location} {c : String} (hf : d.find? loc = some (.file c))
include hf

theorem Artifact.write_of_detour {root : String} {a : Artifact}
    (h : d.Detour (Path.join root a.path) loc) :
    ∃ d', a.write root .ifMissing d = (.ok .written, d') ∧
      d'.find? loc = some (.file a.content) := by
  obtain ⟨d', hw, hd⟩ := h.writeFile hf a.content
  rcases a.write_cases root .ifMissing d with ⟨-, he, -⟩ | ⟨-, ⟨d₁, hw₁, hr⟩ | ⟨e, d₁, hw₁, -⟩⟩
  · rw [h.exists?_eq_false] at he
    cases he
  · rw [hw] at hw₁
    cases hw₁
    exact ⟨d', hr, hd⟩
  · rw [hw] at hw₁
    cases hw₁

theorem Artifact.find?_write_of_not_detour {root : String} {a : Artifact}
    (h : ¬ d.Detour (Path.join root a.path) loc) :
    (a.write root .ifMissing d).2.find? loc = some (.file c) := by
  rcases a.write_cases root .ifMissing d with ⟨-, -, hr⟩ | ⟨he, hw⟩
  · rw [hr]
    exact hf
  · have hkept := find?_writeFile hf (he rfl) h a.content
    rcases hw with ⟨d', hw, hr⟩ | ⟨e, d', hw, hr⟩
    · rw [hw] at hkept
      rw [hr]
      exact hkept
    · rw [hw] at hkept
      rw [hr]
      exact hkept

end

namespace ArtifactSet

/-- The artifacts that a run without replacement writes to the file at `loc`. -/
def detours (root : String) (loc : Location) : ArtifactSet → Disk → List Artifact
  | [], _ => []
  | a :: rest, d =>
    (if d.Detour (Path.join root a.path) loc then [a] else []) ++
      match a.write root .ifMissing d with
      | (.ok _, d) => detours root loc rest d
      | (.error _, _) => []

section
variable {root : String} {loc : Location} {a : Artifact} {rest : ArtifactSet} {d d' : Disk}

theorem detours_cons_of_ok {r : WriteResult} (h : a.write root .ifMissing d = (.ok r, d')) :
    detours root loc (a :: rest) d =
      (if d.Detour (Path.join root a.path) loc then [a] else []) ++ detours root loc rest d' := by
  show _ ++ _ = _
  rw [h]

theorem detours_cons_of_error {e : WriteError} (h : a.write root .ifMissing d = (.error e, d')) :
    detours root loc (a :: rest) d = if d.Detour (Path.join root a.path) loc then [a] else [] := by
  show _ ++ _ = _
  rw [h, List.append_nil]

end

/-- A run without replacement leaves in a file what the last detour to it brought. -/
theorem find?_write {root : String} {loc : Location} : ∀ (set : ArtifactSet) {d : Disk}
    {c : String}, d.find? loc = some (.file c) → (set.write root .ifMissing d).2.find? loc =
      some (.file (((set.detours root loc d).getLast?.map (·.content)).getD c))
  | [], _, _, hf => hf
  | a :: rest, d, c, hf => by
    by_cases h : d.Detour (Path.join root a.path) loc
    · obtain ⟨d', hw, hd⟩ := a.write_of_detour hf h
      rw [snd_write_cons hw, find?_write rest hd, detours_cons_of_ok hw, if_pos h,
        List.singleton_append, List.getLast?_cons]
      cases (detours root loc rest d').getLast? <;> rfl
    · have hd := a.find?_write_of_not_detour hf h
      rcases hw : a.write root .ifMissing d with ⟨e | r, d'⟩ <;> rw [hw] at hd
      · rw [write_cons_error hw, detours_cons_of_error hw, if_neg h]
        exact hd
      · rw [snd_write_cons hw, find?_write rest hd, detours_cons_of_ok hw, if_neg h,
          List.nil_append]

/-- In a tree, anchored paths never detour. -/
theorem detours_eq_nil {root : String} {loc : Location} : ∀ (set : ArtifactSet) {d : Disk}
    {c : String}, d.IsTree → (∀ a ∈ set, d.Anchored (Path.join root a.path)) →
      d.find? loc = some (.file c) → set.detours root loc d = []
  | [], _, _, _, _, _ => rfl
  | a :: rest, d, c, tree, ha, hf => by
    rw [List.forall_mem_cons] at ha
    have hn := ha.1.not_detour tree hf
    have hd := a.find?_write_of_not_detour hf hn
    rcases hw : a.write root .ifMissing d with ⟨e | r, d'⟩ <;> rw [hw] at hd
    · rw [detours_cons_of_error hw, if_neg hn]
    · rw [detours_cons_of_ok hw, if_neg hn, List.nil_append]
      exact detours_eq_nil rest (a.isTree_write tree hw)
        (fun b hb => (a.extends_write hw).anchored (ha.2 b hb)) hd

/-- **What a run without replacement keeps.** Every file keeps its content exactly if, for each,
the last detour to it, if there is one, brings that content; and in a tree there is no detour when
every `..` of the joined paths leaves directories that exist. -/
theorem write_ifMissing_keeps_iff (root : String) (set : ArtifactSet) (d : Disk) :
    ((∀ loc c, d.find? loc = some (.file c) →
        (set.write root .ifMissing d).2.find? loc = some (.file c)) ↔
      ∀ loc c, d.find? loc = some (.file c) →
        ∀ a, (set.detours root loc d).getLast? = some a → a.content = c) ∧
    (d.IsTree → (∀ a ∈ set, d.Anchored (Path.join root a.path)) →
      ∀ loc c, d.find? loc = some (.file c) → set.detours root loc d = []) := by
  refine ⟨forall_congr' fun loc => forall_congr' fun c => forall_congr' fun hf => ?_,
    fun tree ha loc c hf => set.detours_eq_nil tree ha hf⟩
  rw [set.find?_write hf]
  cases (set.detours root loc d).getLast? <;> simp

/-- Below the directory `out` there is no detour to the file `x`: `a` exists. -/
theorem write_ifMissing_keeps_iff_anchored :
    let d : Disk :=
      { nodes := [(["out"], .dir), (["out", "a"], .dir), (["out", "x"], .file "kept")] }
    let set : ArtifactSet := [⟨"a/../x", .model, "new"⟩, ⟨"b/y", .dto, "y"⟩]
    d.IsTree ∧ (∀ a ∈ set, d.Anchored (Path.join "out" a.path)) ∧
      d.find? ["out", "x"] = some (.file "kept") ∧ set.detours "out" ["out", "x"] d = [] := by
  intro d set
  have tree : d.IsTree := by decide
  have anchored : ∀ a ∈ set, d.Anchored (Path.join "out" a.path) := by decide
  exact ⟨tree, anchored, rfl,
    (write_ifMissing_keeps_iff "out" set d).2 tree anchored ["out", "x"] "kept" rfl⟩

/-- The path finds nothing while the directory `New` is missing, and the file is replaced. -/
theorem write_ifMissing_replaces :
    let d : Disk :=
      { nodes := [(["app"], .dir), (["app", "Models"], .dir),
          (["app", "Models", "x.php"], .file "kept")] }
    let set : ArtifactSet := [⟨"app/Models/New/../x.php", .model, "new"⟩]
    d.IsTree ∧ d.find? ["app", "Models", "x.php"] = some (.file "kept") ∧
      (set.write "." .ifMissing d).2.find? ["app", "Models", "x.php"] = some (.file "new") :=
  ⟨by decide, rfl, rfl⟩

end ArtifactSet

end Scaffold
