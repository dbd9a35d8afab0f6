import Scaffold.Proofs.Anchored

/-!
# Writing with replacement

One artifact can be written unless a file stands above its place or a directory at it (`Refused`).
So a run writes artifact after artifact until the first refusal, which changes nothing: what it
leaves is what the artifacts before it have written (`write_always`, `Written`).
-/

set_option autoImplicit false

namespace Scaffold

open Disk

/-- Why a file cannot be written at a path: a file stands above its place, or a directory at it. -/
inductive Disk.Refused (d : Disk) (path : String) : WriteError → Prop
  | blocked {above : Location} {content : String} (hp : above <+: d.place path)
      (hne : above ≠ d.place path) (hf : d.find? above = some (.file content)) :
      Refused d path (.createDirectory (Path.parent path))
  | directory (hf : d.find? (d.place path) = some .dir) : Refused d path (.writeFile path)

/-- In a tree there is one reason. -/
theorem Disk.Refused.unique {d : Disk} {path : String} {e e' : WriteError} (h : d.Refused path e)
    (tree : d.IsTree) (h' : d.Refused path e') : e = e' := by
  cases h with
  | blocked hp hne hc =>
    cases h' with
    | blocked _ _ _ => rfl
    | directory hf => simp [tree.of_prefix hp hne (by simp [hf])] at hc
  | directory hf =>
    cases h' with
    | blocked hp hne hc => simp [tree.of_prefix hp hne (by simp [hf])] at hc
    | directory _ => rfl

theorem Disk.not_refused_of_place_eq {d : Disk} {path name : String} (hp : d.place path = [name])
    (hf : d.find? [name] = none) (e : WriteError) : ¬ d.Refused path e := by
  intro h
  cases h with
  | blocked hpre hne hc =>
    rw [hp] at hpre hne
    rcases List.prefix_cons_iff.1 hpre with rfl | ⟨rest, rfl, hrest⟩
    · cases hc
    · exact hne (by rw [List.prefix_nil.1 hrest])
  | directory hd =>
    rw [hp, hf] at hd
    cases hd

namespace ArtifactSet

/-- The set can be written below `root` as far as paths go: they are ordinary, admitted, and below a
root whose every `..` leaves directories that exist. -/
structure Fits (root : String) (set : ArtifactSet) (d : Disk) : Prop where
  tree : d.IsTree
  anchored : d.Anchored root
  ordinary : ∀ a ∈ set, Path.IsOrdinary a.path
  admitted : ∀ a ∈ set, d.Admits (Path.join root a.path)

instance (root : String) (set : ArtifactSet) (d : Disk) : Decidable (Fits root set d) :=
  decidable_of_iff (d.IsTree ∧ d.Anchored root ∧ (∀ a ∈ set, Path.IsOrdinary a.path) ∧
    ∀ a ∈ set, d.Admits (Path.join root a.path))
    ⟨fun ⟨h1, h2, h3, h4⟩ => ⟨h1, h2, h3, h4⟩, fun ⟨h1, h2, h3, h4⟩ => ⟨h1, h2, h3, h4⟩⟩

/-- After the first artifacts, the others still fit. -/
theorem Fits.run {root : String} {mode : Overwrite} {before after : ArtifactSet} {d d' : Disk}
    {outcomes : List WriteOutcome} (h : Fits root (before ++ after) d)
    (hr : ArtifactSet.write root mode before d = (.ok outcomes, d')) : Fits root after d' := by
  have hx := extends_write hr
  exact ⟨isTree_write h.tree hr, hx.anchored h.anchored,
    fun a ha => h.ordinary a (List.mem_append_right before ha),
    fun a ha => hx.admits.2 (h.admitted a (List.mem_append_right before ha))⟩

/-- What the artifacts of a set leave when each is written: the last one at each path, its
directories, and all else as it was. -/
structure Written (root : String) (set : ArtifactSet) (d d' : Disk) : Prop where
  /-- Nothing is removed. -/
  keeps : d.Extends d'
  /-- The last artifact with a path is what is read there. -/
  reads : ∀ before a after, set = before ++ a :: after → (∀ b ∈ after, b.path ≠ a.path) →
    d'.read (Path.join root a.path) = .ok a.content
  /-- Elsewhere the files are those that were there. -/
  elsewhere : ∀ loc, (∀ a ∈ set, d.place (Path.join root a.path) ≠ loc) →
    ∀ c, d'.find? loc = some (.file c) ↔ d.find? loc = some (.file c)
  /-- New directories are above the places of artifacts. -/
  above : ∀ loc, d'.find? loc = some .dir → d.find? loc = some .dir ∨
    ∃ a ∈ set, loc <+: d.place (Path.join root a.path) ∧ loc ≠ d.place (Path.join root a.path)

/-! ## One artifact -/

section
variable {root : String} {set : ArtifactSet} {d : Disk} (h : Fits root set d) {a : Artifact}
  (ha : a ∈ set)
include h ha

/-- **An artifact is refused or written.** A refusal changes nothing; else the missing directories
above its place are made and the file is put there. -/
theorem Fits.refused_or_written : let path := Path.join root a.path
    (∃ e, d.Refused path e ∧ a.write root .always d = (.error e, d)) ∨
    (∀ e, ¬ d.Refused path e) ∧ ∃ d₁ d',
      Grows (fun s => s <+: d.place path ∧ s ≠ d.place path) d d₁ ∧
      d₁.write path a.content = .ok d' ∧ a.write root .always d = (.ok .written, d') := by
  intro path
  have had := h.admitted a ha
  have hn := isName_last_join root (h.ordinary a ha)
  have anchored : d.Anchored path := h.anchored.join (h.ordinary a ha)
  by_cases hb : ∃ s, s <+: d.place path ∧ s ≠ d.place path ∧ ∃ c, d.find? s = some (.file c)
  · have hr := writeFile_blocked had hn (anchored.walk h.tree hn hb) a.content
    obtain ⟨s, hp, hne, c, hc⟩ := hb
    exact .inl ⟨_, .blocked hp hne hc, Artifact.write_always_eq_error.2 hr⟩
  by_cases hd : d.find? (d.place path) = some .dir
  · have ho := anchored.open h.tree hn (by simp [hd])
    exact .inl ⟨_, .directory hd,
      Artifact.write_always_eq_error.2 (writeFile_of_dir had hn ho hd a.content)⟩
  refine .inr ⟨fun e hr => ?_, ?_⟩
  · cases hr with
    | blocked hp hne hc => exact hb ⟨_, hp, hne, _, hc⟩
    | directory hf => exact hd hf
  · have above : ∀ s ∈ d.way path, d.find? s = some .dir ∨ s <+: d.place path ∧ s ≠ d.place path :=
      fun s hs => anchored.way_cases h.tree hn hs
    have clear : ∀ s ∈ d.way path, ∀ c, d.find? s ≠ some (.file c) := by
      intro s hs c hc
      rcases above s hs with hdir | ⟨hp, hne⟩
      · simp [hc] at hdir
      · exact hb ⟨s, hp, hne, c, hc⟩
    have off : d.place path ∉ d.way path := by
      intro hm
      rcases above _ hm with hdir | ⟨-, hne⟩
      · exact hd hdir
      · exact hne rfl
    obtain ⟨d₁, d', hg, hwr, hr⟩ := writeFile_ok had hn clear hd off a.content
    refine ⟨d₁, d', ⟨hg.workingDir, hg.limits, fun s => ?_⟩, hwr,
      Artifact.write_always_eq_ok.2 ⟨rfl, hr⟩⟩
    rcases hg.nodes s with he | ⟨hnone, hdir, hs⟩
    · exact .inl he
    · exact .inr ⟨hnone, hdir, (above s hs).resolve_left (by simp [hnone])⟩

/-- **When an artifact is refused.** -/
theorem Fits.write_eq_error_iff {e : WriteError} :
    (a.write root .always d).1 = .error e ↔ d.Refused (Path.join root a.path) e := by
  rcases h.refused_or_written ha with ⟨e', hr, hw⟩ | ⟨hr, d₁, d', -, -, hw⟩ <;> rw [hw]
  · exact ⟨fun he => Except.error.inj he ▸ hr, fun he => by rw [he.unique h.tree hr]⟩
  · exact ⟨nofun, fun he => absurd he (hr e)⟩

theorem Fits.eq_of_write_error {e : WriteError} {d' : Disk}
    (hw : a.write root .always d = (.error e, d')) : d' = d := by
  rcases h.refused_or_written ha with ⟨e', -, hr⟩ | ⟨-, d₁, d', -, -, hr⟩ <;> rw [hw] at hr <;>
    cases hr
  rfl

/-- An artifact that is not refused is written, as a set of one. -/
theorem Fits.written {r : WriteResult} {d' : Disk} (hr : a.write root .always d = (.ok r, d')) :
    r = .written ∧ Written root [a] d d' := by
  rcases h.refused_or_written ha with ⟨e', -, hw⟩ | ⟨-, d₁, d'', hg, hwr, hw⟩ <;> rw [hw] at hr
  · cases hr
  obtain ⟨rfl, rfl⟩ : WriteResult.written = r ∧ d'' = d' := by simpa using hr
  have hx := Disk.extends_write hwr
  have hread := read_of_write hwr
  obtain ⟨-, -, hn, -, rfl⟩ := write_eq_ok.1 hwr
  have hne := place_ne_nil (d := d) hn
  rw [hg.extends.place] at *
  refine ⟨rfl, hg.extends.trans hx, ?_, ?_, ?_⟩
  · intro before b after hset _
    obtain ⟨rfl, rfl, rfl⟩ : before = [] ∧ b = a ∧ after = [] := by
      simpa [List.singleton_eq_append_iff] using hset
    exact hread
  · intro loc hloc c
    rw [find?_put_of_ne d₁ _ (Ne.symm (hloc a List.mem_cons_self))]
    exact ⟨hg.file, hg.find?⟩
  · intro loc hloc
    rw [find?_put d₁ hne] at hloc
    split at hloc
    · cases hloc
    · rcases hg.nodes loc with he | ⟨-, -, hp⟩
      · exact .inl (he ▸ hloc)
      · exact .inr ⟨a, List.mem_cons_self, hp⟩

end

/-! ## The run -/

/-- The artifacts of a set are written one after the other. -/
theorem Written.cons {root : String} {a : Artifact} {rest : ArtifactSet} {d d₁ d' : Disk}
    (ordinary : ∀ b ∈ a :: rest, Path.IsOrdinary b.path) (ha : Written root [a] d d₁)
    (h : Written root rest d₁ d') : Written root (a :: rest) d d' := by
  rw [List.forall_mem_cons] at ordinary
  refine ⟨ha.keeps.trans h.keeps, ?_, ?_, ?_⟩
  · intro before b after hset hlast
    cases before with
    | cons b' before =>
      obtain ⟨-, hset⟩ := List.cons.inj hset
      exact h.reads before b after hset hlast
    | nil =>
      -- the later artifacts have other places
      obtain ⟨rfl, rfl⟩ := List.cons.inj hset
      have hread := ha.reads [] a [] rfl nofun
      have hother : ∀ b ∈ rest,
          d₁.place (Path.join root b.path) ≠ d₁.place (Path.join root a.path) := fun b hb he =>
        hlast b hb ((place_join_inj d₁ root (ordinary.2 b hb) ordinary.1).1 he)
      exact h.keeps.read_of_find? hread
        ((h.elsewhere _ hother _).2 (read_eq_ok.1 hread).2.2.2)
  · intro loc hloc c
    rw [List.forall_mem_cons] at hloc
    rw [h.elsewhere loc (fun b hb => by rw [ha.keeps.place]; exact hloc.2 b hb),
      ha.elsewhere loc (by simpa using hloc.1)]
  · intro loc hloc
    rcases h.above loc hloc with hd | ⟨b, hb, hp⟩
    · rcases ha.above loc hd with hd | ⟨b, hb, hp⟩
      · exact .inl hd
      · rw [List.mem_singleton.1 hb] at hp
        exact .inr ⟨a, List.mem_cons_self, hp⟩
    · rw [ha.keeps.place] at hp
      exact .inr ⟨b, List.mem_cons_of_mem a hb, hp⟩

theorem Fits.written_of_ok {root : String} : ∀ {set : ArtifactSet} {d d' : Disk}
    {outcomes : List WriteOutcome}, Fits root set d →
      set.write root .always d = (.ok outcomes, d') →
      outcomes = set.map (fun a => ⟨Path.join root a.path, .written⟩) ∧ Written root set d d'
  | [], d, d', outcomes, _, hr => by
    obtain ⟨rfl, rfl⟩ : [] = outcomes ∧ d = d' := by simpa [ArtifactSet.write] using hr
    exact ⟨rfl, .refl d, fun before a after h => by simp at h, fun _ _ _ => Iff.rfl, fun _ => .inl⟩
  | a :: rest, d, d', outcomes, h, hr => by
    obtain ⟨r, d₁, os, hw, hrest, rfl⟩ := write_cons_eq_ok.1 hr
    obtain ⟨rfl, ha⟩ := h.written List.mem_cons_self hw
    have hone : ArtifactSet.write root .always [a] d = (.ok _, d₁) :=
      write_cons_eq_ok.2 ⟨.written, d₁, [], hw, rfl, rfl⟩
    have h₁ : Fits root rest d₁ := Fits.run (show Fits root ([a] ++ rest) d from h) hone
    obtain ⟨rfl, hwr⟩ := h₁.written_of_ok hrest
    exact ⟨rfl, ha.cons h.ordinary hwr⟩

/-- **Writing with replacement.** An artifact is refused exactly when a file stands above its place
or a directory at it, and then nothing changes. A run that ends well has written every artifact, and
a run that fails leaves what the artifacts before the first refused one have written. -/
theorem Fits.write_always {root : String} {set : ArtifactSet} {d : Disk} (h : Fits root set d) :
    (∀ a ∈ set, (∀ e, (a.write root .always d).1 = .error e ↔ d.Refused (Path.join root a.path) e) ∧
      ∀ e d', a.write root .always d = (.error e, d') → d' = d) ∧
    (∀ outcomes d', set.write root .always d = (.ok outcomes, d') →
      outcomes = set.map (fun a => ⟨Path.join root a.path, .written⟩) ∧ Written root set d d') ∧
    ∀ e d', set.write root .always d = (.error e, d') → ∃ before a after outcomes,
      set = before ++ a :: after ∧
        ArtifactSet.write root .always before d = (.ok outcomes, d') ∧
        d'.Refused (Path.join root a.path) e ∧ a.write root .always d' = (.error e, d') := by
  refine ⟨fun a ha => ⟨fun e => h.write_eq_error_iff ha, fun e d' => h.eq_of_write_error ha⟩,
    fun outcomes d' => h.written_of_ok, fun e d' hr => ?_⟩
  obtain ⟨before, a, after, os, d₁, rfl, hb, hw⟩ := exists_of_write_eq_error hr
  have h₁ := h.run hb
  obtain rfl := h₁.eq_of_write_error List.mem_cons_self hw
  refine ⟨before, a, after, os, rfl, hb, ?_, hw⟩
  exact (h₁.write_eq_error_iff List.mem_cons_self).1 (by rw [hw])

/-- Two artifacts with one path, and a file in the way of the third. -/
theorem write_always_blocked :
    let d : Disk := { nodes := [(["out"], .dir), (["out", "g"], .file "kept")] }
    let set : ArtifactSet := [⟨"a/x", .model, "1"⟩, ⟨"a/x", .model, "2"⟩, ⟨"g/y", .dto, "3"⟩]
    Fits "out" set d ∧ ∃ before a after outcomes d' e, set.write "out" .always d = (.error e, d') ∧
      set = before ++ a :: after ∧
      ArtifactSet.write "out" .always before d = (.ok outcomes, d') ∧
      d'.Refused (Path.join "out" a.path) e ∧ a.write "out" .always d' = (.error e, d') := by
  intro d set
  have fits : Fits "out" set d := by decide
  obtain ⟨before, a, after, outcomes, h⟩ :=
    fits.write_always.2.2 (.createDirectory "out/g") _ rfl
  exact ⟨fits, before, a, after, outcomes, _, _, rfl, h⟩

/-- A failure leaves the directory `new`, made below a root that climbs out of it; a path with a
character that no path may hold, or with a name that is too long, fails without a refusal. -/
theorem write_always_unfit :
    let d : Disk := { nodes := [(["f"], .file "kept")], limits := some ⟨8, 255, by decide⟩ }
    d.IsTree ∧
      (Path.IsOrdinary "x" ∧ d.find? ["new"] = none ∧
        Artifact.write "new/../f" .always ⟨"x", .model, "c"⟩ d =
          (.error (.createDirectory "new/../f"), d.put ["new"] .dir)) ∧
      (Path.IsOrdinary "a\x00b" ∧ (∀ e, ¬ d.Refused "a\x00b" e) ∧
        Artifact.write "" .always ⟨"a\x00b", .model, "c"⟩ d =
          (.error (.writeFile "a\x00b"), d)) ∧
      Path.IsOrdinary "generated" ∧ (∀ e, ¬ d.Refused "generated" e) ∧
        Artifact.write "" .always ⟨"generated", .model, "c"⟩ d =
          (.error (.writeFile "generated"), d) :=
  ⟨by decide, ⟨by decide, rfl, rfl⟩, ⟨by decide, not_refused_of_place_eq rfl rfl, rfl⟩, by decide,
    not_refused_of_place_eq rfl rfl, rfl⟩

end ArtifactSet

end Scaffold
