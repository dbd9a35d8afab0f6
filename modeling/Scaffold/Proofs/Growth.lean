import Scaffold.Proofs.Disks
import Scaffold.Writer

/-!
# How a disk grows

Writing only makes directories and files, one at a time: what every such step keeps (`Kept`), a
whole run keeps (`Kept.run`). So nothing vanishes and a directory stays a directory (`Extends`),
making directories changes nothing that is there (`Grows`), and what is a tree stays one (`IsTree`).
-/

set_option autoImplicit false

namespace Scaffold

/-! ## One artifact -/

/-- What writing an artifact does: skip it, write it or fail. -/
theorem Artifact.write_cases (root : String) (mode : Overwrite) (a : Artifact) (d : Disk) :
    (mode = .ifMissing ∧ d.exists? (Path.join root a.path) = true ∧
      a.write root mode d = (.ok .skipped, d)) ∨
    (mode = .ifMissing → d.exists? (Path.join root a.path) = false) ∧
      ((∃ d', d.writeFile (Path.join root a.path) a.content = (.ok (), d') ∧
        a.write root mode d = (.ok .written, d')) ∨
      ∃ e d', d.writeFile (Path.join root a.path) a.content = (.error e, d') ∧
        a.write root mode d = (.error e, d')) := by
  unfold Artifact.write
  by_cases hs : mode = .ifMissing ∧ d.exists? (Path.join root a.path) = true
  · exact .inl ⟨hs.1, hs.2, by simp [hs]⟩
  · refine .inr ⟨fun hm => by simpa [hm] using hs, ?_⟩
    rcases hf : d.writeFile (Path.join root a.path) a.content with ⟨e | u, d'⟩
    · exact .inr ⟨e, d', rfl, by simp [hs, hf]⟩
    · exact .inl ⟨d', rfl, by simp [hs, hf]⟩

section
variable {root : String} {a : Artifact} {d d' : Disk}

theorem Artifact.write_always_eq_ok {r : WriteResult} :
    a.write root .always d = (.ok r, d') ↔
      r = .written ∧ d.writeFile (Path.join root a.path) a.content = (.ok (), d') := by
  rcases a.write_cases root .always d with ⟨hm, -, -⟩ | ⟨-, ⟨d₁, hf, hw⟩ | ⟨e, d₁, hf, hw⟩⟩
  · cases hm
  · simp [hf, hw, eq_comm]
  · simp [hf, hw]

theorem Artifact.write_always_eq_error {e : WriteError} :
    a.write root .always d = (.error e, d') ↔
      d.writeFile (Path.join root a.path) a.content = (.error e, d') := by
  rcases a.write_cases root .always d with ⟨hm, -, -⟩ | ⟨-, ⟨d₁, hf, hw⟩ | ⟨e', d₁, hf, hw⟩⟩
  · cases hm
  · simp [hf, hw]
  · simp [hf, hw]

theorem Artifact.write_of_exists? (h : d.exists? (Path.join root a.path) = true) :
    a.write root .ifMissing d = (.ok .skipped, d) := by
  rcases a.write_cases root .ifMissing d with ⟨-, -, hw⟩ | ⟨he, -⟩
  · exact hw
  · rw [he rfl] at h
    cases h

end

/-! ## Induction over a run -/

namespace Disk

/-- Making a directory and writing a file keep the property. -/
structure Kept (P : Disk → Prop) : Prop where
  mkdir : ∀ {d d' : Disk} {path : String}, P d → d.mkdir path = .ok d' → P d'
  write : ∀ {d d' : Disk} {path content : String}, P d → d.write path content = .ok d' → P d'

theorem makeDirs_keeps {P : Disk → Prop}
    (mk : ∀ {d d' : Disk} {path : String}, P d → d.mkdir path = .ok d' → P d') :
    ∀ (chain : List String) {d : Disk}, P d → P (makeDirs chain d).2
  | [], _, h => h
  | path :: ancestors, d, h => by
    rw [makeDirs]
    split
    · exact h
    split
    · rename_i d' hd
      exact mk h hd
    · have hr := makeDirs_keeps mk ancestors h
      split
      · rename_i e d' hd
        rw [hd] at hr
        exact hr
      · rename_i d' hd
        rw [hd] at hr
        split
        · rename_i d'' hd'
          exact mk hr hd'
        · exact hr
    · exact h

section
variable {P : Disk → Prop} (kept : Kept P)
include kept

theorem Kept.writeFile (path content : String) {d : Disk} (h : P d) :
    P (d.writeFile path content).2 := by
  have here : ∀ {d : Disk}, P d → P (writeHere path content d).2 := by
    intro d h
    unfold writeHere
    split
    · rename_i d' hd
      exact kept.write h hd
    · exact h
  unfold Disk.writeFile
  split
  · rename_i parent ancestors _
    have hr := makeDirs_keeps kept.mkdir (parent :: ancestors) h
    split
    · rename_i d' hd
      rw [hd] at hr
      exact here hr
    · rename_i d' hd
      rw [hd] at hr
      exact hr
  · exact here h

theorem Kept.artifact (root : String) (mode : Overwrite) (a : Artifact) {d : Disk} (h : P d) :
    P (a.write root mode d).2 := by
  have hr := kept.writeFile (Path.join root a.path) a.content h
  rcases a.write_cases root mode d with ⟨-, -, hw⟩ | ⟨-, ⟨d', hf, hw⟩ | ⟨e, d', hf, hw⟩⟩
  · rw [hw]
    exact h
  · rw [hf] at hr
    rw [hw]
    exact hr
  · rw [hf] at hr
    rw [hw]
    exact hr

/-- What one directory and one file keep, a whole run keeps. -/
theorem Kept.run (root : String) (mode : Overwrite) :
    ∀ (set : ArtifactSet) {d : Disk}, P d → P (set.write root mode d).2
  | [], _, h => h
  | a :: rest, d, h => by
    have ha := kept.artifact root mode a h
    rw [ArtifactSet.write]
    split
    · rename_i e d' hd
      rw [hd] at ha
      exact ha
    · rename_i r d' hd
      rw [hd] at ha
      have hr := Kept.run root mode rest ha
      split
      · rename_i e d'' hd'
        rw [hd'] at hr
        exact hr
      · rename_i os d'' hd'
        rw [hd'] at hr
        exact hr

end

end Disk

namespace Disk

open Scaffold.Path

/-! ## Nothing vanishes -/

/-- Directories of `d` are directories of `d'` and files are files, perhaps with other contents;
paths are followed from the same places and within the same limits. -/
structure Extends (d d' : Disk) : Prop where
  workingDir : d'.workingDir = d.workingDir
  limits : d'.limits = d.limits
  dirs : ∀ loc, d.find? loc = some .dir → d'.find? loc = some .dir
  files : ∀ loc c, d.find? loc = some (.file c) → ∃ c', d'.find? loc = some (.file c')

theorem Extends.refl (d : Disk) : d.Extends d := ⟨rfl, rfl, fun _ h => h, fun _ c h => ⟨c, h⟩⟩

theorem Extends.trans {d d' d'' : Disk} (h : d.Extends d') (h' : d'.Extends d'') :
    d.Extends d'' := by
  refine ⟨h'.workingDir.trans h.workingDir, h'.limits.trans h.limits,
    fun loc hl => h'.dirs loc (h.dirs loc hl), fun loc c hl => ?_⟩
  obtain ⟨c', hc'⟩ := h.files loc c hl
  exact h'.files loc c' hc'

section
variable {d d' : Disk} (h : d.Extends d')
include h

theorem Extends.start (path : String) : d'.start path = d.start path := by
  rw [Disk.start, Disk.start, h.workingDir]

theorem Extends.place (path : String) : d'.place path = d.place path := by
  rw [Disk.place, Disk.place, h.start]

theorem Extends.way (path : String) : d'.way path = d.way path := by
  rw [Disk.way, Disk.way, h.start]

theorem Extends.admitsName (name : String) : d'.admitsName name = d.admitsName name := by
  rw [Disk.admitsName, Disk.admitsName, h.limits]

theorem Extends.admits {path : String} : d'.Admits path ↔ d.Admits path := by
  have hl : d'.admitsPath path = d.admitsPath path := by rw [admitsPath, admitsPath, h.limits]
  constructor
  · exact fun ha => ⟨ha.nonempty, ha.noNul, hl ▸ ha.length,
      fun p hp => h.admitsName p ▸ ha.names p hp⟩
  · exact fun ha => ⟨ha.nonempty, ha.noNul, hl ▸ ha.length,
      fun p hp => h.admitsName p ▸ ha.names p hp⟩

theorem Extends.open {path : String} (ho : d.Open path) : d'.Open path :=
  fun s hs => h.dirs s (ho s (h.way path ▸ hs))

theorem Extends.find?_ne_none {loc : Location} (hf : d.find? loc ≠ none) :
    d'.find? loc ≠ none := by
  cases hd : d.find? loc with
  | none => exact absurd hd hf
  | some node =>
    cases node with
    | dir => simp [h.dirs loc hd]
    | file c =>
      obtain ⟨c', hc'⟩ := h.files loc c hd
      simp [hc']

theorem Extends.exists? {path : String} (he : d.exists? path = true) : d'.exists? path = true := by
  obtain ⟨had, ho, hf⟩ := exists?_iff.1 he
  refine exists?_iff.2 ⟨h.admits.2 had, h.open ho, fun hn => ?_⟩
  rw [h.place]
  exact h.find?_ne_none (hf hn)

/-- The path of a file still leads to what is at its place. -/
theorem Extends.read_of_find? {path c c' : String} (hr : d.read path = .ok c)
    (hf : d'.find? (d.place path) = some (.file c')) : d'.read path = .ok c' := by
  obtain ⟨had, ho, hn, -⟩ := read_eq_ok.1 hr
  exact read_eq_ok.2 ⟨h.admits.2 had, h.open ho, hn, by rwa [h.place]⟩

theorem Extends.read {path c : String} (hr : d.read path = .ok c) :
    ∃ c', d'.read path = .ok c' := by
  obtain ⟨c', hc'⟩ := h.files _ c (read_eq_ok.1 hr).2.2.2
  exact ⟨c', h.read_of_find? hr hc'⟩

end

theorem extends_put (d : Disk) {loc : Location} (hne : loc ≠ []) {node : Node}
    (hd : d.find? loc = some .dir → node = .dir)
    (hf : ∀ c, d.find? loc = some (.file c) → ∃ c', node = .file c') :
    d.Extends (d.put loc node) := by
  refine ⟨rfl, rfl, fun l hl => ?_, fun l c hl => ?_⟩
  · rw [find?_put d hne]
    split
    · rename_i he
      rw [hd (he ▸ hl)]
    · exact hl
  · rw [find?_put d hne]
    split
    · rename_i he
      obtain ⟨c', rfl⟩ := hf c (he ▸ hl)
      exact ⟨c', rfl⟩
    · exact ⟨c, hl⟩

theorem extends_mkdir {d d' : Disk} {path : String} (h : d.mkdir path = .ok d') :
    d.Extends d' := by
  obtain ⟨-, -, hn, hf, rfl⟩ := mkdir_eq_ok.1 h
  exact extends_put d (place_ne_nil hn) (fun _ => rfl) (fun c hc => by simp [hf] at hc)

theorem extends_write {d d' : Disk} {path content : String} (h : d.write path content = .ok d') :
    d.Extends d' := by
  obtain ⟨-, -, hn, hf, rfl⟩ := write_eq_ok.1 h
  exact extends_put d (place_ne_nil hn) (fun hd => absurd hd hf) (fun _ _ => ⟨content, rfl⟩)

theorem extends_kept (d : Disk) : Kept d.Extends :=
  ⟨fun h hm => h.trans (extends_mkdir hm), fun h hw => h.trans (extends_write hw)⟩

/-- What is written is read back. -/
theorem read_of_write {d d' : Disk} {path content : String} (h : d.write path content = .ok d') :
    d'.read path = .ok content := by
  have hx := extends_write h
  obtain ⟨had, ho, hn, -, rfl⟩ := write_eq_ok.1 h
  exact read_eq_ok.2 ⟨hx.admits.2 had, hx.open ho, hn, find?_put_self d (place_ne_nil hn) _⟩

/-! ## Making directories -/

/-- `d'` has directories more than `d`, all at locations that satisfy `S`. -/
structure Grows (S : Location → Prop) (d d' : Disk) : Prop where
  workingDir : d'.workingDir = d.workingDir
  limits : d'.limits = d.limits
  nodes : ∀ loc, d'.find? loc = d.find? loc ∨
    d.find? loc = none ∧ d'.find? loc = some .dir ∧ S loc

theorem Grows.refl (S : Location → Prop) (d : Disk) : Grows S d d := ⟨rfl, rfl, fun _ => .inl rfl⟩

theorem Grows.trans {S : Location → Prop} {d d' d'' : Disk} (h : Grows S d d')
    (h' : Grows S d' d'') : Grows S d d'' := by
  refine ⟨h'.workingDir.trans h.workingDir, h'.limits.trans h.limits, fun loc => ?_⟩
  rcases h.nodes loc with he | ⟨hn, hd, hs⟩
  · rcases h'.nodes loc with he' | ⟨hn', hd', hs'⟩
    · exact .inl (he'.trans he)
    · exact .inr ⟨he ▸ hn', hd', hs'⟩
  · rcases h'.nodes loc with he' | ⟨hn', -, -⟩
    · exact .inr ⟨hn, he'.trans hd, hs⟩
    · rw [hd] at hn'
      cases hn'

theorem Grows.mono {S T : Location → Prop} {d d' : Disk} (h : Grows S d d')
    (hst : ∀ loc, S loc → T loc) : Grows T d d' :=
  ⟨h.workingDir, h.limits, fun loc => (h.nodes loc).imp_right fun ⟨hn, hd, hs⟩ =>
    ⟨hn, hd, hst loc hs⟩⟩

/-- What is there stays as it is. -/
theorem Grows.find? {S : Location → Prop} {d d' : Disk} (h : Grows S d d') {loc : Location}
    {node : Node} (hf : d.find? loc = some node) : d'.find? loc = some node := by
  rcases h.nodes loc with he | ⟨hn, -, -⟩
  · rw [he, hf]
  · rw [hf] at hn
    cases hn

/-- Every file was there before. -/
theorem Grows.file {S : Location → Prop} {d d' : Disk} (h : Grows S d d') {loc : Location}
    {c : String} (hf : d'.find? loc = some (.file c)) : d.find? loc = some (.file c) := by
  rcases h.nodes loc with he | ⟨-, hd, -⟩
  · rw [← he, hf]
  · rw [hf] at hd
    cases hd

theorem Grows.extends {S : Location → Prop} {d d' : Disk} (h : Grows S d d') : d.Extends d' :=
  ⟨h.workingDir, h.limits, fun _ hf => h.find? hf, fun _ c hf => ⟨c, h.find? hf⟩⟩

theorem grows_mkdir {d d' : Disk} {path : String} (h : d.mkdir path = .ok d') :
    Grows (· = d.place path) d d' := by
  obtain ⟨-, -, hn, hf, rfl⟩ := mkdir_eq_ok.1 h
  refine ⟨rfl, rfl, fun loc => ?_⟩
  rw [find?_put d (place_ne_nil hn)]
  split
  · rename_i he
    exact .inr ⟨he ▸ hf, rfl, he⟩
  · exact .inl rfl

theorem grows_makeDirs (chain : List String) (d : Disk) :
    Grows (fun _ => True) d (makeDirs chain d).2 :=
  makeDirs_keeps (P := Grows (fun _ => True) d)
    (fun h hm => h.trans ((grows_mkdir hm).mono fun _ _ => trivial)) chain (.refl _ d)

/-! ## Trees -/

/-- Every node stands in a directory, and there is a working directory. -/
structure IsTree (d : Disk) : Prop where
  parent : ∀ loc part, d.find? (loc ++ [part]) ≠ none → d.find? loc = some .dir
  workingDir : d.find? d.workingDir = some .dir

theorem mem_of_find?_ne_none {d : Disk} {loc : Location} (hne : loc ≠ []) :
    d.find? loc ≠ none ↔ ∃ e ∈ d.nodes, e.1 = loc := by
  rw [find?, if_neg hne, Ne, List.lookup_eq_none_iff]
  simp only [bne_iff_ne, Classical.not_forall, Classical.not_not, exists_prop]
  exact exists_congr fun e => and_congr_right fun _ => eq_comm

instance (d : Disk) : Decidable d.IsTree :=
  decidable_of_iff ((∀ e ∈ d.nodes, d.find? e.1.dropLast = some .dir) ∧
      d.find? d.workingDir = some .dir) <| by
    constructor
    · intro ⟨hp, hw⟩
      refine ⟨fun loc part hf => ?_, hw⟩
      obtain ⟨e, he, hloc⟩ := (mem_of_find?_ne_none (by simp)).1 hf
      simpa [hloc] using hp e he
    · intro h
      refine ⟨fun e he => ?_, h.workingDir⟩
      rcases List.eq_nil_or_concat e.1 with hnil | ⟨loc, part, hloc⟩
      · rw [hnil]
        rfl
      · rw [List.concat_eq_append] at hloc
        rw [hloc, List.dropLast_concat]
        exact h.parent loc part ((mem_of_find?_ne_none (by simp)).2 ⟨e, he, hloc⟩)

theorem IsTree.start {d : Disk} (h : d.IsTree) (path : String) :
    d.find? (d.start path) = some .dir := by
  unfold Disk.start
  split
  · rfl
  · exact h.workingDir

/-- What is above a node is a directory. -/
theorem IsTree.above {d : Disk} (h : d.IsTree) : ∀ {rest : List String} {loc : Location}
    {part : String}, d.find? (loc ++ part :: rest) ≠ none → d.find? loc = some .dir
  | [], loc, part, hf => h.parent loc part hf
  | next :: rest, loc, part, hf => by
    have hl : d.find? (loc ++ [part]) = some .dir :=
      h.above (show d.find? (loc ++ [part] ++ next :: rest) ≠ none by simpa using hf)
    exact h.parent loc part (by simp [hl])

theorem IsTree.dropLast {d : Disk} (h : d.IsTree) {loc : Location} (hf : d.find? loc = some .dir) :
    d.find? loc.dropLast = some .dir := by
  by_cases hne : loc = []
  · subst hne
    exact hf
  · rw [← List.dropLast_concat_getLast hne] at hf
    exact h.parent loc.dropLast (loc.getLast hne) (by simp [hf])

theorem IsTree.land {d : Disk} (h : d.IsTree) : ∀ {ps : List String} {loc : Location},
    d.find? loc = some .dir → (∀ s ∈ passed loc ps, d.find? s = some .dir) →
      d.find? (land loc ps) = some .dir
  | [], _, hl, _ => hl
  | part :: ps, loc, hl, hp => by
    rw [Path.land]
    rw [passed] at hp
    split
    · rename_i hi
      rw [if_pos hi] at hp
      exact IsTree.land h hl hp
    · rename_i hi
      rw [if_neg hi] at hp
      split
      · rename_i hu
        rw [if_pos hu] at hp
        exact IsTree.land h (h.dropLast hl) hp
      · rename_i hu
        rw [if_neg hu] at hp
        exact IsTree.land h (hp _ List.mem_cons_self) fun s hs => hp s (List.mem_cons_of_mem _ hs)

theorem IsTree.put {d : Disk} (h : d.IsTree) {loc : Location} {part : String} {node : Node}
    (hl : d.find? loc = some .dir) (hn : d.find? (loc ++ [part]) ≠ some .dir) :
    (d.put (loc ++ [part]) node).IsTree := by
  have hne : loc ++ [part] ≠ [] := by simp
  have dirs : ∀ l, d.find? l = some .dir → (d.put (loc ++ [part]) node).find? l = some .dir := by
    intro l hd
    have hl : l ≠ loc ++ [part] := fun he => hn (he ▸ hd)
    rwa [find?_put_of_ne d node hl]
  refine ⟨fun l p hf => dirs l ?_, dirs _ h.workingDir⟩
  rw [find?_put d hne] at hf
  split at hf
  · rename_i he
    rwa [(List.append_inj' he rfl).1]
  · exact h.parent l p hf

theorem IsTree.mkdir {d d' : Disk} {path : String} (h : d.IsTree) (hm : d.mkdir path = .ok d') :
    d'.IsTree := by
  obtain ⟨-, ho, hn, hf, rfl⟩ := mkdir_eq_ok.1 hm
  rw [place_of_isName hn] at hf ⊢
  exact h.put (h.land (h.start path) ho) (by simp [hf])

theorem IsTree.write {d d' : Disk} {path content : String} (h : d.IsTree)
    (hw : d.write path content = .ok d') : d'.IsTree := by
  obtain ⟨-, ho, hn, hf, rfl⟩ := write_eq_ok.1 hw
  rw [place_of_isName hn] at hf ⊢
  exact h.put (h.land (h.start path) ho) hf

theorem isTree_kept : Kept IsTree := ⟨fun h hm => h.mkdir hm, fun h hw => h.write hw⟩

end Disk

open Disk

section
variable {root : String} {mode : Overwrite} {d d' : Disk}

theorem Artifact.isTree_write {a : Artifact} {r : Except WriteError WriteResult} (h : d.IsTree)
    (hw : a.write root mode d = (r, d')) : d'.IsTree := by
  have := isTree_kept.artifact root mode a h
  rwa [hw] at this

theorem Artifact.extends_write {a : Artifact} {r : Except WriteError WriteResult}
    (hw : a.write root mode d = (r, d')) : d.Extends d' := by
  have := (extends_kept d).artifact root mode a (.refl d)
  rwa [hw] at this

/-- A run leaves a tree. -/
theorem ArtifactSet.isTree_write {set : ArtifactSet} {r : Except WriteError (List WriteOutcome)}
    (h : d.IsTree) (hw : set.write root mode d = (r, d')) : d'.IsTree := by
  have := isTree_kept.run root mode set h
  rwa [hw] at this

/-- A run lets nothing vanish. -/
theorem ArtifactSet.extends_write {set : ArtifactSet} {r : Except WriteError (List WriteOutcome)}
    (hw : set.write root mode d = (r, d')) : d.Extends d' := by
  have := (extends_kept d).run root mode set (.refl d)
  rwa [hw] at this

end

namespace ArtifactSet

variable {root : String} {mode : Overwrite} {a : Artifact} {rest : ArtifactSet} {d d' : Disk}

theorem snd_write_cons {r : WriteResult} (h : a.write root mode d = (.ok r, d')) :
    (ArtifactSet.write root mode (a :: rest) d).2 = (rest.write root mode d').2 := by
  rw [ArtifactSet.write, h]
  simp only
  split <;> simp_all

theorem write_cons_eq_ok {outcomes : List WriteOutcome} :
    ArtifactSet.write root mode (a :: rest) d = (.ok outcomes, d') ↔ ∃ r d₁ os,
      a.write root mode d = (.ok r, d₁) ∧ rest.write root mode d₁ = (.ok os, d') ∧
        outcomes = ⟨Path.join root a.path, r⟩ :: os := by
  rw [ArtifactSet.write]
  constructor
  · intro h
    split at h
    · cases h
    · rename_i r d₁ ha
      split at h
      · cases h
      · rename_i os d₂ hr
        cases h
        exact ⟨r, d₁, os, ha, hr, rfl⟩
  · rintro ⟨r, d₁, os, ha, hr, rfl⟩
    simp [ha, hr]

theorem write_cons_error {e : WriteError} (h : a.write root mode d = (.error e, d')) :
    ArtifactSet.write root mode (a :: rest) d = (.error e, d') := by
  rw [ArtifactSet.write, h]

/-- A run that fails is a run that ends well, one artifact that fails, and nothing more. -/
theorem exists_of_write_eq_error {e : WriteError} : ∀ {set : ArtifactSet} {d : Disk},
    set.write root mode d = (.error e, d') → ∃ before a after outcomes d₁,
      set = before ++ a :: after ∧ ArtifactSet.write root mode before d = (.ok outcomes, d₁) ∧
        a.write root mode d₁ = (.error e, d')
  | a :: rest, d, h => by
    rw [ArtifactSet.write] at h
    split at h
    · rename_i e' d₁ ha
      cases h
      exact ⟨[], a, rest, [], d, rfl, rfl, ha⟩
    · rename_i r d₁ ha
      split at h
      · rename_i e' d₂ hr
        cases h
        obtain ⟨before, b, after, os, d₃, rfl, hb, he⟩ := exists_of_write_eq_error hr
        exact ⟨a :: before, b, after, _, d₃, rfl, write_cons_eq_ok.2 ⟨r, d₁, os, ha, hb, rfl⟩, he⟩
      · cases h

end ArtifactSet

end Scaffold
