import Scaffold.Proofs.Growth

/-!
# Making the directories of a path

Whether the directories of a path can be made is decided by its `stops`, the locations that it
passes, its place among them: when none of them is a file all are made, from the first missing one
on (`Admits.makeDirs_chainOf`), and when the first that is no directory is a file nothing is made
(`writeFile_blocked`). From this, what `writeFile` does (`writeFile_ok`, `writeFile_of_open`,
`writeFile_of_dir`).
-/

set_option autoImplicit false

namespace Scaffold

/-! ## The chain of a path -/

namespace Path

/-- The directory that a path stands in, as a path. -/
def parent (path : String) : String := (chain path).getD 1 ""

theorem chainOf_isName {part : String} (h : IsName part) (rest : List String) :
    chainOf (part :: rest) = ofParts (part :: rest).reverse :: chainOf rest := by
  have hd : part ≠ "." := fun he => by simp [IsName, he, isIdle] at h
  rw [chainOf]
  · simp [h.1]
  · exact fun he => absurd he h.ne_empty
  · exact fun he => absurd he hd

theorem parts_eq_reverse (path : String) :
    parts path = (parts path).dropLast.reverse.reverse ++ [last path] := by
  rw [List.reverse_reverse]
  exact parts_eq path

theorem chain_of_isName {path : String} (h : IsName (last path)) :
    chain path = path :: chainOf (parts path).dropLast.reverse := by
  have hr : (parts path).reverse = last path :: (parts path).dropLast.reverse := by
    have := congrArg List.reverse (parts_eq path)
    rwa [List.reverse_append] at this
  rw [chain, hr, chainOf_isName h, ← hr, List.reverse_reverse, ofParts_parts]

end Path

namespace Disk

open Scaffold.Path

/-! ## Walking over locations -/

/-- Walks over locations up to the first that is no directory. -/
def walk (d : Disk) : List Location → Except DiskError Unit
  | [] => .ok ()
  | s :: rest =>
    match d.find? s with
    | some .dir => d.walk rest
    | some (.file _) => .error .notADirectory
    | none => .error .notFound

theorem walk_append (d : Disk) (b : List Location) : ∀ a : List Location,
    d.walk (a ++ b) = (d.walk a).bind fun _ => d.walk b
  | [] => rfl
  | s :: a => by
    rw [List.cons_append, walk, walk]
    split
    · exact walk_append d b a
    · rfl
    · rfl

theorem walk_eq_ok {d : Disk} : ∀ {w : List Location},
    d.walk w = .ok () ↔ ∀ s ∈ w, d.find? s = some .dir
  | [] => by simp [walk]
  | s :: w => by
    rw [walk, List.forall_mem_cons]
    split <;> simp_all [walk_eq_ok]

/-- A walk past no file ends well or at a location where nothing is. -/
theorem walk_of_no_file {d : Disk} : ∀ {w : List Location},
    (∀ s ∈ w, ∀ c, d.find? s ≠ some (.file c)) → d.walk w = .ok () ∨ d.walk w = .error .notFound
  | [], _ => .inl rfl
  | s :: w, h => by
    rw [List.forall_mem_cons] at h
    rw [walk]
    split
    · exact walk_of_no_file h.2
    · rename_i c hc
      exact absurd hc (h.1 c)
    · exact .inr rfl

/-- Following parts within the limits is a walk over the locations that they pass. -/
theorem enter_eq_walk {d : Disk} : ∀ {ps : List String} {loc : Location},
    (∀ part ∈ ps, d.admitsName part = true) →
      d.enter loc ps = (d.walk (passed loc ps)).map fun _ => land loc ps
  | [], _, _ => rfl
  | part :: ps, loc, h => by
    rw [List.forall_mem_cons] at h
    simp only [enter, passed, land, h.1, Bool.not_true, Bool.false_eq_true, if_false]
    split
    · exact enter_eq_walk h.2
    split
    · exact enter_eq_walk h.2
    cases hf : d.find? (loc ++ [part]) with
    | none => simp [walk, hf, Except.map]
    | some node =>
      cases node with
      | dir => simpa [walk, hf] using enter_eq_walk h.2
      | file c => simp [walk, hf, Except.map]

/-! ## Stops -/

/-- The locations that a path passes, its place among them when its last part is a name. -/
def stops (d : Disk) (path : String) : List Location := passed (d.start path) (parts path)

theorem stops_eq (d : Disk) (path : String) :
    d.stops path = d.way path ++ if IsName (last path) then [d.place path] else [] := by
  rw [stops, parts_eq path, passed_append]
  congr 1
  split
  · rename_i h
    rw [passed_name h, place_of_isName h]
  · rename_i h
    by_cases hi : isIdle (last path) = true
    · exact passed_idle hi _
    · rw [show last path = ".." by simpa [IsName, hi] using h]
      rfl

theorem isDir_iff_stops {d : Disk} {path : String} :
    d.isDir path = true ↔ d.Admits path ∧ ∀ s ∈ d.stops path, d.find? s = some .dir := by
  rw [isDir_iff, stops_eq, List.forall_mem_append]
  refine and_congr_right fun _ => and_congr_right fun _ => ?_
  split
  · rename_i h
    simp [h]
  · rename_i h
    simp [h]

/-- What making a directory says when the walk over its stops ends early. -/
theorem mkdir_of_walk {d : Disk} {path : String} {e : DiskError} (had : d.Admits path)
    (hw : d.walk (d.way path) = .error e) : d.mkdir path = .error e := by
  have he : d.enter (d.start path) (parts path).dropLast = .error e := by
    rw [enter_eq_walk (admits_names.1 had.names).1, show passed _ _ = d.way path from rfl, hw]
    rfl
  rw [mkdir, enterParent_eq, if_neg (by simpa using had.noNul),
    if_neg (by simpa using had.nonempty), if_neg (by simp [had.length]), he]
  rfl

theorem makeDirs_of_isDir {d : Disk} {path : String} (h : d.isDir path = true)
    (ancestors : List String) : makeDirs (path :: ancestors) d = (.ok (), d) := by
  have hne := (isDir_iff.1 h).1.nonempty
  rw [makeDirs, if_neg (by simpa using hne), mkdir_of_exists? (exists?_of_isDir h)]
  simp [h]

theorem way_subset_stops (d : Disk) (path : String) : ∀ s ∈ d.way path, s ∈ d.stops path := by
  intro s hs
  rw [stops_eq]
  exact List.mem_append_left _ hs

/-- The last step: a directory in a directory, where no file is. -/
theorem mkdir_or_isDir {d : Disk} {path : String} (had : d.Admits path) (ho : d.Open path)
    (hf : ∀ s ∈ d.stops path, ∀ c, d.find? s ≠ some (.file c)) :
    ∃ d', (d.mkdir path = .ok d' ∨ d.isDir path = true ∧ d' = d) ∧
      Grows (· ∈ d.stops path) d d' ∧ ∀ s ∈ d.stops path, d'.find? s = some .dir := by
  by_cases hd : d.isDir path = true
  · exact ⟨d, .inr ⟨hd, rfl⟩, .refl _ d, (isDir_iff_stops.1 hd).2⟩
  · obtain ⟨hn, hp⟩ : IsName (last path) ∧ d.find? (d.place path) ≠ some .dir := by
      simpa [isDir_iff, had, ho] using hd
    have hs : d.stops path = d.way path ++ [d.place path] := by rw [stops_eq, if_pos hn]
    have hnone : d.find? (d.place path) = none := by
      cases hfp : d.find? (d.place path) with
      | none => rfl
      | some node =>
        cases node with
        | dir => exact absurd hfp hp
        | file c => exact absurd hfp (hf _ (by simp [hs]) c)
    have hm : d.mkdir path = .ok (d.put (d.place path) .dir) :=
      mkdir_eq_ok.2 ⟨had, ho, hn, hnone, rfl⟩
    refine ⟨_, .inl hm, (grows_mkdir hm).mono fun s he => by simp [hs, he], fun s hmem => ?_⟩
    rw [hs] at hmem
    rcases List.mem_append.1 hmem with hmem | hmem
    · exact (extends_mkdir hm).dirs s (ho s hmem)
    · rw [List.mem_singleton.1 hmem, find?_put_self d (place_ne_nil hn)]

/-! ## Beginnings of a path -/

theorem admitsPath_of_le {d : Disk} {p q : String} (h : q.utf8ByteSize ≤ p.utf8ByteSize)
    (hp : d.admitsPath p = true) : d.admitsPath q = true := by
  unfold admitsPath at *
  cases hl : d.limits with
  | none => rfl
  | some l =>
    rw [hl] at hp
    simpa using Nat.le_trans h (by simpa using hp)

section
variable {d : Disk} {path : String} (had : d.Admits path)
include had

/-- The root directory is admitted with every path that starts in it. -/
theorem Admits.root {more : List String} (h : parts path = "" :: more) (hm : more ≠ []) :
    d.Admits "/" := by
  have hpath : path = "/" ++ ofParts more := by
    rw [← ofParts_parts path, h, ← List.singleton_append, ofParts_append (by simp) hm]
    simp [ofParts]
  refine ⟨by decide, by decide, admitsPath_of_le ?_ had.length, fun p hp => ?_⟩
  · rw [hpath, String.utf8ByteSize_append]
    exact Nat.le_add_right _ _
  · rcases (by simpa [show parts "/" = ["", ""] from rfl] using hp : p = "") with rfl
    exact admitsName_of_size_le (by decide)

/-- The first parts of an admitted path are an admitted path from the same start. -/
theorem Admits.beginning {ps more : List String} (h : parts path = ps ++ more) (hm : more ≠ [])
    (hp : ps ≠ []) (he : ps ≠ [""]) :
    d.Admits (ofParts ps) ∧ parts (ofParts ps) = ps ∧ d.start (ofParts ps) = d.start path := by
  have hpath : path = ofParts ps ++ "/" ++ ofParts more := by
    rw [← ofParts_append hp hm, ← h, ofParts_parts]
  have hslash : ∀ p ∈ ps, '/' ∉ p.toList := fun p hmem =>
    slash_not_mem (show p ∈ parts path by rw [h]; exact List.mem_append_left _ hmem)
  have hparts : parts (ofParts ps) = ps := parts_ofParts hp hslash
  have hne : ofParts ps ≠ "" := fun hs => he (by rw [← hparts, hs, parts_empty])
  refine ⟨⟨hne, fun hz => had.noNul ?_, admitsPath_of_le ?_ had.length, fun p hmem => ?_⟩,
    hparts, ?_⟩
  · rw [hpath]
    simp [hz]
  · rw [hpath, String.utf8ByteSize_append, String.utf8ByteSize_append]
    omega
  · rw [hparts] at hmem
    exact had.names p (by rw [h]; exact List.mem_append_left _ hmem)
  · obtain ⟨p, ps, rfl⟩ := List.exists_cons_of_ne_nil hp
    have hs : '/' ∉ p.toList := hslash p List.mem_cons_self
    have habs : isAbsolute (ofParts (p :: ps)) = isAbsolute path := by
      rw [← ofParts_parts path, h, List.cons_append, isAbsolute_ofParts hs, isAbsolute_ofParts hs]
      by_cases hp0 : p = ""
      · subst hp0
        simp_all
      · simp [hp0]
    rw [start, start, habs]

/-- The parts of an admitted path up to one that is not idle, read backwards. -/
theorem Admits.beginning_of_not_idle {part : String} {rest more : List String}
    (h : parts path = (part :: rest).reverse ++ more) (hm : more ≠ []) (hi : ¬ isIdle part = true) :
    d.Admits (ofParts (part :: rest).reverse) ∧
      d.stops (ofParts (part :: rest).reverse) = passed (d.start path) (part :: rest).reverse ∧
      d.way (ofParts (part :: rest).reverse) = passed (d.start path) rest.reverse := by
  have hne : (part :: rest).reverse ≠ [""] := fun he => by
    obtain ⟨rfl, -⟩ := List.cons.inj (List.reverse_eq_iff.1 he)
    exact hi rfl
  obtain ⟨ha, hp, hs⟩ := had.beginning h hm (by simp) hne
  exact ⟨ha, by rw [stops, hp, hs], by rw [way, hp, hs, List.reverse_cons, List.dropLast_concat]⟩

/-- The directory that is made first for a path is the first of its chain: the working directory,
or one that passes the same locations. -/
theorem Admits.chainOf_head {rs more : List String} (h : parts path = rs.reverse ++ more)
    (hm : more ≠ []) : ∃ parent ancestors, chainOf rs = parent :: ancestors ∧
      (parent = "" ∧ passed (d.start path) rs.reverse = [] ∨
        d.Admits parent ∧ d.stops parent = passed (d.start path) rs.reverse) := by
  fun_induction chainOf rs generalizing more with
  | case1 => exact ⟨"", [], rfl, .inl ⟨rfl, rfl⟩⟩
  | case2 => exact ⟨"/", [], rfl, .inr ⟨had.root h hm, rfl⟩⟩
  | case3 =>
    obtain ⟨ha, hp, hs⟩ := had.beginning h hm (by simp) (by simp)
    exact ⟨".", [""], rfl, .inr ⟨ha, rfl⟩⟩
  | case4 part rest _ _ hi ih =>
    have h' : parts path = rest.reverse ++ part :: more := by simpa using h
    obtain ⟨parent, ancestors, hc, hp⟩ := ih h' (by simp)
    refine ⟨parent, ancestors, hc, ?_⟩
    rwa [List.reverse_cons, passed_append, passed_idle hi, List.append_nil]
  | case5 part rest _ _ hi =>
    obtain ⟨ha, hs, -⟩ := had.beginning_of_not_idle h hm hi
    exact ⟨_, _, rfl, .inr ⟨ha, hs⟩⟩

/-- **Directories that can be made.** When no stop is a file, all stops are made directories, and
nothing else is. -/
theorem Admits.makeDirs_chainOf {rs more : List String} (h : parts path = rs.reverse ++ more)
    (hm : more ≠ [])
    (hf : ∀ s ∈ passed (d.start path) rs.reverse, ∀ c, d.find? s ≠ some (.file c)) :
    ∃ d', makeDirs (chainOf rs) d = (.ok (), d') ∧
      Grows (· ∈ passed (d.start path) rs.reverse) d d' ∧
      ∀ s ∈ passed (d.start path) rs.reverse, d'.find? s = some .dir := by
  fun_induction chainOf rs generalizing more with
  | case1 => exact ⟨d, rfl, .refl _ d, by simp [passed]⟩
  | case2 =>
    have hd : d.isDir "/" = true := isDir_iff_stops.2 ⟨had.root h hm, List.forall_mem_nil _⟩
    exact ⟨d, makeDirs_of_isDir hd [], .refl _ d, List.forall_mem_nil _⟩
  | case3 =>
    obtain ⟨ha, hp, hs⟩ := had.beginning h hm (by simp) (by simp)
    have hd : d.isDir "." = true := isDir_iff_stops.2 ⟨ha, List.forall_mem_nil _⟩
    exact ⟨d, makeDirs_of_isDir hd [""], .refl _ d, List.forall_mem_nil _⟩
  | case4 part rest _ _ hi ih =>
    rw [List.reverse_cons, passed_append, passed_idle hi, List.append_nil] at hf ⊢
    have h' : parts path = rest.reverse ++ part :: more := by simpa using h
    exact ih h' (by simp) hf
  | case5 part rest _ _ hi ih =>
    obtain ⟨ha, hs, hw⟩ := had.beginning_of_not_idle h hm hi
    rw [← hs] at hf ⊢
    generalize ofParts (part :: rest).reverse = p at *
    by_cases ho : d.Open p
    · obtain ⟨d', hmk | ⟨hd, rfl⟩, hg, hdirs⟩ := mkdir_or_isDir ha ho hf
      · exact ⟨d', by rw [makeDirs, if_neg (by simpa using ha.nonempty), hmk], hg, hdirs⟩
      · exact ⟨d', makeDirs_of_isDir hd _, hg, hdirs⟩
    · -- a directory on the way is missing: first its ancestors are made
      have hnf : d.mkdir p = .error .notFound := by
        refine mkdir_of_walk ha ?_
        rcases walk_of_no_file fun s hmem => hf s (way_subset_stops d p s hmem) with hok | he
        · exact absurd (walk_eq_ok.1 hok) ho
        · exact he
      have h' : parts path = rest.reverse ++ part :: more := by simpa using h
      obtain ⟨d₁, hr, hg₁, hd₁⟩ := ih h' (by simp)
        fun s hmem => hf s (way_subset_stops d p s (hw ▸ hmem))
      have hs₁ : d₁.stops p = d.stops p := by rw [stops, stops, hg₁.extends.start]
      obtain ⟨d', hmk, hg, hdirs⟩ := mkdir_or_isDir (hg₁.extends.admits.2 ha)
        (fun s hmem => hd₁ s (by rwa [hg₁.extends.way, hw] at hmem))
        (fun s hmem c hc => hf s (hs₁ ▸ hmem) c (hg₁.file hc))
      rw [hs₁] at hg hdirs
      refine ⟨d', ?_, (hg₁.mono fun s hmem => way_subset_stops d p s (hw ▸ hmem)).trans hg, hdirs⟩
      rw [makeDirs, if_neg (by simpa using ha.nonempty), hnf]
      rcases hmk with hmk | ⟨hd, rfl⟩
      · simp [hr, hmk]
      · simp [hr, mkdir_of_exists? (exists?_of_isDir hd), hd]

end

/-! ## Writing a file -/

theorem writeHere_eq_ok {path content : String} {d d' : Disk} :
    writeHere path content d = (.ok (), d') ↔ d.write path content = .ok d' := by
  unfold writeHere
  cases d.write path content <;> simp

section
variable {path first parent content : String} {ancestors : List String} {d d₁ : Disk}
  (hc : chain path = first :: parent :: ancestors)
include hc

theorem writeFile_of_made (h : makeDirs (parent :: ancestors) d = (.ok (), d₁)) :
    writeFile path content d = writeHere path content d₁ := by
  simp only [writeFile, hc, h]

theorem writeFile_of_not_made {e : DiskError}
    (h : makeDirs (parent :: ancestors) d = (.error e, d₁)) :
    writeFile path content d = (.error (.createDirectory parent), d₁) := by
  simp only [writeFile, hc, h]

end

/-- Writing a file makes directories and then writes or fails. -/
theorem writeFile_cases (path content : String) (d : Disk) :
    ∃ d₁, Grows (fun _ => True) d d₁ ∧
      ((∃ d', d₁.write path content = .ok d' ∧ writeFile path content d = (.ok (), d')) ∨
        ∃ e, writeFile path content d = (.error e, d₁)) := by
  have here : ∀ d₁ : Disk,
      (∃ d', d₁.write path content = .ok d' ∧ writeHere path content d₁ = (.ok (), d')) ∨
        ∃ e, writeHere path content d₁ = (.error e, d₁) := by
    intro d₁
    unfold writeHere
    cases d₁.write path content with
    | ok d' => exact .inl ⟨d', rfl, rfl⟩
    | error e => exact .inr ⟨.writeFile path, rfl⟩
  unfold writeFile
  split
  · rename_i parent ancestors _
    have hg := grows_makeDirs (parent :: ancestors) d
    split
    · rename_i d₁ hd
      rw [hd] at hg
      exact ⟨d₁, hg, here d₁⟩
    · rename_i d₁ hd
      rw [hd] at hg
      exact ⟨d₁, hg, .inr ⟨.createDirectory parent, rfl⟩⟩
  · exact ⟨d, .refl _ d, here d⟩

theorem writeFile_eq_ok {path content : String} {d d' : Disk}
    (h : d.writeFile path content = (.ok (), d')) :
    ∃ d₁, Grows (fun _ => True) d d₁ ∧ d₁.write path content = .ok d' := by
  obtain ⟨d₁, hg, ⟨d₂, hw, hr⟩ | ⟨e, hr⟩⟩ := writeFile_cases path content d <;> rw [h] at hr <;>
    cases hr
  exact ⟨d₁, hg, hw⟩

theorem read_of_writeFile {path content : String} {d d' : Disk}
    (h : d.writeFile path content = (.ok (), d')) : d'.read path = .ok content := by
  obtain ⟨d₁, -, hw⟩ := writeFile_eq_ok h
  exact read_of_write hw

section
variable {d : Disk} {path : String} (had : d.Admits path) (hn : IsName (last path))
include had hn

/-- The directory that a path stands in is made first for it. -/
theorem exists_parent : ∃ parent ancestors, chain path = path :: parent :: ancestors ∧
    (parent = "" ∧ d.way path = [] ∨ d.Admits parent ∧ d.stops parent = d.way path) := by
  obtain ⟨parent, ancestors, hc, hp⟩ := had.chainOf_head (parts_eq_reverse path) (by simp)
  refine ⟨parent, ancestors, by rw [chain_of_isName hn, hc], ?_⟩
  rwa [List.reverse_reverse] at hp

theorem makeDirs_way (hw : ∀ s ∈ d.way path, ∀ c, d.find? s ≠ some (.file c)) :
    ∃ parent ancestors d₁, chain path = path :: parent :: ancestors ∧
      makeDirs (parent :: ancestors) d = (.ok (), d₁) ∧ Grows (· ∈ d.way path) d d₁ ∧
      ∀ s ∈ d.way path, d₁.find? s = some .dir := by
  obtain ⟨parent, ancestors, hc, -⟩ := exists_parent had hn
  have hrw : passed (d.start path) (parts path).dropLast.reverse.reverse = d.way path := by
    rw [List.reverse_reverse, way]
  obtain ⟨d₁, hr, hg, hd⟩ :=
    had.makeDirs_chainOf (parts_eq_reverse path) (by simp) (by rwa [hrw])
  rw [hrw] at hg hd
  obtain ⟨-, hca⟩ := List.cons.inj ((chain_of_isName hn).symm.trans hc)
  exact ⟨parent, ancestors, d₁, hc, hca ▸ hr, hg, hd⟩

/-- **A file that can be written.** No file is in the way, and the place is no directory and does
not become one. -/
theorem writeFile_ok (hw : ∀ s ∈ d.way path, ∀ c, d.find? s ≠ some (.file c))
    (hp : d.find? (d.place path) ≠ some .dir) (hpw : d.place path ∉ d.way path)
    (content : String) : ∃ d₁ d', Grows (· ∈ d.way path) d d₁ ∧ d₁.write path content = .ok d' ∧
      writeFile path content d = (.ok (), d') := by
  obtain ⟨parent, ancestors, d₁, hc, hr, hg, hd⟩ := makeDirs_way had hn hw
  have ho : d₁.Open path := fun s hs => hd s (hg.extends.way path ▸ hs)
  have hfp : d₁.find? (d₁.place path) ≠ some .dir := by
    rw [hg.extends.place]
    rcases hg.nodes (d.place path) with heq | ⟨-, -, hmem⟩
    · rwa [heq]
    · exact absurd hmem hpw
  have hwr : d₁.write path content = .ok (d₁.put (d₁.place path) (.file content)) :=
    write_eq_ok.2 ⟨hg.extends.admits.2 had, ho, hn, hfp, rfl⟩
  exact ⟨d₁, _, hg, hwr, by rw [writeFile_of_made hc hr]; exact writeHere_eq_ok.2 hwr⟩

/-- A file on the way stops everything, when no directory was missing before it. -/
theorem writeFile_blocked (hw : d.walk (d.way path) = .error .notADirectory) (content : String) :
    writeFile path content d = (.error (.createDirectory (parent path)), d) := by
  obtain ⟨parent, ancestors, hc, ⟨-, hnil⟩ | ⟨ha, hs⟩⟩ := exists_parent had hn
  · rw [hnil] at hw
    cases hw
  have hd : d.isDir parent = false := by
    rw [Bool.eq_false_iff]
    intro h
    rw [← hs, walk_eq_ok.2 (isDir_iff_stops.1 h).2] at hw
    cases hw
  obtain ⟨e, hm, hne⟩ : ∃ e, d.mkdir parent = .error e ∧ e ≠ .notFound := by
    rw [← hs, stops_eq, walk_append] at hw
    cases hwp : d.walk (d.way parent) with
    | error e =>
      rw [hwp] at hw
      obtain rfl : e = .notADirectory := Except.error.inj hw
      exact ⟨_, mkdir_of_walk ha hwp, nofun⟩
    | ok _ =>
      rw [hwp] at hw
      have hex : d.exists? parent = true := by
        refine exists?_iff.2 ⟨ha, walk_eq_ok.1 hwp, fun hnp hnone => ?_⟩
        simp [Except.bind, hnp, walk, hnone] at hw
      exact ⟨_, mkdir_of_exists? hex, nofun⟩
  have hr : makeDirs (parent :: ancestors) d = (.error e, d) := by
    rw [makeDirs, if_neg (by simpa using ha.nonempty), hm]
    cases e with
    | notFound => exact absurd rfl hne
    | _ => simp [hd]
  rw [writeFile_of_not_made hc hr, Path.parent, hc]
  rfl

theorem writeFile_eq_writeHere (ho : d.Open path) (content : String) :
    writeFile path content d = writeHere path content d := by
  obtain ⟨parent, ancestors, hc, ⟨rfl, -⟩ | ⟨ha, hs⟩⟩ := exists_parent had hn
  · exact writeFile_of_made hc rfl
  · exact writeFile_of_made hc (makeDirs_of_isDir (isDir_iff_stops.2 ⟨ha, by rwa [hs]⟩) ancestors)

theorem writeFile_of_open (ho : d.Open path) (hp : d.find? (d.place path) ≠ some .dir)
    (content : String) :
    writeFile path content d = (.ok (), d.put (d.place path) (.file content)) := by
  rw [writeFile_eq_writeHere had hn ho]
  exact writeHere_eq_ok.2 (write_eq_ok.2 ⟨had, ho, hn, hp, rfl⟩)

theorem writeFile_of_dir (ho : d.Open path) (hp : d.find? (d.place path) = some .dir)
    (content : String) : writeFile path content d = (.error (.writeFile path), d) := by
  rw [writeFile_eq_writeHere had hn ho, writeHere]
  split
  · rename_i d' hw
    exact absurd hp (write_eq_ok.1 hw).2.2.2.1
  · rfl

end

end Disk

end Scaffold
