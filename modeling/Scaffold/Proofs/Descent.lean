import Scaffold.Proofs.Directories

/-!
# Paths that stay below their start

A path `Stays` below its start when no beginning of it has more `..` than ordinary parts. `descend`
reads the parts with the depth below the start, and so decides this part by part (`stays_iff`).
Where such a path leads and what it passes is the same below every location (`Stays.land_eq`,
`Stays.passed_eq`), so a run that writes such paths leaves every file outside its root alone
(`ArtifactSet.find?_write_of_outside`).
-/

set_option autoImplicit false

namespace Scaffold

namespace Path

/-! ## Depth -/

/-- How many `..` are among the parts. -/
def ups (ps : List String) : Nat := ps.count ".."

/-- How many ordinary parts are among them. -/
def downs (ps : List String) : Nat := ps.countP (IsName ·)

/-- No beginning of the path has more `..` than ordinary parts. -/
def Stays (path : String) : Prop := ∀ lead, lead <+: parts path → ups lead ≤ downs lead

/-- The depth after the parts, from `depth` on; nothing if they climb above the start. -/
def descend (depth : Nat) : List String → Option Nat
  | [] => some depth
  | part :: rest =>
    if isIdle part then descend depth rest
    else if part ≠ ".." then descend (depth + 1) rest
    else if depth = 0 then none
    else descend (depth - 1) rest

/-- A part is idle, `..` or a name. -/
theorem part_cases (part : String) : isIdle part = true ∨ part = ".." ∨ IsName part := by
  by_cases hu : part = ".."
  · exact .inr (.inl hu)
  · cases hi : isIdle part with
    | true => exact .inl rfl
    | false => exact .inr (.inr ⟨hi, hu⟩)

section Descend

variable {part : String} {ps : List String} {depth depth' : Nat}

theorem descend_idle (h : isIdle part = true) : descend depth (part :: ps) = descend depth ps := by
  rw [descend, if_pos h]

theorem descend_name (h : IsName part) : descend depth (part :: ps) = descend (depth + 1) ps := by
  rw [descend, if_neg (by simp [h.1]), if_pos h.2]

theorem descend_up_zero : descend 0 (".." :: ps) = none := rfl

theorem descend_up_succ : descend (depth + 1) (".." :: ps) = descend depth ps := rfl

theorem descend_append (qs : List String) : ∀ (ps : List String) (depth : Nat),
    descend depth (ps ++ qs) = (descend depth ps).bind (descend · qs)
  | [], _ => rfl
  | part :: ps, depth => by
    rw [List.cons_append]
    rcases part_cases part with h | rfl | h
    · rw [descend_idle h, descend_idle h, descend_append qs ps]
    · cases depth with
      | zero => rfl
      | succ depth => rw [descend_up_succ, descend_up_succ, descend_append qs ps]
    · rw [descend_name h, descend_name h, descend_append qs ps]

/-- Starting deeper, parts end as much deeper. -/
theorem descend_add (more : Nat) : ∀ {ps : List String} {depth depth' : Nat},
    descend depth ps = some depth' → descend (depth + more) ps = some (depth' + more)
  | [], depth, depth', h => by
    rw [Option.some.inj h]
    rfl
  | part :: ps, depth, depth', h => by
    rcases part_cases part with hi | rfl | hn
    · rw [descend_idle hi] at h ⊢
      exact descend_add more h
    · cases depth with
      | zero => cases h
      | succ depth =>
        rw [Nat.add_right_comm, descend_up_succ]
        exact descend_add more h
    · rw [descend_name hn] at h ⊢
      rw [Nat.add_right_comm]
      exact descend_add more h

theorem isSome_descend_mono (hle : depth ≤ depth') (h : (descend depth ps).isSome) :
    (descend depth' ps).isSome := by
  obtain ⟨k, hk⟩ := Option.isSome_iff_exists.1 h
  obtain ⟨more, rfl⟩ := Nat.exists_eq_add_of_le hle
  rw [descend_add more hk]
  rfl

theorem isSome_descend_lead {lead : List String} (hl : lead <+: ps)
    (h : (descend depth ps).isSome) : (descend depth lead).isSome := by
  obtain ⟨rest, rfl⟩ := hl
  rw [descend_append] at h
  cases hk : descend depth lead with
  | none => simp [hk] at h
  | some k => rfl

end Descend

/-! ## Beginnings of a path -/

theorem downs_cons (part : String) (ps : List String) :
    downs (part :: ps) = downs ps + if IsName part then 1 else 0 := by
  simp [downs, List.countP_cons]

theorem ups_cons (part : String) (ps : List String) :
    ups (part :: ps) = ups ps + if part = ".." then 1 else 0 := by
  simp [ups, List.count_cons]

/-- The depth counts the parts: what is read does not climb above the start. -/
theorem isSome_descend_iff : ∀ {ps : List String} {depth : Nat}, (descend depth ps).isSome ↔
    ∀ lead, lead <+: ps → ups lead ≤ depth + downs lead
  | [], depth => by simp [descend, ups]
  | part :: ps, depth => by
    have hcons : (∀ lead, lead <+: part :: ps → ups lead ≤ depth + downs lead) ↔
        ∀ lead, lead <+: ps → ups (part :: lead) ≤ depth + downs (part :: lead) := by
      constructor
      · exact fun h lead hl => h _ (List.cons_prefix_cons.2 ⟨rfl, hl⟩)
      · intro h lead hl
        rcases List.prefix_cons_iff.1 hl with rfl | ⟨lead, rfl, hlead⟩
        · simp [ups]
        · exact h lead hlead
    rw [hcons]
    simp only [ups_cons, downs_cons]
    rcases part_cases part with hi | rfl | hn
    · have hup : part ≠ ".." := fun he => by simp [he, isIdle] at hi
      have hname : ¬ IsName part := fun hn => by simp [hn.1] at hi
      simp only [descend_idle hi, isSome_descend_iff, if_neg hup, if_neg hname, Nat.add_zero]
    · have hname : ¬ IsName ".." := fun hn => hn.2 rfl
      simp only [if_neg hname, if_true, Nat.add_zero]
      cases depth with
      | zero =>
        simp only [descend_up_zero, Option.isSome_none, Bool.false_eq_true, false_iff]
        exact fun h => absurd (h [] List.nil_prefix) (by simp [downs])
      | succ depth =>
        simp only [descend_up_succ, isSome_descend_iff, Nat.add_right_comm depth 1,
          Nat.add_le_add_iff_right]
    · simp only [descend_name hn, isSome_descend_iff, if_neg hn.2, if_pos hn, Nat.add_zero,
        Nat.add_assoc, Nat.add_comm 1]

/-- Reading the parts decides whether the path stays. -/
theorem stays_iff {path : String} : Stays path ↔ (descend 0 (parts path)).isSome := by
  simp only [isSome_descend_iff, Nat.zero_add, Stays]

instance (path : String) : Decidable (Stays path) := decidable_of_iff _ stays_iff.symm

/-! ## Where the parts lead -/

section Land

variable (loc : Location)

/-- Parts that do not climb out of `below` lead below any location as they lead below the root. -/
theorem land_append_left : ∀ {ps : List String} {below : Location},
    (descend below.length ps).isSome → land (loc ++ below) ps = loc ++ land below ps
  | [], _, _ => rfl
  | part :: ps, below, h => by
    rcases part_cases part with hi | rfl | hn
    · rw [descend_idle hi] at h
      rw [← List.singleton_append, land_append, land_append, land_idle hi, land_idle hi]
      exact land_append_left h
    · cases below with
      | nil => cases h
      | cons first below =>
        rw [land_up, land_up, List.dropLast_append_of_ne_nil (List.cons_ne_nil first below)]
        refine land_append_left ?_
        rw [List.length_dropLast]
        exact h
    · rw [descend_name hn] at h
      rw [← List.singleton_append, land_append, land_append, land_name hn, land_name hn,
        List.append_assoc]
      refine land_append_left ?_
      rw [List.length_append]
      exact h

/-- So do the locations that they pass. -/
theorem passed_append_left : ∀ {ps : List String} {below : Location},
    (descend below.length ps).isSome → passed (loc ++ below) ps = (passed below ps).map (loc ++ ·)
  | [], _, _ => rfl
  | part :: ps, below, h => by
    rw [← List.singleton_append, passed_append, passed_append, List.map_append]
    rcases part_cases part with hi | rfl | hn
    · rw [descend_idle hi] at h
      rw [passed_idle hi, passed_idle hi, land_idle hi, land_idle hi]
      exact passed_append_left h
    · cases below with
      | nil => cases h
      | cons first below =>
        change passed (loc ++ first :: below).dropLast ps = _
        rw [List.dropLast_append_of_ne_nil (List.cons_ne_nil first below)]
        refine passed_append_left ?_
        rw [List.length_dropLast]
        exact h
    · rw [descend_name hn] at h
      have ih : passed (loc ++ (below ++ [part])) ps = (passed (below ++ [part]) ps).map (loc ++ ·) :=
        passed_append_left (by rw [List.length_append]; exact h)
      rw [passed_name hn, passed_name hn, land_name hn, land_name hn, List.append_assoc, ih]
      rfl

variable {path : String} (h : Stays path)
include h

/-- A path that stays leads below its start. -/
theorem Stays.land_eq : land loc (parts path) = loc ++ land [] (parts path) := by
  have hl : land (loc ++ []) (parts path) = _ := land_append_left loc (stays_iff.1 h)
  rwa [List.append_nil] at hl

theorem Stays.passed_eq :
    passed loc (parts path).dropLast = (passed [] (parts path).dropLast).map (loc ++ ·) := by
  have hp : passed (loc ++ []) (parts path).dropLast = _ :=
    passed_append_left loc (isSome_descend_lead (List.dropLast_prefix _) (stays_iff.1 h))
  rwa [List.append_nil] at hp

end Land

end Path

/-! ## Writing below a root -/

open Disk Scaffold.Path

section Outside

variable {root : String} {mode : Overwrite} {d : Disk} {loc : Location}

/-- Writing an artifact whose path stays leaves the files outside the root as they are. -/
theorem Artifact.find?_write_of_outside {a : Artifact} (hr : isAbsolute a.path = false)
    (hs : Stays a.path) (hloc : ¬ d.place root <+: loc) (content : String) :
    (a.write root mode d).2.find? loc = some (.file content) ↔
      d.find? loc = some (.file content) := by
  have hgrown : ∀ {d₁ : Disk}, Grows (fun _ => True) d d₁ →
      (d₁.find? loc = some (.file content) ↔ d.find? loc = some (.file content)) :=
    fun hg => ⟨hg.file, hg.find?⟩
  have hne : loc ≠ d.place (join root a.path) := by
    rintro rfl
    rw [place_join_eq_land d root hr, hs.land_eq] at hloc
    exact hloc (List.prefix_append _ _)
  obtain ⟨d₁, hg, hw⟩ := writeFile_cases (join root a.path) a.content d
  rcases a.write_cases root mode d with ⟨-, -, h⟩ | ⟨-, ⟨d', hf, h⟩ | ⟨e, d', hf, h⟩⟩
  · rw [h]
  · rw [h]
    rcases hw with ⟨d₂, hput, hw⟩ | ⟨e, hw⟩
    · obtain rfl : d₂ = d' := by simpa [hf] using hw.symm
      obtain ⟨-, -, -, -, rfl⟩ := write_eq_ok.1 hput
      rw [hg.extends.place, find?_put_of_ne _ _ hne]
      exact hgrown hg
    · simp [hf] at hw
  · rw [h]
    rcases hw with ⟨d₂, -, hw⟩ | ⟨e', hw⟩
    · simp [hf] at hw
    · obtain ⟨-, rfl⟩ : e = e' ∧ d' = d₁ := by simpa [hf] using hw
      exact hgrown hg

/-- **A run below its root.** If the paths of a set stay below their start, then writing it changes
no file outside the root and makes none there, also when it fails. -/
theorem ArtifactSet.find?_write_of_outside : ∀ {set : ArtifactSet} {d : Disk},
    (∀ a ∈ set, isAbsolute a.path = false ∧ Stays a.path) → ¬ d.place root <+: loc →
      ∀ content, (set.write root mode d).2.find? loc = some (.file content) ↔
        d.find? loc = some (.file content)
  | [], _, _, _, _ => Iff.rfl
  | a :: rest, d, h, hloc, content => by
    obtain ⟨⟨hr, hs⟩, hrest⟩ := List.forall_mem_cons.1 h
    have hstep : (a.write root mode d).2.find? loc = some (.file content) ↔ _ :=
      Artifact.find?_write_of_outside hr hs hloc content
    rcases ha : a.write root mode d with ⟨e | r, d₁⟩
    · rw [write_cons_error ha]
      rwa [ha] at hstep
    · rw [ha] at hstep
      rw [snd_write_cons ha, ← hstep]
      exact find?_write_of_outside hrest (by rwa [(Artifact.extends_write ha).place]) content

end Outside

end Scaffold
