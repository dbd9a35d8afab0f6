import Scaffold.Proofs.Descent
import Scaffold.Proofs.Identifiers
import Scaffold.Proofs.Layouts

/-!
# Generations and their output root

The names of an entity stand in the paths of its files as they are, so a name with slashes and `..`
can lead out of the output root. Which names do is a matter of their parts (`Entity.StaysBelow`): a
generation stays below its root exactly when they climb no further than the directories that the
stack puts before them (`Generator.stay_iff`), and then no file outside is changed.
-/

set_option autoImplicit false

namespace Scaffold

open Scaffold.Path

namespace Path

section

variable {depth : Nat} {ps names : List String}

theorem descend_names : ∀ {names : List String} {depth : Nat}, (∀ n ∈ names, IsName n) →
    descend depth (names ++ ps) = descend (depth + names.length) ps
  | [], _, _ => rfl
  | n :: names, depth, h => by
    obtain ⟨hn, hnames⟩ := List.forall_mem_cons.1 h
    rw [List.cons_append, descend_name hn, descend_names hnames, List.length_cons, Nat.add_assoc,
      Nat.add_comm 1]

theorem isSome_descend_concat {name : String} (h : IsName name) :
    (descend depth (ps ++ [name])).isSome ↔ (descend depth ps).isSome := by
  rw [descend_append]
  cases descend depth ps with
  | none => rfl
  | some depth =>
    rw [Option.bind_some, descend_name h]
    rfl

/-- The last part of a text with a suffix is a name. -/
theorem isSome_descend_suffixed {suffix : String} (h : 3 ≤ suffix.length) :
    (descend depth (suffixed ps suffix)).isSome ↔ (descend depth ps.dropLast).isSome :=
  isSome_descend_concat (isName_append_right h)

/-- So is the first part of a text with a start. -/
theorem isSome_descend_prefixed {start suffix : String} (h : 3 ≤ start.length)
    (hs : 3 ≤ suffix.length) : (descend depth (prefixed start (suffixed ps suffix))).isSome ↔
      (descend (depth + 1) ps.dropLast.tail).isSome := by
  rw [prefixed, descend_name (isName_append_left h), suffixed]
  cases ps.dropLast with
  | nil => rfl
  | cons part rest => exact isSome_descend_concat (isName_append_right hs)

/-- Parts between names. -/
theorem isSome_descend_between {lead sub rest : List String} (hlead : ∀ n ∈ lead, IsName n)
    (hsub : ∀ n ∈ sub, IsName n) : (descend 0 (lead ++ ps ++ sub ++ rest)).isSome ↔
      ∃ depth, descend lead.length ps = some depth ∧ (descend (depth + sub.length) rest).isSome := by
  rw [List.append_assoc, List.append_assoc, descend_names hlead, Nat.zero_add, descend_append]
  cases descend lead.length ps with
  | none => simp
  | some depth => simp [descend_names hsub]

end

end Path

/-! ## The names of an entity -/

/-- The names of the entity lead no further up than the directories before them: `..` in the
module leaves what the stack puts before the directory of the module, and where a name is part of a
file's name, all but its last part (and its first, if text precedes it) are directories. -/
def Entity.StaysBelow (e : Entity) : Stack → Prop
  | .go => ∃ depth, descend 2 (parts e.module) = some depth ∧
      (descend (depth + 1) (parts e.module).dropLast).isSome
  | .laravel => ∃ depth, descend 2 (parts e.pascal) = some depth ∧
      (descend (depth + 1) (parts e.pascal).dropLast.tail).isSome ∧
      (descend 3 (parts e.modulePlural).dropLast.tail).isSome
  | .react => ∃ depth, descend 2 (parts e.module) = some depth ∧
      (descend (depth + 1) (parts e.pascal).dropLast).isSome
  | .flutter => (descend 2 (parts e.module)).isSome

/-- What holds of the paths of a set, by their parts. -/
theorem ArtifactSet.forall_parts {set : ArtifactSet} {P : List String → Prop} :
    (∀ a ∈ set, P (parts a.path)) ↔ ∀ ps ∈ set.paths.map parts, P ps := by
  simp [ArtifactSet.paths]

namespace GoModule

theorem stay_iff (p : Pagination) (b : Blueprint) :
    (∀ a ∈ artifacts p b, Stays a.path) ↔ b.entity.StaysBelow .go := by
  simp only [stays_iff]
  rw [ArtifactSet.forall_parts (P := fun ps => (descend 0 ps).isSome), parts_paths]
  have hdir : ∀ {dir suffix : String}, IsName dir → 3 ≤ suffix.length →
      ((descend 0 (dirParts b.entity ++ [dir] ++ suffixed (parts b.entity.module) suffix)).isSome ↔
        b.entity.StaysBelow .go) := by
    intro dir suffix hdir hsuffix
    rw [dirParts, isSome_descend_between (by decide) (by simpa using hdir)]
    simp only [isSome_descend_suffixed hsuffix]
    rfl
  simp only [List.forall_mem_append, List.forall_mem_cons]
  constructor
  · exact fun h => (hdir (by decide) (by decide)).1 h.1.2.1
  · intro h
    obtain ⟨depth, hm, -⟩ := id h
    have hmodule : (descend 2 (parts b.entity.module)).isSome := by
      rw [hm]
      rfl
    refine ⟨⟨?_, (hdir (by decide) (by decide)).2 h, (hdir (by decide) (by decide)).2 h,
      (hdir (by decide) (by decide)).2 h, ?_, nofun⟩, ?_⟩
    · rw [descend_names (by decide), isSome_descend_suffixed (by decide)]
      exact isSome_descend_lead (List.dropLast_prefix _) hmodule
    · rw [isSome_descend_concat (by decide), dirParts, descend_names (by decide)]
      exact hmodule
    · split
      · exact List.forall_mem_singleton.2 ((hdir (by decide) (by decide)).2 h)
      · nofun

end GoModule

namespace LaravelModule

theorem stay_iff (p : Pagination) (b : Blueprint) :
    (∀ a ∈ artifacts p b, Stays a.path) ↔ b.entity.StaysBelow .laravel := by
  simp only [stays_iff]
  rw [ArtifactSet.forall_parts (P := fun ps => (descend 0 ps).isSome), parts_paths]
  have huseCase : ∀ a : Action, (descend 0 (["app", "UseCases"] ++ parts b.entity.pascal ++
      prefixed a.name (suffixed (parts b.entity.pascal) "UseCase.php"))).isSome ↔
        ∃ depth, descend 2 (parts b.entity.pascal) = some depth ∧
          (descend (depth + 1) (parts b.entity.pascal).dropLast.tail).isSome := by
    intro a
    have hname : 3 ≤ a.name.length := by cases a <;> decide
    have hsuffix : 3 ≤ "UseCase.php".length := by decide
    rw [← List.append_nil (_ ++ parts _), isSome_descend_between (by decide)
      (List.forall_mem_nil IsName)]
    simp only [List.length_nil, Nat.add_zero, isSome_descend_prefixed hname hsuffix]
    rfl
  have hmigration : (descend 0 (["database", "migrations"] ++
      prefixed "create_" (suffixed (parts b.entity.modulePlural) "_table.php"))).isSome ↔
        (descend 3 (parts b.entity.modulePlural).dropLast.tail).isSome := by
    rw [descend_names (by decide), isSome_descend_prefixed (by decide) (by decide)]
    rfl
  simp only [List.forall_mem_append, List.forall_mem_cons, List.forall_mem_map, huseCase,
    hmigration, Entity.StaysBelow]
  constructor
  · rintro ⟨⟨-, hm, -⟩, hu⟩
    obtain ⟨depth, hd, ht⟩ := hu .create (.head _)
    exact ⟨depth, hd, ht, hm⟩
  · rintro ⟨depth, hd, ht, hm⟩
    have hclass : ∀ {dirs : List String} {suffix : String}, (∀ n ∈ dirs, IsName n) →
        2 ≤ dirs.length → 3 ≤ suffix.length →
        (descend 0 (dirs ++ suffixed (parts b.entity.pascal) suffix)).isSome := by
      intro dirs suffix hdirs hlength hsuffix
      rw [descend_names hdirs, isSome_descend_suffixed hsuffix, Nat.zero_add]
      refine isSome_descend_mono hlength (isSome_descend_lead (List.dropLast_prefix _) ?_)
      rw [hd]
      rfl
    exact ⟨⟨hclass (by decide) (by decide) (by decide), hm,
      hclass (by decide) (by decide) (by decide), hclass (by decide) (by decide) (by decide),
      hclass (by decide) (by decide) (by decide), nofun⟩, fun a _ => ⟨depth, hd, ht⟩⟩

end LaravelModule

namespace ReactFeature

theorem stay_iff (b : Blueprint) :
    (∀ a ∈ artifacts b, Stays a.path) ↔ b.entity.StaysBelow .react := by
  simp only [stays_iff]
  rw [ArtifactSet.forall_parts (P := fun ps => (descend 0 ps).isSome), parts_paths]
  have hcomponent : ∀ {suffix : String}, 3 ≤ suffix.length →
      ((descend 0 (dirParts b.entity ++ ["components"] ++
        suffixed (parts b.entity.pascal) suffix)).isSome ↔ b.entity.StaysBelow .react) := by
    intro suffix hsuffix
    rw [dirParts, isSome_descend_between (by decide) (by decide)]
    simp only [isSome_descend_suffixed hsuffix]
    rfl
  simp only [List.forall_mem_cons]
  constructor
  · exact fun h => (hcomponent (by decide)).1 h.2.2.2.1
  · intro h
    obtain ⟨depth, hm, -⟩ := id h
    have hfile : ∀ {name : String}, IsName name →
        (descend 0 (dirParts b.entity ++ [name])).isSome := by
      intro name hname
      rw [isSome_descend_concat hname, dirParts, descend_names (by decide)]
      exact Option.isSome_iff_exists.2 ⟨depth, hm⟩
    exact ⟨hfile (by decide), hfile (by decide), hfile (by decide),
      (hcomponent (by decide)).2 h, (hcomponent (by decide)).2 h, hfile (by decide), nofun⟩

end ReactFeature

namespace FlutterFeature

theorem stay_iff (p : Pagination) (b : Blueprint) :
    (∀ a ∈ artifacts p b, Stays a.path) ↔ b.entity.StaysBelow .flutter := by
  simp only [stays_iff]
  rw [ArtifactSet.forall_parts (P := fun ps => (descend 0 ps).isSome), parts_paths]
  have hfile : ∀ {dirs : List String} {suffix : String}, (∀ n ∈ dirs, IsName n) →
      2 ≤ dirs.length → 3 ≤ suffix.length →
      ((descend 0 (dirParts b.entity ++ dirs ++ suffixed (parts b.entity.module) suffix)).isSome ↔
        b.entity.StaysBelow .flutter) := by
    intro dirs suffix hdirs hlength hsuffix
    rw [dirParts, isSome_descend_between (by decide) hdirs, Entity.StaysBelow,
      Option.isSome_iff_exists]
    refine exists_congr fun depth => and_iff_left_iff_imp.2 fun hd => ?_
    -- two directories are below any depth, so the module stays there as it stays below two
    rw [isSome_descend_suffixed hsuffix]
    refine isSome_descend_mono (Nat.le_trans hlength (Nat.le_add_left _ _))
      (isSome_descend_lead (List.dropLast_prefix _) ?_)
    exact Option.isSome_iff_exists.2 ⟨depth, hd⟩
  simp only [List.forall_mem_cons]
  constructor
  · exact fun h => (hfile (by decide) (by decide) (by decide)).1 h.1
  · exact fun h => ⟨(hfile (by decide) (by decide) (by decide)).2 h,
      (hfile (by decide) (by decide) (by decide)).2 h,
      (hfile (by decide) (by decide) (by decide)).2 h,
      (hfile (by decide) (by decide) (by decide)).2 h, nofun⟩

end FlutterFeature

/-! ## All stacks -/

/-- All paths begin with the name of a directory, so they are relative. -/
theorem Generator.isAbsolute_of_mem_artifacts (g : Generator) (b : Blueprint) :
    ∀ a ∈ g.artifacts b, isAbsolute a.path = false := by
  have hhead : ∀ ps ∈ (g.artifacts b).paths.map parts, ps.headD "" ≠ "" := by
    cases g with
    | go p =>
      rw [artifacts, GoModule.parts_paths]
      simp only [GoModule.dirParts]
      split <;> simp
    | laravel p =>
      rw [artifacts, LaravelModule.parts_paths]
      simp [LaravelModule.Action.all]
    | react =>
      rw [artifacts, ReactFeature.parts_paths]
      simp [ReactFeature.dirParts]
    | flutter p =>
      rw [artifacts, FlutterFeature.parts_paths]
      simp [FlutterFeature.dirParts]
  intro a ha
  have hne := ArtifactSet.forall_parts.2 hhead a ha
  obtain ⟨part, rest, hp⟩ := List.exists_cons_of_ne_nil (parts_ne_nil a.path)
  have hslash : '/' ∉ part.toList := slash_not_mem (show part ∈ parts a.path by rw [hp]; exact .head _)
  rw [hp] at hne
  rw [← ofParts_parts a.path, hp, isAbsolute_ofParts hslash]
  simpa using fun he => absurd he hne

theorem Generator.stay_iff (g : Generator) (b : Blueprint) :
    (∀ a ∈ g.artifacts b, Stays a.path) ↔ b.entity.StaysBelow g.stack := by
  cases g with
  | go p => exact GoModule.stay_iff p b
  | laravel p => exact LaravelModule.stay_iff p b
  | react => exact ReactFeature.stay_iff b
  | flutter p => exact FlutterFeature.stay_iff p b

/-! ## Names without a slash -/

section Named

variable {name : String} {c : Char} (hcaseless : Text.Caseless c) (h : c ∉ name.toList)
include hcaseless h

theorem Entity.not_mem_module : c ∉ (named name).module.toList := mt hcaseless.mem_lower.1 h

theorem Entity.not_mem_pascal : c ∉ (named name).pascal.toList :=
  mt hcaseless.mem_of_mem_pascal (not_mem_module hcaseless h)

theorem Entity.not_mem_modulePlural (hc : c ∉ ['i', 'e', 's']) :
    c ∉ (named name).modulePlural.toList :=
  mt (Naming.mem_of_mem_pluralize hc) (not_mem_module hcaseless h)

end Named

/-- Without a slash, each name is one part. -/
theorem Entity.parts_names {name : String} (h : '/' ∉ name.toList) :
    parts (named name).module = [(named name).module] ∧
    parts (named name).pascal = [(named name).pascal] ∧
    parts (named name).modulePlural = [(named name).modulePlural] := by
  have hcaseless : Text.Caseless '/' := by decide +kernel
  exact ⟨parts_of_slash_not_mem (not_mem_module hcaseless h),
    parts_of_slash_not_mem (not_mem_pascal hcaseless h),
    parts_of_slash_not_mem (not_mem_modulePlural hcaseless h (by decide))⟩

/-- A single part leaves two directories at most once. -/
theorem Path.exists_descend_singleton (part : String) : ∃ depth, descend 2 [part] = some depth := by
  rcases part_cases part with hi | rfl | hn
  · exact ⟨2, descend_idle hi⟩
  · exact ⟨1, rfl⟩
  · exact ⟨3, descend_name hn⟩

theorem Entity.staysBelow_of_slash_not_mem {name : String} (h : '/' ∉ name.toList) (stack : Stack) :
    (named name).StaysBelow stack := by
  obtain ⟨hmodule, hpascal, hplural⟩ := parts_names h
  obtain ⟨depth, hm⟩ := exists_descend_singleton (named name).module
  obtain ⟨depth', hp⟩ := exists_descend_singleton (named name).pascal
  cases stack with
  | go => exact ⟨depth, by rw [hmodule, hm], by rw [hmodule]; rfl⟩
  | laravel =>
    exact ⟨depth', by rw [hpascal, hp], by rw [hpascal]; rfl, by rw [hplural]; rfl⟩
  | react => exact ⟨depth, by rw [hmodule, hm], by rw [hpascal]; rfl⟩
  | flutter =>
    rw [StaysBelow, hmodule, hm]
    rfl

/-! ## Output roots -/

/-- **Generating below a root.** The paths of a generation are relative, and they stay below their
start exactly when the names of the entity do, which all names without a slash do. Then no run,
whatever its root, its mode and its end, changes a file outside the root or makes one there. -/
theorem Generator.artifacts_below (g : Generator) (name : String) (fields : List Field)
    (project : String) (options : Options) :
    (∀ a ∈ g.artifacts ⟨.named name, fields, project, options⟩, isAbsolute a.path = false) ∧
    ((∀ a ∈ g.artifacts ⟨.named name, fields, project, options⟩, Stays a.path) ↔
      (Entity.named name).StaysBelow g.stack) ∧
    ('/' ∉ name.toList → (Entity.named name).StaysBelow g.stack) ∧
    ((Entity.named name).StaysBelow g.stack → ∀ (root : String) (mode : Overwrite) (d : Disk)
      (loc : Location) (content : String), ¬ d.place root <+: loc →
        (((g.artifacts ⟨.named name, fields, project, options⟩).write root mode d).2.find? loc =
          some (.file content) ↔ d.find? loc = some (.file content))) := by
  have hrelative := g.isAbsolute_of_mem_artifacts ⟨.named name, fields, project, options⟩
  have hstay := g.stay_iff ⟨.named name, fields, project, options⟩
  refine ⟨hrelative, hstay, (Entity.staysBelow_of_slash_not_mem · g.stack), ?_⟩
  intro hbelow root mode d loc content hloc
  exact ArtifactSet.find?_write_of_outside
    (fun a ha => ⟨hrelative a ha, hstay.2 hbelow a ha⟩) hloc content

/-- `admin/../shop` has as many directories as `..`. -/
theorem Generator.artifacts_below_shop (content : String) :
    (Entity.named "admin/../shop").StaysBelow .go ∧
      ((((Generator.go {}).artifacts ⟨.named "admin/../shop", [], "", {}⟩).write "out" .always
        {}).2.find? ["main.go"] = some (.file content) ↔
          ({} : Disk).find? ["main.go"] = some (.file content)) := by
  have hbelow : (Entity.named "admin/../shop").StaysBelow .go :=
    ⟨3, by decide +kernel, by decide +kernel⟩
  exact ⟨hbelow, ((Generator.go {}).artifacts_below "admin/../shop" [] "" {}).2.2.2 hbelow "out"
    .always {} ["main.go"] content (by decide +kernel)⟩

/-- The Pascal case of this name is `../../../x`, which leads from `app/Models` to the directory above
the root: the model of a Laravel module is written beside the root. -/
theorem LaravelModule.model_above_root :
    let set := (Generator.laravel {}).artifacts
      ⟨.named "._./._./._./x", [⟨"name", "string", true⟩], "", {}⟩
    (∃ a ∈ set, ¬ Stays a.path) ∧ ¬ ({} : Disk).place "w" <+: ["x.php"] ∧
      ({} : Disk).find? ["x.php"] = none ∧
      ∃ content, (set.write "w" .always {}).2.find? ["x.php"] = some (.file content) := by
  intro set
  refine ⟨⟨_, .head _, by decide +kernel⟩, by decide +kernel, rfl, ?_⟩
  let b : Blueprint := ⟨.named "._./._./._./x", [⟨"name", "string", true⟩], "", {}⟩
  have hplace : ({} : Disk).place (join "w" (model b).path) = ["x.php"] := by decide +kernel
  have hempty : ∀ s : Location, ∀ content, ({} : Disk).find? s ≠ some (.file content) := by
    intro s content
    rw [Disk.find?]
    split <;> simp
  obtain ⟨d₁, d', hg, hw, hf⟩ := Disk.writeFile_ok (show Disk.Admits {} (join "w" (model b).path) by
    decide +kernel) (by decide +kernel) (fun s _ => hempty s) (by rw [hplace]; decide)
    (by decide +kernel) (model b).content
  have hfile : d'.find? ["x.php"] = some (.file (model b).content) := by
    obtain ⟨-, -, hn, -, rfl⟩ := Disk.write_eq_ok.1 hw
    rw [← hplace, ← hg.extends.place]
    exact Disk.find?_put_self d₁ (Disk.place_ne_nil hn) _
  have hfirst : (model b).write "w" .always {} = (.ok .written, d') :=
    Artifact.write_always_eq_ok.2 ⟨rfl, hf⟩
  -- the files that are written after it leave a file there
  change ∃ content, (ArtifactSet.write "w" .always (model b :: set.tail) {}).2.find? _ = _
  rw [ArtifactSet.snd_write_cons hfirst]
  exact (ArtifactSet.extends_write rfl).files _ _ hfile

end Scaffold
