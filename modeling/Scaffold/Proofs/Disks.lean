import Scaffold.Proofs.Paths

/-!
# What a path reaches on a disk

A path leads to its `place`, whatever the disk holds, by `way` of some directories. Looking at a
disk and changing it say one thing of a path: it has to be admitted (`Admits`), every node on its
way has to be a directory, and then the node at its place decides (`enterParent_eq_ok`,
`isDir_iff`, `exists?_iff`, `read_eq_ok`, `mkdir_eq_ok`, `write_eq_ok`).
-/

set_option autoImplicit false

namespace Scaffold

/-- The last part of a path. -/
def Path.last (path : String) : String := (Path.parts path).getLastD ""

theorem Path.parts_eq (path : String) :
    Path.parts path = (Path.parts path).dropLast ++ [Path.last path] := by
  have h := Path.parts_ne_nil path
  rw [Path.last, List.getLastD_eq_getLast?, List.getLast?_eq_some_getLast h, Option.getD_some]
  exact (List.dropLast_concat_getLast h).symm

namespace Disk

open Scaffold.Path

/-! ## Nodes -/

theorem lookup_putNode (loc other : Location) (node : Node) : ∀ nodes : List (Location × Node),
    (putNode loc node nodes).lookup other = if other = loc then some node else nodes.lookup other
  | [] => by
    by_cases h : other = loc
    · simp [putNode, h]
    · simp [putNode, List.lookup_cons, beq_eq_false_iff_ne.2 h, h]
  | (first, old) :: rest => by
    rw [putNode]
    split
    · rename_i h
      subst h
      by_cases ho : other = first
      · simp [ho]
      · simp [List.lookup_cons, beq_eq_false_iff_ne.2 ho, ho]
    · rename_i h
      rw [List.lookup_cons, List.lookup_cons, lookup_putNode loc other node rest]
      by_cases ho : other = first
      · subst ho
        simp [h]
      · simp [beq_eq_false_iff_ne.2 ho]

theorem find?_put (d : Disk) {loc : Location} (h : loc ≠ []) (node : Node) (other : Location) :
    (d.put loc node).find? other = if other = loc then some node else d.find? other := by
  by_cases ho : other = []
  · subst ho
    rw [if_neg (Ne.symm h)]
    rfl
  · simp [find?, ho, put, lookup_putNode]

theorem find?_put_self (d : Disk) {loc : Location} (h : loc ≠ []) (node : Node) :
    (d.put loc node).find? loc = some node := by
  rw [find?_put d h, if_pos rfl]

theorem find?_put_of_ne (d : Disk) {loc other : Location} (node : Node) (hne : other ≠ loc) :
    (d.put loc node).find? other = d.find? other := by
  by_cases ho : other = []
  · simp [find?, ho]
  · simp [find?, ho, put, lookup_putNode, hne]

/-! ## Admitted paths -/

theorem admitsName_of_size_le {d : Disk} {name : String} (h : name.utf8ByteSize ≤ 2) :
    d.admitsName name = true := by
  unfold admitsName
  cases d.limits with
  | none => rfl
  | some l => simpa using Nat.le_trans h l.dots

theorem admitsName_of_not_isName {d : Disk} {part : String} (h : ¬ IsName part) :
    d.admitsName part = true := by
  apply admitsName_of_size_le
  by_cases hu : part = ".."
  · subst hu
    decide
  · have hi : isIdle part = true := by simpa [IsName, hu] using h
    rcases (by simpa [isIdle] using hi : part = "" ∨ part = ".") with rfl | rfl <;> decide

/-- The path can name a node of the disk: it is not empty, holds no character that no path may
hold, and is within the limits. -/
structure Admits (d : Disk) (path : String) : Prop where
  nonempty : path ≠ ""
  noNul : '\x00' ∉ path.toList
  length : d.admitsPath path = true
  names : ∀ part ∈ parts path, d.admitsName part = true

instance (d : Disk) (path : String) : Decidable (d.Admits path) :=
  decidable_of_iff (path ≠ "" ∧ '\x00' ∉ path.toList ∧ d.admitsPath path = true ∧
    ∀ part ∈ parts path, d.admitsName part = true)
    ⟨fun ⟨h1, h2, h3, h4⟩ => ⟨h1, h2, h3, h4⟩, fun ⟨h1, h2, h3, h4⟩ => ⟨h1, h2, h3, h4⟩⟩

/-! ## Following parts -/

theorem enter_eq_ok {d : Disk} {l : Location} : ∀ {ps : List String} {loc : Location},
    d.enter loc ps = .ok l ↔ l = land loc ps ∧ (∀ part ∈ ps, d.admitsName part = true) ∧
      ∀ s ∈ passed loc ps, d.find? s = some .dir
  | [], loc => by simpa [enter, land, passed] using eq_comm
  | part :: ps, loc => by
    simp only [enter, land, passed, List.forall_mem_cons]
    by_cases hn : IsName part
    · simp only [hn.1, hn.2, Bool.false_eq_true, if_false, List.forall_mem_cons]
      cases ha : d.admitsName part
      · simp
      · cases hf : d.find? (loc ++ [part]) with
        | none => simp
        | some node => cases node <;> simp [enter_eq_ok]
    · have ha : d.admitsName part = true := admitsName_of_not_isName hn
      by_cases hi : isIdle part = true
      · simp [hi, ha, enter_eq_ok]
      · have hu : part = ".." := by simpa [IsName, hi] using hn
        subst hu
        simp [show isIdle ".." = false by decide, ha, enter_eq_ok]

/-- The directories that a path passes before its last part. -/
def way (d : Disk) (path : String) : List Location := passed (d.start path) (parts path).dropLast

/-- The location that a path leads to when every node on its way is a directory. -/
def place (d : Disk) (path : String) : Location := land (d.start path) (parts path)

/-- The nodes on the way of the path are directories. -/
def Open (d : Disk) (path : String) : Prop := ∀ s ∈ d.way path, d.find? s = some .dir

instance (d : Disk) (path : String) : Decidable (d.Open path) :=
  inferInstanceAs (Decidable (∀ s ∈ d.way path, d.find? s = some .dir))

theorem place_of_isName {d : Disk} {path : String} (h : IsName (last path)) :
    d.place path = land (d.start path) (parts path).dropLast ++ [last path] := by
  rw [place, parts_eq path, land_append, land_name h, ← parts_eq path]

theorem place_ne_nil {d : Disk} {path : String} (h : IsName (last path)) : d.place path ≠ [] := by
  simp [place_of_isName h]

theorem start_join (d : Disk) (root : String) {path : String} (h : isAbsolute path = false) :
    d.start (join root path) = d.start root := by
  rw [start, start, isAbsolute_join root h]

section Join

variable {path : String} (d : Disk) (root : String) (h : isAbsolute path = false)
include h

/-- A path below a root is followed from the place of the root. -/
theorem place_join_eq_land : d.place (join root path) = land (d.place root) (parts path) := by
  obtain ⟨ps, hps, hroot | hroot⟩ := parts_join root h
  · rw [place, place, start_join d root h, hps, land_append, hroot]
  · rw [place, place, start_join d root h, hps, land_append, hroot, land_append, land_idle rfl]

/-- It passes what the root passes, and then goes on from the place of the root. -/
theorem way_join : d.way (join root path) =
    passed (d.start root) (parts root) ++ passed (d.place root) (parts path).dropLast := by
  obtain ⟨ps, hps, hroot⟩ := parts_join root h
  rw [way, start_join d root h, hps, List.dropLast_append_of_ne_nil (parts_ne_nil path),
    passed_append, place]
  rcases hroot with hroot | hroot <;> rw [hroot]
  rw [passed_append, land_append, passed_idle rfl, land_idle rfl, List.append_nil]

theorem last_join : last (join root path) = last path := by
  obtain ⟨ps, hps, -⟩ := parts_join root h
  rw [last, hps, parts_eq path, ← List.append_assoc, List.getLastD_concat]

end Join

theorem isName_last_join (root : String) {path : String} (h : IsOrdinary path) :
    IsName (last (join root path)) := by
  rw [last_join root h.isAbsolute]
  exact h _ (by rw [parts_eq path]; simp)

/-- An ordinary path leads below the place of its root, part by part. -/
theorem place_join (d : Disk) (root : String) {path : String} (h : IsOrdinary path) :
    d.place (join root path) = d.place root ++ parts path := by
  rw [place_join_eq_land d root h.isAbsolute, land_names h]

/-- Ordinary paths with the same place are the same. -/
theorem place_join_inj (d : Disk) (root : String) {p q : String} (hp : IsOrdinary p)
    (hq : IsOrdinary q) : d.place (join root p) = d.place (join root q) ↔ p = q := by
  rw [place_join d root hp, place_join d root hq, List.append_cancel_left_eq]
  exact ⟨fun h => by rw [← ofParts_parts p, h, ofParts_parts], fun h => h ▸ rfl⟩

theorem admits_names {d : Disk} {path : String} :
    (∀ part ∈ parts path, d.admitsName part = true) ↔
      (∀ part ∈ (parts path).dropLast, d.admitsName part = true) ∧
        d.admitsName (last path) = true := by
  constructor
  · intro h
    rw [parts_eq path] at h
    exact ⟨fun p hp => h p (by simp [hp]), h _ (by simp)⟩
  · intro ⟨hd, hl⟩ p hp
    rw [parts_eq path] at hp
    rcases List.mem_append.1 hp with hp | hp
    · exact hd p hp
    · rwa [List.mem_singleton.1 hp]

theorem enterParent_eq (d : Disk) (path : String) :
    d.enterParent path =
      if path.toList.contains '\x00' then .error .invalidPath
      else if path.isEmpty then .error .notFound
      else if !d.admitsPath path then .error .nameTooLong
      else (d.enter (d.start path) (parts path).dropLast).bind fun loc =>
        if d.admitsName (last path) then .ok (loc, last path) else .error .nameTooLong := by
  unfold enterParent last
  split
  · rfl
  split
  · rfl
  split <;> rfl

theorem enterParent_eq_ok {d : Disk} {path : String} {r : Location × String} :
    d.enterParent path = .ok r ↔ d.Admits path ∧ d.Open path ∧
      r = (land (d.start path) (parts path).dropLast, last path) := by
  constructor
  · intro h
    rw [enterParent_eq] at h
    split at h
    · cases h
    split at h
    · cases h
    split at h
    · cases h
    rename_i hz he hl
    cases hd : d.enter (d.start path) (parts path).dropLast with
    | error e => simp [hd, Except.bind] at h
    | ok loc =>
      obtain ⟨rfl, hn, ho⟩ := enter_eq_ok.1 hd
      simp only [hd, Except.bind] at h
      split at h
      · rename_i ha
        exact ⟨⟨by simpa using he, by simpa using hz, by simpa using hl, admits_names.2 ⟨hn, ha⟩⟩,
          ho, (Except.ok.inj h).symm⟩
      · cases h
  · rintro ⟨had, ho, rfl⟩
    obtain ⟨hn, ha⟩ := admits_names.1 had.names
    have hd := enter_eq_ok.2 ⟨rfl, hn, ho⟩
    rw [enterParent_eq, if_neg (by simpa using had.noNul), if_neg (by simpa using had.nonempty),
      if_neg (by simp [had.length]), hd]
    simp [Except.bind, ha]

theorem enterParent_bind_eq_ok {α : Type} {d : Disk} {path : String}
    {f : Location × String → Except DiskError α} {r : α} :
    (d.enterParent path >>= f) = .ok r ↔ d.Admits path ∧ d.Open path ∧
      f (land (d.start path) (parts path).dropLast, last path) = .ok r := by
  constructor
  · intro h
    cases he : d.enterParent path with
    | error e =>
      rw [he] at h
      cases h
    | ok l =>
      obtain ⟨had, ho, rfl⟩ := enterParent_eq_ok.1 he
      rw [he] at h
      exact ⟨had, ho, h⟩
  · intro ⟨had, ho, h⟩
    rw [enterParent_eq_ok.2 ⟨had, ho, rfl⟩]
    exact h

/-! ## Looking -/

section
variable {d : Disk} {path : String}

theorem resolve_eq_ok {r : Location × Node} :
    d.resolve path = .ok r ↔ d.Admits path ∧ d.Open path ∧ r.1 = d.place path ∧
      if IsName (last path) then d.find? r.1 = some r.2 else r.2 = .dir := by
  unfold resolve
  rw [enterParent_bind_eq_ok]
  refine and_congr_right fun _ => and_congr_right fun _ => ?_
  obtain ⟨loc, node⟩ := r
  by_cases hn : IsName (last path)
  · rw [place_of_isName hn, if_pos hn]
    simp only [hn.1, hn.2, Bool.false_eq_true, if_false]
    cases hf : d.find? (land (d.start path) (parts path).dropLast ++ [last path]) with
    | none => simp +contextual [throw, throwThe, MonadExceptOf.throw, hf]
    | some n => simp +contextual [pure, Except.pure, hf, eq_comm]
  · rw [if_neg hn, place, parts_eq path, land_append, ← parts_eq path]
    by_cases hi : isIdle (last path) = true
    · simp [hi, land_idle hi, pure, Except.pure, eq_comm]
    · have hu : last path = ".." := by simpa [IsName, hi] using hn
      simp [hu, land, show isIdle ".." = false by decide, pure, Except.pure, eq_comm]

theorem isDir_iff : d.isDir path = true ↔ d.Admits path ∧ d.Open path ∧
    (IsName (last path) → d.find? (d.place path) = some .dir) := by
  constructor
  · intro h
    unfold isDir at h
    split at h
    · rename_i loc hr
      obtain ⟨had, ho, rfl, hd⟩ := resolve_eq_ok.1 hr
      exact ⟨had, ho, fun hn => by rwa [if_pos hn] at hd⟩
    · cases h
  · intro ⟨had, ho, hd⟩
    have hr : d.resolve path = .ok (d.place path, .dir) :=
      resolve_eq_ok.2 ⟨had, ho, rfl, by split <;> simp_all⟩
    rw [isDir, hr]

theorem exists?_iff : d.exists? path = true ↔ d.Admits path ∧ d.Open path ∧
    (IsName (last path) → d.find? (d.place path) ≠ none) := by
  constructor
  · intro h
    unfold exists? at h
    split at h
    · rename_i r hr
      obtain ⟨had, ho, hp, hd⟩ := resolve_eq_ok.1 hr
      refine ⟨had, ho, fun hn => ?_⟩
      rw [if_pos hn, hp] at hd
      simp [hd]
    · cases h
  · intro ⟨had, ho, hd⟩
    obtain ⟨node, hr⟩ : ∃ node, d.resolve path = .ok (d.place path, node) := by
      by_cases hn : IsName (last path)
      · obtain ⟨node, hf⟩ := Option.ne_none_iff_exists'.1 (hd hn)
        exact ⟨node, resolve_eq_ok.2 ⟨had, ho, rfl, by rwa [if_pos hn]⟩⟩
      · exact ⟨.dir, resolve_eq_ok.2 ⟨had, ho, rfl, by rw [if_neg hn]⟩⟩
    rw [exists?, hr]

theorem exists?_of_isDir (h : d.isDir path = true) : d.exists? path = true := by
  obtain ⟨had, ho, hd⟩ := isDir_iff.1 h
  exact exists?_iff.2 ⟨had, ho, fun hn => by simp [hd hn]⟩

theorem read_eq_ok {content : String} : d.read path = .ok content ↔ d.Admits path ∧ d.Open path ∧
    IsName (last path) ∧ d.find? (d.place path) = some (.file content) := by
  constructor
  · intro h
    cases hr : d.resolve path with
    | error e => simp [read, hr, bind, Except.bind] at h
    | ok r =>
      obtain ⟨loc, node⟩ := r
      obtain ⟨had, ho, hp, hd⟩ := resolve_eq_ok.1 hr
      cases node with
      | dir => simp [read, hr, bind, Except.bind, throw, throwThe, MonadExceptOf.throw] at h
      | file c =>
        obtain rfl : c = content := by
          simpa [read, hr, bind, Except.bind, pure, Except.pure] using h
        by_cases hn : IsName (last path)
        · rw [if_pos hn] at hd
          exact ⟨had, ho, hn, hp ▸ hd⟩
        · rw [if_neg hn] at hd
          cases hd
  · intro ⟨had, ho, hn, hd⟩
    have hr : d.resolve path = .ok (d.place path, .file content) :=
      resolve_eq_ok.2 ⟨had, ho, rfl, by rwa [if_pos hn]⟩
    rw [read, hr]
    rfl

theorem exists?_of_read {content : String} (h : d.read path = .ok content) :
    d.exists? path = true := by
  obtain ⟨had, ho, -, hf⟩ := read_eq_ok.1 h
  exact exists?_iff.2 ⟨had, ho, fun _ => by simp [hf]⟩

/-! ## Changing -/

theorem isIdle_or_up {part : String} :
    (isIdle part || decide (part = "..")) = true ↔ ¬ IsName part := by
  simp [IsName, Decidable.or_iff_not_imp_left]

theorem mkdir_eq_ok {d' : Disk} : d.mkdir path = .ok d' ↔ d.Admits path ∧ d.Open path ∧
    IsName (last path) ∧ d.find? (d.place path) = none ∧ d' = d.put (d.place path) .dir := by
  unfold mkdir
  rw [enterParent_bind_eq_ok]
  refine and_congr_right fun _ => and_congr_right fun _ => ?_
  by_cases hn : IsName (last path)
  · rw [place_of_isName hn]
    simp only [show (isIdle (last path) || decide (last path = "..")) = false by simp [hn.1, hn.2]]
    cases hf : d.find? (land (d.start path) (parts path).dropLast ++ [last path]) with
    | none => simp [hn, pure, Except.pure, eq_comm]
    | some n => simp [throw, throwThe, MonadExceptOf.throw]
  · simp [isIdle_or_up.2 hn, hn, throw, throwThe, MonadExceptOf.throw, bind, Except.bind]

/-- Making a directory at a path that leads to a node fails, and not for a missing directory. -/
theorem mkdir_of_exists? (h : d.exists? path = true) : d.mkdir path = .error .alreadyExists := by
  obtain ⟨had, ho, hd⟩ := exists?_iff.1 h
  rw [mkdir, enterParent_eq_ok.2 ⟨had, ho, rfl⟩]
  by_cases hn : IsName (last path)
  · obtain ⟨node, hf⟩ := Option.ne_none_iff_exists'.1 (hd hn)
    rw [place_of_isName hn] at hf
    simp [hn.1, hn.2, hf, bind, Except.bind, throw, throwThe, MonadExceptOf.throw]
  · simp [isIdle_or_up.2 hn, throw, throwThe, MonadExceptOf.throw, bind, Except.bind]

theorem write_eq_ok {content : String} {d' : Disk} : d.write path content = .ok d' ↔
    d.Admits path ∧ d.Open path ∧ IsName (last path) ∧ d.find? (d.place path) ≠ some .dir ∧
      d' = d.put (d.place path) (.file content) := by
  unfold write
  rw [enterParent_bind_eq_ok]
  refine and_congr_right fun _ => and_congr_right fun _ => ?_
  by_cases hn : IsName (last path)
  · rw [place_of_isName hn]
    simp only [show (isIdle (last path) || decide (last path = "..")) = false by simp [hn.1, hn.2]]
    cases hf : d.find? (land (d.start path) (parts path).dropLast ++ [last path]) with
    | none => simp [hn, pure, Except.pure, eq_comm]
    | some node =>
      cases node with
      | dir => simp [throw, throwThe, MonadExceptOf.throw]
      | file c => simp [hn, pure, Except.pure, eq_comm]
  · simp [isIdle_or_up.2 hn, hn, throw, throwThe, MonadExceptOf.throw, bind, Except.bind]

end

end Disk

end Scaffold
