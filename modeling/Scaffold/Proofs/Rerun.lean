import Scaffold.Proofs.Directories

/-!
# Writing again

After a run that ended well every path of the set leads to something, and each file holds what the
last artifact at its place brought (`Settled`). So without replacement a second run finds nothing to
do; with replacement it puts the same contents into the same files, one after the other
(`write_eq_puts`), and in the end the disk is as it was (`puts_eq_self`).
-/

set_option autoImplicit false

namespace Scaffold

/-! ## Putting nodes -/

namespace Disk

theorem put_put_self (d : Disk) (loc : Location) (old new : Node) :
    (d.put loc old).put loc new = d.put loc new := by
  have h : ∀ nodes, putNode loc new (putNode loc old nodes) = putNode loc new nodes := by
    intro nodes
    fun_induction putNode loc old nodes <;> simp_all [putNode]
  simp [put, h]

/-- What is there is put without a change. -/
theorem put_eq_self {d : Disk} {loc : Location} (hne : loc ≠ []) {node : Node}
    (hf : d.find? loc = some node) : d.put loc node = d := by
  have h : ∀ nodes : List (Location × Node), nodes.lookup loc = some node →
      putNode loc node nodes = nodes := by
    intro nodes hl
    fun_induction putNode loc node nodes with
    | case1 => cases hl
    | case2 => simp_all
    | case3 other old rest hne' ih =>
      rw [List.lookup_cons, beq_eq_false_iff_ne.2 (Ne.symm hne')] at hl
      rw [ih hl]
  rw [find?, if_neg hne] at hf
  rw [put, h _ hf]

/-- Changes at different locations commute when one of them makes nothing new. -/
theorem put_comm {d : Disk} {loc other : Location} (hne : loc ≠ []) (ho : other ≠ loc)
    (hf : d.find? loc ≠ none) (node node' : Node) :
    (d.put loc node).put other node' = (d.put other node').put loc node := by
  have h : ∀ nodes : List (Location × Node), nodes.lookup loc ≠ none →
      putNode other node' (putNode loc node nodes) =
        putNode loc node (putNode other node' nodes) := by
    intro nodes hl
    fun_induction putNode loc node nodes with
    | case1 => simp at hl
    | case2 => simp [putNode, Ne.symm ho]
    | case3 first old rest hne' ih =>
      rw [List.lookup_cons, beq_eq_false_iff_ne.2 (Ne.symm hne')] at hl
      by_cases hfo : first = other
      · simp [putNode, hfo, ho]
      · simp [putNode, hfo, hne', ih hl]
  rw [find?, if_neg hne] at hf
  simp [put, h _ hf]

end Disk

open Disk

section
variable {root : String} {mode : Overwrite}

/-! ## What a run leaves -/

/-- An artifact that was written or skipped is there. -/
theorem Artifact.exists?_of_write {a : Artifact} {d d' : Disk} {r : WriteResult}
    (h : a.write root mode d = (.ok r, d')) : d'.exists? (Path.join root a.path) = true := by
  rcases a.write_cases root mode d with ⟨-, he, hw⟩ | ⟨-, ⟨d₁, hf, hw⟩ | ⟨e, d₁, -, hw⟩⟩ <;>
    rw [h] at hw <;> cases hw
  · exact he
  · exact exists?_of_read (read_of_writeFile hf)

namespace ArtifactSet

theorem exists?_of_write : ∀ {set : ArtifactSet} {d d' : Disk} {outcomes : List WriteOutcome},
    set.write root mode d = (.ok outcomes, d') →
      ∀ a ∈ set, d'.exists? (Path.join root a.path) = true
  | [], _, _, _, _ => nofun
  | a :: rest, d, d', outcomes, h => by
    obtain ⟨r, d₁, os, ha, hr, -⟩ := write_cons_eq_ok.1 h
    exact List.forall_mem_cons.2
      ⟨(extends_write hr).exists? (a.exists?_of_write ha), exists?_of_write hr⟩

/-- Every artifact reads back, and with its own content unless a later one has its place. -/
def Settled (root : String) (d : Disk) : ArtifactSet → Prop
  | [] => True
  | a :: rest => (∃ c, d.read (Path.join root a.path) = .ok c) ∧
      (d.read (Path.join root a.path) = .ok a.content ∨
        ∃ b ∈ rest, d.place (Path.join root b.path) = d.place (Path.join root a.path)) ∧
      Settled root d rest

/-- A file that is at no artifact's place is kept. -/
theorem find?_write_always {loc : Location} {c : String} :
    ∀ {set : ArtifactSet} {d d' : Disk} {outcomes : List WriteOutcome},
      set.write root .always d = (.ok outcomes, d') → d.find? loc = some (.file c) →
        (∀ a ∈ set, d.place (Path.join root a.path) ≠ loc) → d'.find? loc = some (.file c)
  | [], d, d', outcomes, h, hf, _ => by
    obtain ⟨-, rfl⟩ : [] = outcomes ∧ d = d' := by simpa [ArtifactSet.write] using h
    exact hf
  | a :: rest, d, d', outcomes, h, hf, hp => by
    rw [List.forall_mem_cons] at hp
    obtain ⟨r, d₁, os, ha, hr, -⟩ := write_cons_eq_ok.1 h
    have hx := a.extends_write ha
    obtain ⟨-, hw⟩ := Artifact.write_always_eq_ok.1 ha
    obtain ⟨d₂, hg, hwr⟩ := writeFile_eq_ok hw
    obtain ⟨-, -, -, -, rfl⟩ := write_eq_ok.1 hwr
    refine find?_write_always hr ?_ fun b hb => by rw [hx.place]; exact hp.2 b hb
    rw [find?_put_of_ne d₂ _ (by rw [hg.extends.place]; exact hp.1.symm)]
    exact hg.find? hf

/-- A run that ended well has written every artifact, and the set is settled. -/
theorem settled_of_write : ∀ {set : ArtifactSet} {d d' : Disk} {outcomes : List WriteOutcome},
    set.write root .always d = (.ok outcomes, d') →
      outcomes = set.map (fun a => ⟨Path.join root a.path, .written⟩) ∧ Settled root d' set
  | [], d, d', outcomes, h => by
    obtain ⟨rfl, rfl⟩ : [] = outcomes ∧ d = d' := by simpa [ArtifactSet.write] using h
    exact ⟨rfl, trivial⟩
  | a :: rest, d, d', outcomes, h => by
    obtain ⟨r, d₁, os, ha, hr, rfl⟩ := write_cons_eq_ok.1 h
    obtain ⟨rfl, hw⟩ := Artifact.write_always_eq_ok.1 ha
    obtain ⟨rfl, hs⟩ := settled_of_write hr
    have hread := read_of_writeFile hw
    have hx := extends_write hr
    refine ⟨rfl, hx.read hread, ?_, hs⟩
    by_cases hp : ∃ b ∈ rest, d'.place (Path.join root b.path) = d'.place (Path.join root a.path)
    · exact .inr hp
    · have hother : ∀ b ∈ rest,
          d₁.place (Path.join root b.path) ≠ d₁.place (Path.join root a.path) := by
        intro b hb he
        exact hp ⟨b, hb, by rw [hx.place, hx.place, he]⟩
      have hf := (read_eq_ok.1 hread).2.2.2
      exact .inl (hx.read_of_find? hread (find?_write_always hr hf hother))

/-! ## The second run -/

/-- Nothing is missing: without replacement every artifact is skipped. -/
theorem write_of_exists? : ∀ {set : ArtifactSet} {d : Disk},
    (∀ a ∈ set, d.exists? (Path.join root a.path) = true) →
      set.write root .ifMissing d = (.ok (set.map fun a => ⟨Path.join root a.path, .skipped⟩), d)
  | [], _, _ => rfl
  | a :: rest, d, h => by
    rw [List.forall_mem_cons] at h
    exact write_cons_eq_ok.2
      ⟨.skipped, d, _, Artifact.write_of_exists? h.1, write_of_exists? h.2, rfl⟩

/-- The contents put at the places of the artifacts, in order. -/
def puts (root : String) : ArtifactSet → Disk → Disk
  | [], d => d
  | a :: rest, d => puts root rest (d.put (d.place (Path.join root a.path)) (.file a.content))

theorem extends_put_of_read {d : Disk} {path c : String} (h : d.read path = .ok c)
    (content : String) : d.Extends (d.put (d.place path) (.file content)) := by
  obtain ⟨-, -, hn, hf⟩ := read_eq_ok.1 h
  exact extends_put d (place_ne_nil hn) (by simp [hf]) fun _ _ => ⟨content, rfl⟩

/-- When every artifact reads back, a run with replacement only puts contents. -/
theorem write_eq_puts : ∀ {set : ArtifactSet} {d : Disk},
    (∀ a ∈ set, ∃ c, d.read (Path.join root a.path) = .ok c) →
      set.write root .always d =
        (.ok (set.map fun a => ⟨Path.join root a.path, .written⟩), puts root set d)
  | [], _, _ => rfl
  | a :: rest, d, h => by
    rw [List.forall_mem_cons] at h
    obtain ⟨⟨c, hc⟩, hrest⟩ := h
    obtain ⟨had, ho, hn, hf⟩ := read_eq_ok.1 hc
    have hx := extends_put_of_read hc a.content
    have hw := writeFile_of_open had hn ho (by simp [hf]) a.content
    refine write_cons_eq_ok.2
      ⟨.written, _, _, Artifact.write_always_eq_ok.2 ⟨rfl, hw⟩, write_eq_puts ?_, rfl⟩
    intro b hb
    obtain ⟨c', hc'⟩ := hrest b hb
    exact hx.read hc'

/-- What is put at a place does not matter when an artifact is put there later. -/
theorem puts_put {loc : Location} (hne : loc ≠ []) (c : String) :
    ∀ {set : ArtifactSet} {d : Disk}, d.find? loc ≠ none →
      (∃ a ∈ set, d.place (Path.join root a.path) = loc) →
        puts root set (d.put loc (.file c)) = puts root set d
  | [], _, _, ⟨_, ha, _⟩ => nomatch ha
  | a :: rest, d, hf, ⟨b, hb, hp⟩ => by
    have hplace : ∀ path, (d.put loc (.file c)).place path = d.place path := fun _ => rfl
    rw [puts, puts, hplace]
    by_cases he : d.place (Path.join root a.path) = loc
    · rw [he, put_put_self]
    · rw [put_comm hne he hf]
      have hb : b ∈ rest := (List.mem_cons.1 hb).resolve_left fun hba => he (hba ▸ hp)
      exact puts_put hne c (by rwa [find?_put_of_ne d _ (Ne.symm he)]) ⟨b, hb, hp⟩

/-- Putting the contents of a settled set changes nothing. -/
theorem puts_eq_self {d : Disk} : ∀ {set : ArtifactSet}, Settled root d set → puts root set d = d
  | [], _ => rfl
  | a :: rest, ⟨⟨c, hc⟩, hlast, hrest⟩ => by
    obtain ⟨-, -, hn, hf⟩ := read_eq_ok.1 hc
    have hne := place_ne_nil (d := d) hn
    rw [puts]
    rcases hlast with hown | hlater
    · rw [put_eq_self hne (read_eq_ok.1 hown).2.2.2, puts_eq_self hrest]
    · rw [puts_put hne a.content (by simp [hf]) hlater, puts_eq_self hrest]

theorem Settled.reads {d : Disk} : ∀ {set : ArtifactSet}, Settled root d set →
    ∀ a ∈ set, ∃ c, d.read (Path.join root a.path) = .ok c
  | [], _ => nofun
  | _ :: _, ⟨hc, _, hrest⟩ => List.forall_mem_cons.2 ⟨hc, hrest.reads⟩

/-- **Writing again changes nothing.** After a run that ended well, a second run ends well and
leaves the disk as it is: with replacement it writes every artifact once more, without it skips
all. -/
theorem write_rerun (root : String) (set : ArtifactSet) (d : Disk) :
    (∀ outcomes d', set.write root .always d = (.ok outcomes, d') →
      set.write root .always d' = (.ok outcomes, d') ∧
      set.write root .ifMissing d' =
        (.ok (set.map fun a => ⟨Path.join root a.path, .skipped⟩), d')) ∧
    ∀ outcomes d', set.write root .ifMissing d = (.ok outcomes, d') →
      set.write root .ifMissing d' =
        (.ok (set.map fun a => ⟨Path.join root a.path, .skipped⟩), d') := by
  refine ⟨fun outcomes d' h => ⟨?_, write_of_exists? (exists?_of_write h)⟩,
    fun outcomes d' h => write_of_exists? (exists?_of_write h)⟩
  obtain ⟨rfl, hs⟩ := settled_of_write h
  rw [write_eq_puts hs.reads, puts_eq_self hs]

/-- A set with two artifacts at one path, and one at a file that is there. -/
theorem write_rerun_duplicates :
    let d : Disk := { nodes := [(["x"], .file "old")] }
    let d' : Disk := { nodes := [(["x"], .file "2"), (["a"], .dir), (["a", "b"], .file "3")] }
    let set : ArtifactSet := [⟨"a/b", .model, "1"⟩, ⟨"x", .dto, "2"⟩, ⟨"a/b", .model, "3"⟩]
    let outcomes : List WriteOutcome := [⟨"a/b", .written⟩, ⟨"x", .written⟩, ⟨"a/b", .written⟩]
    set.write "" .always d = (.ok outcomes, d') ∧ set.write "" .always d' = (.ok outcomes, d') ∧
      set.write "" .ifMissing d' =
        (.ok (set.map fun a => ⟨Path.join "" a.path, .skipped⟩), d') := by
  intro d d' set outcomes
  have first : set.write "" .always d = (.ok outcomes, d') := rfl
  exact ⟨first, (write_rerun "" set d).1 outcomes d' first⟩

end ArtifactSet

end

end Scaffold
