import Scaffold.Proofs.Configurations
import Scaffold.Proofs.Generating

/-!
# Precedence

Of what the command line, the configuration and the standard settings say, the first that says
anything prevails (`Prevails`). A generation has settings exactly if one of the first two gives a
stack, and then every setting is the one that prevails (`GenerateCommand.settings_eq_ok`).
With what a configuration file means (`Config.StatedBy`), this tells all that a file can do to a
generation (`Config.read_whole_and_merged`).
-/

set_option autoImplicit false

namespace Scaffold

/-- The value is the flag's, without a flag the configured one, and without either the standard. -/
inductive Prevails {α : Type} (flag configured standard : Option α) (a : α) : Prop
  | flag (h : flag = some a)
  | configured (hflag : flag = none) (h : configured = some a)
  | standard (hflag : flag = none) (hconfigured : configured = none) (h : standard = some a)

theorem prevails_iff {α : Type} {flag configured standard : Option α} {a : α} :
    Prevails flag configured standard a ↔ (flag.or configured).or standard = some a := by
  constructor
  · rintro (rfl | ⟨rfl, rfl⟩ | ⟨rfl, rfl, rfl⟩) <;> rfl
  · intro h
    cases flag with
    | some b => exact .flag h
    | none =>
      cases configured with
      | some b => exact .configured rfl h
      | none => exact .standard rfl rfl h

theorem prevails_some_iff {α : Type} {flag configured : Option α} {standard a : α} :
    Prevails flag configured (some standard) a ↔ (flag.or configured).getD standard = a := by
  rw [prevails_iff, Option.or_some, Option.some_inj]

namespace GenerateCommand

/-- The settings are those that prevail among the flags of the command, the configuration and the
standard settings. There is no standard stack, and a flag can only switch the validators on. -/
structure Merges (c : GenerateCommand) (defaults : Config) (s : Settings) : Prop where
  stack : Prevails c.stack defaults.stack none s.stack
  project : Prevails c.project defaults.project (some "") s.project
  output : Prevails c.output defaults.output (some ".") s.output
  validators : s.options.validators = true ↔ c.validators = true ∨ defaults.validators = some true
  overwrite : Prevails (if c.skipExisting = true then some .ifMissing else none) defaults.overwrite
    (some .always) s.overwrite

theorem settings_eq_ok {c : GenerateCommand} {defaults : Config} {s : Settings} :
    c.settings defaults = .ok s ↔ c.Merges defaults s := by
  have hvalidators : (c.validators || defaults.validators.getD false) = true ↔
      c.validators = true ∨ defaults.validators = some true := by
    cases defaults.validators <;> simp
  have hoverwrite : (if c.skipExisting = true then Overwrite.ifMissing
        else defaults.overwrite.getD .always) =
      ((if c.skipExisting = true then some .ifMissing else none).or defaults.overwrite).getD
        .always := by
    cases c.skipExisting <;> rfl
  unfold settings
  constructor
  · intro h
    split at h
    · cases h
    · rename_i stack hstack
      cases h
      exact {
        stack := prevails_iff.2 (Option.or_none.trans hstack)
        project := prevails_some_iff.2 rfl
        output := prevails_some_iff.2 rfl
        validators := hvalidators
        overwrite := prevails_some_iff.2 hoverwrite.symm }
  · intro h
    have hstack : c.stack.or defaults.stack = some s.stack :=
      Option.or_none.symm.trans (prevails_iff.1 h.stack)
    have hoptions : s.options = ⟨c.validators || defaults.validators.getD false⟩ :=
      congrArg Options.mk (Bool.eq_iff_iff.2 (h.validators.trans hvalidators.symm))
    rw [hstack, prevails_some_iff.1 h.project, prevails_some_iff.1 h.output, hoverwrite,
      prevails_some_iff.1 h.overwrite, ← hoptions]

end GenerateCommand

namespace Config

open Toml

/-- **A configuration is never half understood.** A document, as a whole or from a file, leads to a
configuration exactly if it states that and nothing else: a key beside `defaults`, an unknown key
among the defaults or a wrong value of a known one leads to an error, which for a file is always the
one about its content, and each of the five values is what a table of defaults gives for it, or
left open. A generation then has settings unless neither its flags nor the configuration give a
stack, and each of them is what prevails. -/
theorem read_whole_and_merged :
    (∀ d : Document, DistinctBy Value.Distinct d → ReadsWhole d (ofDocument d)) ∧
    (∀ (disk : Disk) (path? : Option String) (file text : String), Source disk path? file text →
      (∀ e, load disk path? = .error e → e.code = "modgen::config_parse") ∧
      ∀ d, Toml.parse? text = some d → ReadsWhole d (load disk path?)) ∧
    ∀ (c : GenerateCommand) (defaults : Config),
      ((∃ e, c.settings defaults = .error e) ↔ c.stack = none ∧ defaults.stack = none) ∧
      ∀ s, c.settings defaults = .ok s ↔ c.Merges defaults s := by
  refine ⟨fun d hd => readsWhole_of_iff hd fun c => ofDocument_eq_ok hd, ?_, fun c defaults => ?_⟩
  · intro disk path? file text hsource
    rw [load_of_source hsource]
    refine ⟨fun e => code_of_parse_eq_error, fun d hd => ?_⟩
    have hdistinct := distinct_parse hd
    exact readsWhole_of_iff hdistinct fun c => (parse_eq_ok hd).trans (ofDocument_eq_ok hdistinct)
  · refine ⟨⟨?_, fun h => ⟨{}, GenerateCommand.settings_eq_error.2 h⟩⟩, fun s =>
      GenerateCommand.settings_eq_ok⟩
    rintro ⟨e, h⟩
    exact GenerateCommand.settings_eq_error.1 h

/-- A file that gives a stack, and one with a misspelt key before a good one. -/
theorem read_whole_and_merged_stack :
    let disk : Disk := { nodes := [
      (["modgen.toml"], .file "[defaults]\nstack = \"go\"\n"),
      (["typo.toml"], .file "[defaults]\nstak = \"go\"\noverwrite = \"always\"\n")] }
    let c : GenerateCommand := { name := "product", fields := "name", output := some "web" }
    load disk none = .ok { stack := some "go" } ∧
    (∃ e, load disk (some "typo.toml") = .error e ∧ e.code = "modgen::config_parse") ∧
    c.settings { stack := some "go" } = .ok ⟨"go", "", "web", {}, .always⟩ ∧
    ∃ e, c.settings {} = .error e := by
  intro disk c
  obtain ⟨-, hload, hsettings⟩ := read_whole_and_merged
  have hgood : Source disk none configFile "[defaults]\nstack = \"go\"\n" := .standard rfl
  have htypo : Source disk (some "typo.toml") "typo.toml"
      "[defaults]\nstak = \"go\"\noverwrite = \"always\"\n" := .named rfl
  have hgoodLines : lines? 25 {} "[defaults]\nstack = \"go\"\n".toList =
      some ⟨[("defaults", .table .header [("stack", .value (.string "go"))])], ["defaults"]⟩ := by
    with_unfolding_all rfl
  have htypoLines : lines? 45 {} "[defaults]\nstak = \"go\"\noverwrite = \"always\"\n".toList =
      some ⟨[("defaults", .table .header [("stak", .value (.string "go")),
        ("overwrite", .value (.string "always"))])], ["defaults"]⟩ := by
    with_unfolding_all rfl
  refine ⟨?_, ?_, ?_, (hsettings c {}).1.2 ⟨rfl, rfl⟩⟩
  · have hparse := congrArg (Option.map fun r => finishEntries r.entries) hgoodLines
    refine (((hload _ _ _ _ hgood).2 _ hparse).accepted _).2 (.table (by decide) ?_)
    exact ⟨.value (.head _) rfl, .absent (by decide), .absent (by decide), .absent (by decide),
      .absent (by decide)⟩
  · have hparse := congrArg (Option.map fun r => finishEntries r.entries) htypoLines
    obtain ⟨hcode, hwhole⟩ := hload _ _ _ _ htypo
    obtain ⟨e, he⟩ := (hwhole _ hparse).faulty (.unknownDefault (.head _) (.head _) (by decide))
    exact ⟨e, he, hcode e he⟩
  · exact ((hsettings c _).2 _).2 ⟨.configured rfl rfl, .standard rfl rfl rfl, .flag rfl,
      by decide, .standard rfl rfl rfl⟩

end Config

end Scaffold
