import Scaffold.Config
import Scaffold.Proofs.Disks
import Scaffold.Proofs.DistinctKeys
import Scaffold.Proofs.Failures

/-!
# Configurations are read whole

A document is accepted exactly if it states a configuration and nothing else
(`Config.ofDocument_eq_ok`). Taking over one entry changes one setting (`Config.set_eq_ok`), so
taking over the entries of a table in any order leaves what the table gives for each key
(`Config.setAll_eq_ok`). A document with a fault states nothing (`Config.StatedBy.not_faulty`).
-/

set_option autoImplicit false

namespace Scaffold

open Toml

/-! ## What a table gives -/

/-- What a table gives for a key: what the value under the key reads as, and `otherwise` if the
table does not have the key. -/
inductive Gives {α : Type} (reads : Value → α → Prop) (entries : List (String × Value))
    (key : String) (otherwise : Option α) : Option α → Prop
  | value {v : Value} {a : α} (mem : (key, v) ∈ entries) (h : reads v a) :
      Gives reads entries key otherwise (some a)
  | absent (h : key ∉ entries.map Prod.fst) : Gives reads entries key otherwise otherwise

section
variable {α : Type} {reads : Value → α → Prop} {entries : List (String × Value)} {key : String}
  {otherwise given : Option α}

theorem Gives.perm {entries' : List (String × Value)} (hperm : entries.Perm entries')
    (h : Gives reads entries key otherwise given) : Gives reads entries' key otherwise given := by
  cases h with
  | value mem hreads => exact .value (hperm.mem_iff.1 mem) hreads
  | absent h => exact .absent (mt (hperm.map Prod.fst).mem_iff.2 h)

theorem Gives.reads_of_mem (hkeys : (entries.map Prod.fst).Nodup) {v : Value}
    (hmem : (key, v) ∈ entries) (h : Gives reads entries key otherwise given) :
    ∃ a, reads v a ∧ given = some a := by
  cases h with
  | @value v' a mem hreads =>
    have heq : (key, v) = (key, v') := List.inj_on_of_nodup_map hkeys hmem mem rfl
    cases heq
    exact ⟨a, hreads, rfl⟩
  | absent h => exact absurd (List.mem_map_of_mem hmem) h

theorem gives_nil : Gives reads [] key otherwise given ↔ given = otherwise := by
  constructor
  · rintro (_ | _)
    · contradiction
    · rfl
  · rintro rfl
    exact .absent (by simp)

theorem gives_singleton {other : String} {v : Value} :
    Gives reads [(other, v)] key otherwise given ↔
      if other = key then ∃ a, reads v a ∧ given = some a else given = otherwise := by
  split
  · rename_i h
    subst h
    constructor
    · exact Gives.reads_of_mem (by simp) (List.mem_singleton_self _)
    · rintro ⟨a, hreads, rfl⟩
      exact .value (List.mem_singleton_self _) hreads
  · rename_i h
    constructor
    · rintro (⟨mem, -⟩ | -)
      · exact absurd (congrArg Prod.fst (List.mem_singleton.1 mem)).symm h
      · rfl
    · rintro rfl
      exact .absent (by simpa using Ne.symm h)

/-- The entries of a table count one after the other. -/
theorem gives_cons {other : String} {v : Value} (hother : other ∉ entries.map Prod.fst) :
    Gives reads ((other, v) :: entries) key otherwise given ↔
      ∃ o, Gives reads [(other, v)] key otherwise o ∧ Gives reads entries key o given := by
  constructor
  · rintro (⟨mem, hreads⟩ | hkey)
    · rcases List.mem_cons.1 mem with heq | mem
      · cases heq
        exact ⟨_, .value (List.mem_singleton_self _) hreads, .absent hother⟩
      · have hne : key ≠ other := fun he => hother (he ▸ List.mem_map_of_mem mem)
        exact ⟨_, .absent (by simpa using hne), .value mem hreads⟩
    · rw [List.map_cons, List.mem_cons, not_or] at hkey
      exact ⟨_, .absent (by simpa using hkey.1), .absent hkey.2⟩
  · rintro ⟨o, hfirst, hrest⟩
    cases hrest with
    | value mem hreads => exact .value (.tail _ mem) hreads
    | absent hkey =>
      cases hfirst with
      | value mem hreads =>
        cases List.mem_singleton.1 mem
        exact .value (.head _) hreads
      | absent hne => exact .absent (by simpa using ⟨by simpa using hne, by simpa using hkey⟩)

end

/-! ## Reading values -/

namespace Config

/-- A value denotes a mode by its name, or as a table with the name as its only key and nothing
under it. -/
inductive DenotesMode : Value → Overwrite → Prop
  | name (mode : Overwrite) : DenotesMode (.string mode.name) mode
  | emptyTable (mode : Overwrite) : DenotesMode (.table [(mode.name, .table [])]) mode
  | emptyArray (mode : Overwrite) : DenotesMode (.table [(mode.name, .array [])]) mode

theorem readString_eq_ok {v : Value} {s : String} : readString v = .ok s ↔ v = .string s := by
  cases v <;> simp [readString]

theorem readBool_eq_ok {v : Value} {b : Bool} : readBool v = .ok b ↔ v = .boolean b := by
  cases v <;> simp [readBool]

theorem ofName?_eq_some {name : String} {mode : Overwrite} :
    Overwrite.ofName? name = some mode ↔ name = mode.name := by
  constructor
  · intro h
    simpa [eq_comm] using List.find?_some h
  · rintro rfl
    cases mode <;> decide

theorem readVariant_eq_ok {name : String} {mode : Overwrite} :
    readVariant name = .ok mode ↔ name = mode.name := by
  rw [← ofName?_eq_some, readVariant]
  cases Overwrite.ofName? name <;> simp

theorem readOverwrite_eq_ok {v : Value} {mode : Overwrite} :
    readOverwrite v = .ok mode ↔ DenotesMode v mode := by
  constructor
  · intro h
    unfold readOverwrite at h
    split at h
    · rw [readVariant_eq_ok] at h
      subst h
      exact .name mode
    · obtain ⟨mode', hmode, hcontent⟩ := bind_eq_ok.1 h
      rw [readVariant_eq_ok] at hmode
      subst hmode
      split at hcontent <;> cases hcontent
      · exact .emptyArray mode
      · exact .emptyTable mode
    · cases h
    · cases h
  · rintro (_ | _ | _)
    · exact readVariant_eq_ok.2 rfl
    · exact bind_eq_ok.2 ⟨mode, readVariant_eq_ok.2 rfl, rfl⟩
    · exact bind_eq_ok.2 ⟨mode, readVariant_eq_ok.2 rfl, rfl⟩

/-! ## Taking over entries -/

/-- The configuration `c'` has what the table gives, and `c` what it leaves open. -/
@[mk_iff]
structure Updates (entries : List (String × Value)) (c c' : Config) : Prop where
  stack : Gives (fun v s => v = .string s) entries "stack" c.stack c'.stack
  project : Gives (fun v s => v = .string s) entries "project" c.project c'.project
  output : Gives (fun v s => v = .string s) entries "output" c.output c'.output
  validators : Gives (fun v b => v = .boolean b) entries "validators" c.validators c'.validators
  overwrite : Gives DenotesMode entries "overwrite" c.overwrite c'.overwrite

theorem set_eq_ok {c c' : Config} {key : String} {v : Value} :
    c.set key v = .ok c' ↔ key ∈ knownKeys ∧ Updates [(key, v)] c c' := by
  have hpure : ∀ c₁ : Config, (pure c₁ : Except ConfigFault Config) = .ok c' ↔ c₁ = c' := by
    simp [pure, Except.pure]
  rw [updates_iff]
  simp only [gives_singleton]
  cases c'
  unfold set
  split
  -- The last case is that of an unknown key.
  case h_6 =>
    simp_all [knownKeys]
  all_goals
    simp only [bind_eq_ok, readString_eq_ok, readBool_eq_ok, readOverwrite_eq_ok, hpure]
    grind [knownKeys]

theorem updates_nil {c c' : Config} : Updates [] c c' ↔ c' = c := by
  rw [updates_iff]
  simp only [gives_nil]
  constructor
  · rintro ⟨hstack, hproject, houtput, hvalidators, hoverwrite⟩
    cases c
    cases c'
    simp_all
  · rintro rfl
    exact ⟨rfl, rfl, rfl, rfl, rfl⟩

theorem updates_cons {c c' : Config} {key : String} {v : Value} {entries : List (String × Value)}
    (hkey : key ∉ entries.map Prod.fst) :
    Updates ((key, v) :: entries) c c' ↔ ∃ c₁, Updates [(key, v)] c c₁ ∧ Updates entries c₁ c' := by
  constructor
  · rintro ⟨hstack, hproject, houtput, hvalidators, hoverwrite⟩
    obtain ⟨stack, hstack, hstack'⟩ := (gives_cons hkey).1 hstack
    obtain ⟨project, hproject, hproject'⟩ := (gives_cons hkey).1 hproject
    obtain ⟨output, houtput, houtput'⟩ := (gives_cons hkey).1 houtput
    obtain ⟨validators, hvalidators, hvalidators'⟩ := (gives_cons hkey).1 hvalidators
    obtain ⟨overwrite, hoverwrite, hoverwrite'⟩ := (gives_cons hkey).1 hoverwrite
    exact ⟨⟨stack, project, output, validators, overwrite⟩,
      ⟨hstack, hproject, houtput, hvalidators, hoverwrite⟩,
      ⟨hstack', hproject', houtput', hvalidators', hoverwrite'⟩⟩
  · rintro ⟨c₁, h, h'⟩
    exact ⟨(gives_cons hkey).2 ⟨_, h.stack, h'.stack⟩,
      (gives_cons hkey).2 ⟨_, h.project, h'.project⟩, (gives_cons hkey).2 ⟨_, h.output, h'.output⟩,
      (gives_cons hkey).2 ⟨_, h.validators, h'.validators⟩,
      (gives_cons hkey).2 ⟨_, h.overwrite, h'.overwrite⟩⟩

theorem Updates.perm {c c' : Config} {entries entries' : List (String × Value)}
    (hperm : entries.Perm entries') (h : Updates entries c c') : Updates entries' c c' :=
  ⟨h.stack.perm hperm, h.project.perm hperm, h.output.perm hperm, h.validators.perm hperm,
    h.overwrite.perm hperm⟩

/-- Entries are taken over exactly if all their keys are known and all their values read; the order
is no matter. -/
theorem setAll_eq_ok {c c' : Config} {entries : List (String × Value)}
    (hkeys : (entries.map Prod.fst).Nodup) : c.setAll entries = .ok c' ↔
      (∀ e ∈ entries, e.1 ∈ knownKeys) ∧ Updates entries c c' := by
  induction entries generalizing c with
  | nil =>
    rw [updates_nil, setAll]
    simp [eq_comm]
  | cons e entries ih =>
    obtain ⟨key, v⟩ := e
    obtain ⟨hkey, hkeys⟩ := List.nodup_cons.1 hkeys
    rw [setAll, bind_eq_ok, updates_cons hkey, List.forall_mem_cons]
    simp only [set_eq_ok, ih hkeys]
    constructor
    · rintro ⟨c₁, ⟨hknown, hfirst⟩, hall, hrest⟩
      exact ⟨⟨hknown, hall⟩, c₁, hfirst, hrest⟩
    · rintro ⟨⟨hknown, hall⟩, c₁, hfirst, hrest⟩
      exact ⟨c₁, ⟨hknown, hfirst⟩, hall, hrest⟩

theorem sorted_perm (entries : List (String × Value)) : (sorted entries).Perm entries :=
  List.mergeSort_perm entries _

theorem setAll_sorted_eq_ok {c c' : Config} {entries : List (String × Value)}
    (hkeys : (entries.map Prod.fst).Nodup) : c.setAll (sorted entries) = .ok c' ↔
      (∀ e ∈ entries, e.1 ∈ knownKeys) ∧ Updates entries c c' := by
  have hperm := sorted_perm entries
  rw [setAll_eq_ok ((hperm.map _).nodup_iff.2 hkeys)]
  constructor
  · exact fun ⟨hknown, h⟩ => ⟨fun e he => hknown e (hperm.mem_iff.2 he), h.perm hperm⟩
  · exact fun ⟨hknown, h⟩ => ⟨fun e he => hknown e (hperm.mem_iff.1 he), h.perm hperm.symm⟩

theorem nodup_map_fst_zip {keys : List String} {values : List Value} (h : keys.Nodup) :
    ((keys.zip values).map Prod.fst).Nodup := by
  induction keys generalizing values with
  | nil => exact .nil
  | cons key keys ih =>
    obtain ⟨hkey, hkeys⟩ := List.nodup_cons.1 h
    cases values with
    | nil => exact .nil
    | cons v values =>
      refine List.nodup_cons.2 ⟨fun hmem => ?_, ih hkeys⟩
      obtain ⟨e, he, rfl⟩ := List.mem_map.1 hmem
      exact hkey (List.of_mem_zip he).1

theorem setAll_zip_eq_ok {c c' : Config} {values : List Value} :
    c.setAll (knownKeys.zip values) = .ok c' ↔ Updates (knownKeys.zip values) c c' := by
  rw [setAll_eq_ok (nodup_map_fst_zip (by decide))]
  exact and_iff_right fun e he => (List.of_mem_zip he).1

/-! ## Documents -/

/-- The document gives the configuration and nothing else: it is empty, or its only key is
`defaults`, with a table of known keys or an array of values in the order of the known keys. -/
inductive StatedBy : Config → Document → Prop
  | nothing : StatedBy {} []
  | table {c : Config} {entries : List (String × Value)} (known : ∀ e ∈ entries, e.1 ∈ knownKeys)
      (updates : Updates entries {} c) : StatedBy c [("defaults", .table entries)]
  | array {c : Config} {values : List Value} (updates : Updates (knownKeys.zip values) {} c) :
      StatedBy c [("defaults", .array values)]

theorem readDefaults_eq_ok {c : Config} {v : Value} (hv : v.Distinct) :
    readDefaults v = .ok c ↔ c.StatedBy [("defaults", v)] := by
  constructor
  · intro h
    unfold readDefaults at h
    split at h
    · obtain ⟨hknown, hupdates⟩ := (setAll_sorted_eq_ok (Value.distinct_table_iff.1 hv).keys).1 h
      exact .table hknown hupdates
    · exact .array (setAll_zip_eq_ok.1 h)
    · cases h
    · cases h
  · intro h
    cases h with
    | table known updates =>
      exact (setAll_sorted_eq_ok (Value.distinct_table_iff.1 hv).keys).2 ⟨known, updates⟩
    | array updates => exact setAll_zip_eq_ok.2 updates

theorem ofEntries_eq_ok {c c' : Config} {entries : List (String × Value)}
    (hkeys : (entries.map Prod.fst).Nodup) : c.ofEntries entries = .ok c' ↔
      entries = [] ∧ c = c' ∨ ∃ v, entries = [("defaults", v)] ∧ readDefaults v = .ok c' := by
  match entries with
  | [] => simp [ofEntries]
  | [(key, v)] =>
    by_cases hkey : key = "defaults"
    · simp [ofEntries, hkey, bind_eq_ok]
    · simp [ofEntries, hkey]
  | (key, v) :: (key', v') :: rest =>
    -- One of the two keys is unknown, since they differ.
    have hne : key ≠ key' := fun he => (List.nodup_cons.1 hkeys).1 (he ▸ .head _)
    by_cases hkey : key = "defaults"
    · have hkey' : key' ≠ "defaults" := hkey ▸ hne.symm
      simp [ofEntries, hkey, hkey', bind_eq_ok]
    · simp [ofEntries, hkey]

theorem ofDocument_eq_ok {c : Config} {d : Document} (hd : DistinctBy Value.Distinct d) :
    ofDocument d = .ok c ↔ c.StatedBy d := by
  have hperm := sorted_perm d
  rw [ofDocument, ofEntries_eq_ok ((hperm.map _).nodup_iff.2 hd.keys)]
  constructor
  · rintro (⟨hd', rfl⟩ | ⟨v, hd', h⟩)
    · rw [hd', List.nil_perm] at hperm
      subst hperm
      exact .nothing
    · rw [hd', List.singleton_perm] at hperm
      subst hperm
      exact (readDefaults_eq_ok (hd.values _ (List.mem_singleton_self _))).1 h
  · intro h
    have hdefaults : ∀ v, d = [("defaults", v)] → sorted d = [("defaults", v)] ∧
        readDefaults v = .ok c := by
      rintro v rfl
      exact ⟨List.perm_singleton.1 hperm,
        (readDefaults_eq_ok (hd.values _ (List.mem_singleton_self _))).2 h⟩
    cases h with
    | nothing => exact .inl ⟨List.perm_nil.1 hperm, rfl⟩
    | table => exact .inr ⟨_, hdefaults _ rfl⟩
    | array => exact .inr ⟨_, hdefaults _ rfl⟩

/-! ## Faults -/

/-- The value cannot be under the key. -/
inductive WrongValue : String → Value → Prop
  | notString {key : String} {v : Value} (key_mem : key ∈ ["stack", "project", "output"])
      (h : ∀ s, v ≠ .string s) : WrongValue key v
  | notBoolean {v : Value} (h : ∀ b, v ≠ .boolean b) : WrongValue "validators" v
  | notAName {name : String} (h : ∀ mode : Overwrite, name ≠ mode.name) :
      WrongValue "overwrite" (.string name)
  | notAChoice {v : Value} (string : ∀ name, v ≠ .string name)
      (table : ∀ entries, v ≠ .table entries) : WrongValue "overwrite" v

/-- The document holds something that no configuration has. -/
inductive Faulty (d : Document) : Prop
  | unknownKey {key : String} {v : Value} (mem : (key, v) ∈ d) (h : key ≠ "defaults") : Faulty d
  | unknownDefault {entries : List (String × Value)} {key : String} {v : Value}
      (mem : ("defaults", .table entries) ∈ d) (inner : (key, v) ∈ entries) (h : key ∉ knownKeys) :
      Faulty d
  | wrongValue {entries : List (String × Value)} {key : String} {v : Value}
      (mem : ("defaults", .table entries) ∈ d) (inner : (key, v) ∈ entries)
      (h : WrongValue key v) : Faulty d

section
variable {c : Config} {d : Document}

theorem StatedBy.of_table {entries : List (String × Value)} (h : c.StatedBy d)
    (hmem : ("defaults", .table entries) ∈ d) :
    (∀ e ∈ entries, e.1 ∈ knownKeys) ∧ Updates entries {} c := by
  cases h with
  | nothing => cases hmem
  | table known updates =>
    cases List.mem_singleton.1 hmem
    exact ⟨known, updates⟩
  | array => cases List.mem_singleton.1 hmem

theorem StatedBy.key_eq {e : String × Value} (h : c.StatedBy d) (hmem : e ∈ d) :
    e.1 = "defaults" := by
  cases h with
  | nothing => cases hmem
  | table | array => rw [List.mem_singleton.1 hmem]

theorem Updates.not_wrongValue {entries : List (String × Value)} {c' : Config} {key : String}
    {v : Value} (h : Updates entries c c') (hkeys : (entries.map Prod.fst).Nodup)
    (hmem : (key, v) ∈ entries) : ¬ WrongValue key v := by
  intro hwrong
  cases hwrong with
  | notString key_mem hv =>
    simp only [List.mem_cons, List.not_mem_nil, or_false] at key_mem
    rcases key_mem with rfl | rfl | rfl
    · obtain ⟨s, heq, -⟩ := h.stack.reads_of_mem hkeys hmem
      exact hv s heq
    · obtain ⟨s, heq, -⟩ := h.project.reads_of_mem hkeys hmem
      exact hv s heq
    · obtain ⟨s, heq, -⟩ := h.output.reads_of_mem hkeys hmem
      exact hv s heq
  | notBoolean hv =>
    obtain ⟨b, heq, -⟩ := h.validators.reads_of_mem hkeys hmem
    exact hv b heq
  | notAName hname =>
    obtain ⟨mode, hmode, -⟩ := h.overwrite.reads_of_mem hkeys hmem
    cases hmode with
    | name => exact hname mode rfl
  | notAChoice hstring htable =>
    obtain ⟨mode, hmode, -⟩ := h.overwrite.reads_of_mem hkeys hmem
    cases hmode with
    | name => exact hstring _ rfl
    | emptyTable | emptyArray => exact htable _ rfl

theorem StatedBy.not_faulty (hd : DistinctBy Value.Distinct d) (h : c.StatedBy d) :
    ¬ Faulty d := by
  rintro (⟨hmem, hkey⟩ | ⟨hmem, hinner, hkey⟩ | ⟨hmem, hinner, hwrong⟩)
  · exact hkey (h.key_eq hmem)
  · exact hkey ((h.of_table hmem).1 _ hinner)
  · have hkeys := (Value.distinct_table_iff.1 (hd.values _ hmem)).keys
    exact (h.of_table hmem).2.not_wrongValue hkeys hinner hwrong

end

/-- The result accepts exactly what the document states: a fault anywhere in the document leads to
an error, and a table gives each of the five values or leaves it open. -/
structure ReadsWhole {ε : Type} (d : Document) (result : Except ε Config) : Prop where
  accepted : ∀ c, result = .ok c ↔ c.StatedBy d
  faulty : Faulty d → ∃ e, result = .error e
  stated : ∀ c entries, result = .ok c → ("defaults", .table entries) ∈ d → Updates entries {} c

theorem readsWhole_of_iff {ε : Type} {d : Document} {result : Except ε Config}
    (hd : DistinctBy Value.Distinct d) (h : ∀ c, result = .ok c ↔ c.StatedBy d) :
    ReadsWhole d result where
  accepted := h
  faulty hfault := by
    cases hresult : result with
    | error e => exact ⟨e, rfl⟩
    | ok c => exact absurd hfault (((h c).1 hresult).not_faulty hd)
  stated c _ hresult hmem := (((h c).1 hresult).of_table hmem).2

/-! ## Files -/

/-- The configuration is looked up in this file, which has this text. -/
inductive Source (disk : Disk) : Option String → String → String → Prop
  | named {path text : String} (h : disk.read path = .ok text) : Source disk (some path) path text
  | standard {text : String} (h : disk.read configFile = .ok text) :
      Source disk none configFile text

theorem load_of_source {disk : Disk} {path? : Option String} {file text : String}
    (h : Source disk path? file text) : load disk path? = parse file text := by
  cases h with
  | named h => rw [load, ofFile, h]
  | standard h => rw [load, if_pos (Disk.exists?_of_read h), ofFile, h]

theorem parse_eq_ok {file text : String} {d : Document} (hd : Toml.parse? text = some d)
    {c : Config} : parse file text = .ok c ↔ ofDocument d = .ok c := by
  simp only [parse, hd]
  cases ofDocument d <;> simp

theorem code_of_parse_eq_error {file text : String} {e : ConfigError}
    (h : parse file text = .error e) : e.code = "modgen::config_parse" := by
  unfold parse at h
  split at h
  · cases h
    rfl
  · split at h
    · cases h
    · cases h
      split <;> rfl

end Config

end Scaffold
