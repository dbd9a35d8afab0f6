import Mathlib.Data.List.Nodup
import Scaffold.Toml.Document

/-!
# Documents with distinct keys

A document gives no key twice, in no table of it, however the table came about: by a header, by
dotted keys, as an element of an array or between braces. Each change of an unfinished table keeps
its keys distinct (`DistinctBy.put`, `DistinctBy.add`), so the changes that lines and entries make
keep those of all tables (`distinct_within`, `distinct_assign`); finishing a table keeps them
(`distinct_finish`); and what is read from any text has them (`distinct_parse`).
-/

set_option autoImplicit false

namespace Scaffold.Toml

/-- No key is given twice, and every value satisfies `P`. -/
structure DistinctBy {α : Type} (P : α → Prop) (entries : List (String × α)) : Prop where
  keys : (entries.map Prod.fst).Nodup
  values : ∀ e ∈ entries, P e.2

/-- The value holds no other values. -/
def Value.IsScalar : Value → Prop
  | .array _ | .table _ => False
  | _ => True

/-- No table in the value gives a key twice. -/
inductive Value.Distinct : Value → Prop
  | scalar {v : Value} (h : v.IsScalar) : Distinct v
  | array {items : List Value} (h : ∀ v ∈ items, Distinct v) : Distinct (.array items)
  | table {entries : List (String × Value)} (keys : (entries.map Prod.fst).Nodup)
      (values : ∀ e ∈ entries, Distinct e.2) : Distinct (.table entries)

/-- No table in what a key stands for gives a key twice. -/
inductive Item.Distinct : Item → Prop
  | value {v : Value} (h : v.Distinct) : Distinct (.value v)
  | table {origin : Origin} {entries : Entries} (keys : (entries.map Prod.fst).Nodup)
      (values : ∀ e ∈ entries, Distinct e.2) : Distinct (.table origin entries)
  | tables {done : List Entries} {last : Entries}
      (keys : ∀ entries ∈ done ++ [last], (entries.map Prod.fst).Nodup)
      (values : ∀ entries ∈ done ++ [last], ∀ e ∈ entries, Distinct e.2) :
      Distinct (.tables done last)

theorem Value.distinct_table_iff {entries : List (String × Value)} :
    (Value.table entries).Distinct ↔ DistinctBy Value.Distinct entries := by
  constructor
  · intro h
    cases h with
    | scalar h => exact h.elim
    | table keys values => exact ⟨keys, values⟩
  · exact fun h => .table h.keys h.values

theorem Item.distinct_table_iff {origin : Origin} {entries : Entries} :
    (Item.table origin entries).Distinct ↔ DistinctBy Item.Distinct entries := by
  constructor
  · intro h
    cases h with
    | table keys values => exact ⟨keys, values⟩
  · exact fun h => .table h.keys h.values

theorem Item.distinct_tables_iff {done : List Entries} {last : Entries} :
    (Item.tables done last).Distinct ↔
      ∀ entries ∈ done ++ [last], DistinctBy Item.Distinct entries := by
  constructor
  · intro h
    cases h with
    | tables keys values => exact fun entries he => ⟨keys entries he, values entries he⟩
  · exact fun h => .tables (fun entries he => (h entries he).keys) fun entries he =>
      (h entries he).values

/-! ## One table -/

namespace DistinctBy

theorem nil {α : Type} {P : α → Prop} : DistinctBy P [] := ⟨.nil, nofun⟩

theorem add {α : Type} {P : α → Prop} {entries : List (String × α)} (h : DistinctBy P entries)
    {key : String} {a : α} (hkey : key ∉ entries.map Prod.fst) (ha : P a) :
    DistinctBy P (entries ++ [(key, a)]) where
  keys := by
    rw [List.map_append, List.map_cons, List.map_nil, ← List.concat_eq_append]
    exact h.keys.concat hkey
  values e he := by
    rcases List.mem_append.1 he with he | he
    · exact h.values e he
    · rw [List.mem_singleton.1 he]
      exact ha

theorem lookup {α : Type} {P : α → Prop} {entries : List (String × α)} (h : DistinctBy P entries)
    {key : String} {a : α} (hl : entries.lookup key = some a) : P a := by
  obtain ⟨before, after, rfl, -⟩ := List.lookup_eq_some_iff.1 hl
  exact h.values (key, a) (by simp)

end DistinctBy

theorem not_mem_of_lookup_eq_none {α : Type} {entries : List (String × α)} {key : String}
    (h : entries.lookup key = none) : key ∉ entries.map Prod.fst := by
  intro hmem
  obtain ⟨e, he, rfl⟩ := List.mem_map.1 hmem
  simpa using List.lookup_eq_none_iff.1 h e he

theorem map_fst_put (key : String) (item : Item) (entries : Entries) :
    (entries.put key item).map Prod.fst =
      if key ∈ entries.map Prod.fst then entries.map Prod.fst
      else entries.map Prod.fst ++ [key] := by
  induction entries with
  | nil => rfl
  | cons e rest ih =>
    obtain ⟨other, old⟩ := e
    unfold Entries.put
    by_cases h : other = key
    · simp [h]
    · rw [if_neg h, List.map_cons, ih, List.map_cons]
      by_cases hmem : key ∈ rest.map Prod.fst
      · rw [if_pos hmem, if_pos (.tail _ hmem)]
      · rw [if_neg hmem, if_neg (by simpa [Ne.symm h] using hmem)]
        rfl

theorem mem_put {key : String} {item : Item} {entries : Entries} {e : String × Item}
    (h : e ∈ entries.put key item) : e = (key, item) ∨ e ∈ entries := by
  induction entries with
  | nil => exact .inl (List.mem_singleton.1 h)
  | cons other rest ih =>
    obtain ⟨other, old⟩ := other
    unfold Entries.put at h
    split at h
    · exact (List.mem_cons.1 h).imp_right (.tail _)
    · rcases List.mem_cons.1 h with rfl | h
      · exact .inr (.head _)
      · exact (ih h).imp_right (.tail _)

theorem DistinctBy.put {entries : Entries} (h : DistinctBy Item.Distinct entries) (key : String)
    {item : Item} (hitem : item.Distinct) : DistinctBy Item.Distinct (entries.put key item) where
  keys := by
    rw [map_fst_put]
    split
    · exact h.keys
    · rename_i hkey
      rw [← List.concat_eq_append]
      exact h.keys.concat hkey
  values e he := by
    rcases mem_put he with rfl | he
    · exact hitem
    · exact h.values e he

section
variable {entries : Entries} (h : DistinctBy Item.Distinct entries) {key : String}
include h

theorem DistinctBy.put_table {origin : Origin} {inner : Entries}
    (hinner : DistinctBy Item.Distinct inner) :
    DistinctBy Item.Distinct (entries.put key (.table origin inner)) :=
  h.put key (Item.distinct_table_iff.2 hinner)

theorem DistinctBy.of_lookup_table {origin : Origin} {inner : Entries}
    (hl : entries.lookup key = some (.table origin inner)) : DistinctBy Item.Distinct inner :=
  Item.distinct_table_iff.1 (h.lookup hl)

theorem DistinctBy.of_lookup_tables {done : List Entries} {last : Entries}
    (hl : entries.lookup key = some (.tables done last)) : DistinctBy Item.Distinct last :=
  Item.distinct_tables_iff.1 (h.lookup hl) last (by simp)

/-- The last table of an array can be replaced. -/
theorem DistinctBy.put_last {done : List Entries} {last last' : Entries}
    (hl : entries.lookup key = some (.tables done last))
    (hlast' : DistinctBy Item.Distinct last') :
    DistinctBy Item.Distinct (entries.put key (.tables done last')) := by
  have hdone := (List.forall_mem_append.1 (Item.distinct_tables_iff.1 (h.lookup hl))).1
  exact h.put key (Item.distinct_tables_iff.2
    (List.forall_mem_append.2 ⟨hdone, List.forall_mem_singleton.2 hlast'⟩))

end

/-! ## Changes of a document -/

/-- The change keeps keys distinct. -/
def KeepsDistinct (change : Entries → Option Entries) : Prop :=
  ∀ {entries entries' : Entries}, DistinctBy Item.Distinct entries →
    change entries = some entries' → DistinctBy Item.Distinct entries'

theorem keepsDistinct_within {change : Entries → Option Entries} (hchange : KeepsDistinct change)
    (path : List String) : KeepsDistinct (Entries.within? change path) := by
  intro entries entries' h hw
  induction path generalizing entries entries' with
  | nil => exact hchange h hw
  | cons key path ih =>
    unfold Entries.within? at hw
    split at hw
    · obtain ⟨inner, hinner, heq⟩ := Option.bind_eq_some_iff.1 hw
      cases heq
      exact h.put_table (ih .nil hinner)
    · rename_i origin inner hl
      obtain ⟨inner', hinner, heq⟩ := Option.bind_eq_some_iff.1 hw
      cases heq
      exact h.put_table (ih (h.of_lookup_table hl) hinner)
    · rename_i done last hl
      obtain ⟨last', hlast, heq⟩ := Option.bind_eq_some_iff.1 hw
      cases heq
      exact h.put_last hl (ih (h.of_lookup_tables hl) hlast)
    · cases hw

theorem keepsDistinct_openTable (key : String) : KeepsDistinct (Entries.openTable? key) := by
  intro entries entries' h ho
  unfold Entries.openTable? at ho
  split at ho
  · cases ho
    exact h.put_table .nil
  · rename_i inner hl
    cases ho
    exact h.put_table (h.of_lookup_table hl)
  · cases ho

theorem keepsDistinct_openElement (key : String) : KeepsDistinct (Entries.openElement? key) := by
  intro entries entries' h ho
  unfold Entries.openElement? at ho
  split at ho
  · cases ho
    exact h.put key (Item.distinct_tables_iff.2 (List.forall_mem_singleton.2 .nil))
  · rename_i done last hl
    cases ho
    have hold := Item.distinct_tables_iff.1 (h.lookup hl)
    exact h.put key (Item.distinct_tables_iff.2
      (List.forall_mem_append.2 ⟨hold, List.forall_mem_singleton.2 .nil⟩))
  · cases ho

theorem keepsDistinct_assign {item : Item} (hitem : item.Distinct) (origin : Origin)
    (path : List String) : KeepsDistinct (Entries.assign? item origin path) := by
  intro entries entries' h ha
  fun_induction Entries.assign? item origin path entries generalizing entries' with
  | case1 | case2 => cases ha
  | case3 key entries origin horigin =>
    unfold Entries.add? at ha
    split at ha
    · rename_i hl
      cases ha
      exact h.add (not_mem_of_lookup_eq_none hl) hitem
    · cases ha
  | case4 origin key path entries hpath hl ih =>
    obtain ⟨inner, hinner, heq⟩ := Option.bind_eq_some_iff.1 ha
    cases heq
    exact h.put_table (ih .nil hinner)
  | case5 | case8 => cases ha
  | case6 _ key path entries _ origin inner _ hl ih =>
    obtain ⟨inner', hinner, heq⟩ := Option.bind_eq_some_iff.1 ha
    cases heq
    exact h.put_table (ih (h.of_lookup_table hl) hinner)
  | case7 _ key path entries _ done last hl ih =>
    obtain ⟨last', hlast, heq⟩ := Option.bind_eq_some_iff.1 ha
    cases heq
    exact h.put_last hl (ih (h.of_lookup_tables hl) hlast)

/-! ## Finished tables -/

theorem map_fst_finishEntries (entries : Entries) :
    (finishEntries entries).map Prod.fst = entries.map Prod.fst := by
  induction entries with
  | nil => rfl
  | cons e rest ih => rw [finishEntries, List.map_cons, ih, List.map_cons]

mutual

theorem distinct_finish : ∀ {item : Item}, item.Distinct → item.finish.Distinct
  | .value v, h => by
    cases h with
    | value h => exact h
  | .table origin entries, h =>
    Value.distinct_table_iff.2 (distinct_finishEntries (Item.distinct_table_iff.1 h))
  | .tables done last, h => by
    have hall := List.forall_mem_append.1 (Item.distinct_tables_iff.1 h)
    refine .array (List.forall_mem_append.2 ⟨distinct_finishTables hall.1, ?_⟩)
    exact List.forall_mem_singleton.2
      (Value.distinct_table_iff.2 (distinct_finishEntries (List.forall_mem_singleton.1 hall.2)))

theorem distinct_finishEntries : ∀ {entries : Entries}, DistinctBy Item.Distinct entries →
    DistinctBy Value.Distinct (finishEntries entries)
  | [], _ => .nil
  | (key, item) :: rest, h => by
    obtain ⟨hitem, hvalues⟩ := List.forall_mem_cons.1 h.values
    have hrest := distinct_finishEntries ⟨(List.nodup_cons.1 h.keys).2, hvalues⟩
    refine ⟨by rw [map_fst_finishEntries]; exact h.keys, ?_⟩
    exact List.forall_mem_cons.2 ⟨distinct_finish hitem, hrest.values⟩

theorem distinct_finishTables : ∀ {tables : List Entries},
    (∀ entries ∈ tables, DistinctBy Item.Distinct entries) →
      ∀ v ∈ finishTables tables, v.Distinct
  | [], _ => nofun
  | entries :: rest, h => by
    obtain ⟨hentries, hrest⟩ := List.forall_mem_cons.1 h
    exact List.forall_mem_cons.2
      ⟨Value.distinct_table_iff.2 (distinct_finishEntries hentries), distinct_finishTables hrest⟩

end

/-! ## Values without tables -/

section
variable {v : Value}

theorem isScalar_ofInt (n : Int) : (Value.ofInt n).IsScalar := by
  unfold Value.ofInt
  split <;> trivial

theorem isScalar_ofDecimal (negative : Bool) (d : Decimal) :
    (Value.ofDecimal negative d).IsScalar := by
  unfold Value.ofDecimal
  split <;> trivial

theorem isScalar_radixInteger {base : Nat} {isDigit : Char → Bool} {run : List Char}
    (h : radixInteger? base isDigit run = some v) : v.IsScalar := by
  unfold radixInteger? at h
  split at h
  · cases h
    trivial
  · obtain ⟨digits, -, rfl⟩ := Option.map_eq_some_iff.1 h
    exact isScalar_ofInt _

theorem isScalar_decimalInteger {sign : Option Bool} {run : List Char}
    (h : decimalInteger? sign run = some v) : v.IsScalar := by
  unfold decimalInteger? at h
  split at h
  · cases h
  · extract_lets begins at h
    split at h
    · split at h
      · cases h
        exact isScalar_ofInt _
      · cases h
        trivial
    · cases h

theorem isScalar_float {sign : Option Bool} {run : List Char} (h : float? sign run = some v) :
    v.IsScalar := by
  unfold float? at h
  obtain ⟨whole, -, h⟩ := Option.bind_eq_some_iff.1 h
  split at h
  · obtain ⟨fraction, -, h⟩ := Option.bind_eq_some_iff.1 h
    obtain ⟨exponent, -, h⟩ := Option.bind_eq_some_iff.1 h
    cases h
    exact isScalar_ofDecimal _ _
  · obtain ⟨exponent, -, h⟩ := Option.bind_eq_some_iff.1 h
    cases h
    exact isScalar_ofDecimal _ _

theorem isScalar_number {token : List Char} (h : number? token = some v) : v.IsScalar := by
  unfold number? at h
  split at h
  · exact isScalar_radixInteger h
  · exact isScalar_radixInteger h
  · exact isScalar_radixInteger h
  · dsimp only at h
    split at h
    · cases h
      trivial
    · split at h
      · cases h
        trivial
      · split at h
        · exact isScalar_float h
        · exact isScalar_decimalInteger h

theorem isScalar_scalar {token : List Char} (h : scalar? token = some v) : v.IsScalar := by
  unfold scalar? at h
  split at h
  · cases h
    trivial
  · split at h
    · cases h
      trivial
    · split at h
      · cases h
        trivial
      · exact isScalar_number h

theorem isScalar_readScalar {s rest : List Char} (h : readScalar? s = some (v, rest)) :
    v.IsScalar := by
  obtain ⟨token, htoken⟩ : ∃ token, scalar? token = some v := by
    unfold readScalar? at h
    dsimp only at h
    split at h
    · split at h
      all_goals
        obtain ⟨v', hv', heq⟩ := Option.map_eq_some_iff.1 h
        cases heq
        exact ⟨_, hv'⟩
    · obtain ⟨v', hv', heq⟩ := Option.map_eq_some_iff.1 h
      cases heq
      exact ⟨_, hv'⟩
  exact isScalar_scalar htoken

end

/-! ## Reading -/

/-- What the readers of values, items and entries answer with this much fuel. -/
structure ReadsDistinct (fuel : Nat) : Prop where
  value : ∀ {depth : Nat} {s rest : List Char} {v : Value},
    value? fuel depth s = some (v, rest) → v.Distinct
  items : ∀ {depth : Nat} {s rest : List Char} {items : List Value},
    items? fuel depth s = some (items, rest) → ∀ v ∈ items, v.Distinct
  inline : ∀ {depth : Nat} {entries entries' : Entries} {s rest : List Char},
    DistinctBy Item.Distinct entries → inline? fuel depth entries s = some (entries', rest) →
      DistinctBy Item.Distinct entries'
  entry : ∀ {depth : Nat} {entries entries' : Entries} {s rest : List Char},
    DistinctBy Item.Distinct entries → entry? fuel depth entries s = some (entries', rest) →
      DistinctBy Item.Distinct entries'

namespace ReadsDistinct

variable {fuel depth : Nat} (ih : ReadsDistinct fuel) {entries entries' : Entries}
  {s rest : List Char}
include ih

theorem value_succ {v : Value} (h : value? (fuel + 1) depth s = some (v, rest)) : v.Distinct := by
  unfold value? at h
  split at h
  · cases h
  · cases h
  · obtain ⟨⟨items, s'⟩, hitems, heq⟩ := Option.bind_eq_some_iff.1 h
    cases heq
    exact .array (ih.items hitems)
  · obtain ⟨⟨entries, s'⟩, hentries, heq⟩ := Option.bind_eq_some_iff.1 h
    cases heq
    exact Value.distinct_table_iff.2 (distinct_finishEntries (ih.inline .nil hentries))
  · obtain ⟨⟨text, s'⟩, -, heq⟩ := Option.map_eq_some_iff.1 h
    cases heq
    exact .scalar trivial
  · obtain ⟨⟨text, s'⟩, -, heq⟩ := Option.map_eq_some_iff.1 h
    cases heq
    exact .scalar trivial
  · exact .scalar (isScalar_readScalar h)

theorem items_succ {items : List Value} (h : items? (fuel + 1) depth s = some (items, rest)) :
    ∀ v ∈ items, v.Distinct := by
  unfold items? at h
  obtain ⟨s', -, h⟩ := Option.bind_eq_some_iff.1 h
  split at h
  · cases h
    exact List.forall_mem_nil _
  · obtain ⟨⟨item, s'⟩, hitem, h⟩ := Option.bind_eq_some_iff.1 h
    dsimp only at h
    obtain ⟨s', -, h⟩ := Option.bind_eq_some_iff.1 h
    split at h
    · obtain ⟨⟨more, s'⟩, hmore, heq⟩ := Option.bind_eq_some_iff.1 h
      cases heq
      exact List.forall_mem_cons.2 ⟨ih.value hitem, ih.items hmore⟩
    · cases h
      exact List.forall_mem_singleton.2 (ih.value hitem)
    · cases h

theorem inline_succ (hentries : DistinctBy Item.Distinct entries)
    (h : inline? (fuel + 1) depth entries s = some (entries', rest)) :
    DistinctBy Item.Distinct entries' := by
  unfold inline? at h
  obtain ⟨s', -, h⟩ := Option.bind_eq_some_iff.1 h
  split at h
  · cases h
    exact hentries
  · obtain ⟨⟨one, s'⟩, hone, h⟩ := Option.bind_eq_some_iff.1 h
    dsimp only at h
    obtain ⟨s', -, h⟩ := Option.bind_eq_some_iff.1 h
    split at h
    · exact ih.inline (ih.entry hentries hone) h
    · cases h
      exact ih.entry hentries hone
    · cases h

theorem entry_succ (hentries : DistinctBy Item.Distinct entries)
    (h : entry? (fuel + 1) depth entries s = some (entries', rest)) :
    DistinctBy Item.Distinct entries' := by
  unfold entry? at h
  obtain ⟨⟨keys, s'⟩, -, h⟩ := Option.bind_eq_some_iff.1 h
  dsimp only at h
  obtain ⟨s', -, h⟩ := Option.bind_eq_some_iff.1 h
  obtain ⟨s', -, h⟩ := Option.bind_eq_some_iff.1 h
  obtain ⟨s', -, h⟩ := Option.bind_eq_some_iff.1 h
  obtain ⟨⟨v, s'⟩, hv, h⟩ := Option.bind_eq_some_iff.1 h
  dsimp only at h
  obtain ⟨more, hmore, heq⟩ := Option.bind_eq_some_iff.1 h
  cases heq
  exact keepsDistinct_assign (.value (ih.value hv)) .header keys hentries hmore

end ReadsDistinct

theorem readsDistinct (fuel : Nat) : ReadsDistinct fuel := by
  induction fuel with
  | zero => constructor <;> simp [value?, items?, inline?, entry?]
  | succ fuel ih => exact ⟨ih.value_succ, ih.items_succ, ih.inline_succ, ih.entry_succ⟩

theorem distinct_open {r r' : Reading} {element : Bool} {path : List String}
    (h : DistinctBy Item.Distinct r.entries) (ho : r.open? element path = some r') :
    DistinctBy Item.Distinct r'.entries := by
  unfold Reading.open? at ho
  obtain ⟨key, -, ho⟩ := Option.bind_eq_some_iff.1 ho
  dsimp only at ho
  obtain ⟨entries, hentries, heq⟩ := Option.bind_eq_some_iff.1 ho
  cases heq
  refine keepsDistinct_within ?_ path.dropLast h hentries
  split
  · exact keepsDistinct_openElement key
  · exact keepsDistinct_openTable key

section
variable {r r' : Reading} {s rest : List Char} (h : DistinctBy Item.Distinct r.entries)
include h

theorem distinct_header (hr : header? r s = some (r', rest)) :
    DistinctBy Item.Distinct r'.entries := by
  unfold header? at hr
  split at hr
  · obtain ⟨⟨path, s'⟩, -, hr⟩ := Option.bind_eq_some_iff.1 hr
    obtain ⟨opened, hopened, hr⟩ := Option.bind_eq_some_iff.1 hr
    obtain ⟨s', -, hr⟩ := Option.bind_eq_some_iff.1 hr
    obtain ⟨s', -, heq⟩ := Option.bind_eq_some_iff.1 hr
    cases heq
    exact distinct_open h hopened
  · obtain ⟨⟨path, s'⟩, -, hr⟩ := Option.bind_eq_some_iff.1 hr
    obtain ⟨opened, hopened, hr⟩ := Option.bind_eq_some_iff.1 hr
    obtain ⟨s', -, heq⟩ := Option.bind_eq_some_iff.1 hr
    cases heq
    exact distinct_open h hopened

theorem distinct_keyValue (hr : r.keyValue? s = some (r', rest)) :
    DistinctBy Item.Distinct r'.entries := by
  unfold Reading.keyValue? at hr
  obtain ⟨⟨keys, s'⟩, -, hr⟩ := Option.bind_eq_some_iff.1 hr
  obtain ⟨s', -, hr⟩ := Option.bind_eq_some_iff.1 hr
  obtain ⟨⟨v, s'⟩, hv, hr⟩ := Option.bind_eq_some_iff.1 hr
  obtain ⟨entries, hentries, heq⟩ := Option.bind_eq_some_iff.1 hr
  cases heq
  have hvalue : (Item.value v).Distinct := .value ((readsDistinct _).value hv)
  exact keepsDistinct_within (keepsDistinct_assign hvalue .header keys) r.current h hentries

theorem distinct_lines {fuel : Nat} (hr : lines? fuel r s = some r') :
    DistinctBy Item.Distinct r'.entries := by
  induction fuel generalizing r s with
  | zero => cases hr
  | succ fuel ih =>
    unfold lines? at hr
    obtain ⟨s', -, hr⟩ := Option.bind_eq_some_iff.1 hr
    split at hr
    · cases hr
      exact h
    · obtain ⟨⟨opened, s'⟩, hopened, hr⟩ := Option.bind_eq_some_iff.1 hr
      obtain ⟨s', -, hr⟩ := Option.bind_eq_some_iff.1 hr
      exact ih (distinct_header h hopened) hr
    · obtain ⟨⟨added, s'⟩, hadded, hr⟩ := Option.bind_eq_some_iff.1 hr
      obtain ⟨s', -, hr⟩ := Option.bind_eq_some_iff.1 hr
      exact ih (distinct_keyValue h hadded) hr

end

/-- A document that was read gives no key twice. -/
theorem distinct_parse {text : String} {d : Document} (h : parse? text = some d) :
    DistinctBy Value.Distinct d := by
  unfold parse? at h
  obtain ⟨r, hr, rfl⟩ := Option.map_eq_some_iff.1 h
  have hstart : DistinctBy Item.Distinct ({} : Reading).entries := .nil
  exact distinct_finishEntries (distinct_lines hstart hr)

end Scaffold.Toml
