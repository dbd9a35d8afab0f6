import Mathlib.Data.List.Nodup
import Scaffold.Proofs.PaginationRecovery
import Scaffold.Registry

/-!
# Registries over histories

What a registry answers is a matter of the generators that were registered, in order: the names are
those of their stacks, in the order of the first registrations, and each stack has the generator
that was registered last for it (`Registry.Serves`). One registration keeps this
(`Registry.Records.register`), so any number of them does, from any registry
(`Registry.serves_foldl`); it changes no answer for another stack (`Registry.get_register_of_ne`).
-/

set_option autoImplicit false

namespace Scaffold

/-- The generator that was registered last for a stack. -/
def latest? {γ : Type} [Codegen γ] (registered : List γ) (s : Stack) : Option γ :=
  (registered.filter (Codegen.stack · = s)).getLast?

theorem Stack.name_inj {s t : Stack} (h : s.name = t.name) : s = t := by
  cases s <;> cases t <;> first | rfl | exact absurd h (by decide)

section
variable {γ : Type} [Codegen γ]

theorem latest?_append (before after : List γ) (s : Stack) :
    latest? (before ++ after) s = (latest? after s).or (latest? before s) := by
  rw [latest?, List.filter_append, List.getLast?_append]
  rfl

theorem latest?_singleton (g : γ) (s : Stack) :
    latest? [g] s = if Codegen.stack g = s then some g else none := by
  unfold latest?
  by_cases h : Codegen.stack g = s <;> simp [h]

theorem latest?_eq_none_iff {registered : List γ} {s : Stack} :
    latest? registered s = none ↔ s ∉ registered.map Codegen.stack := by
  simp [latest?]

end

/-- The generation that a generator makes for a request. -/
def Codegen.generation {γ : Type} [Codegen γ] (q : Request) (g : γ) : Generation where
  stack := Codegen.stack g
  entity := .named q.name
  fields := Codegen.parseFields g q.fields
  artifacts := Codegen.artifacts g
    ⟨.named q.name, Codegen.parseFields g q.fields, q.project, q.options⟩

namespace Registry

section
variable {γ : Type} [Codegen γ]

/-! ## One registration -/

theorem map_stack_put (g : γ) (gs : List γ) :
    (put g gs).map Codegen.stack =
      if Codegen.stack g ∈ gs.map Codegen.stack then gs.map Codegen.stack
      else gs.map Codegen.stack ++ [Codegen.stack g] := by
  induction gs with
  | nil => rfl
  | cons other rest ih =>
    unfold put
    by_cases h : Codegen.stack other = Codegen.stack g
    · simp [h]
    · rw [if_neg h, List.map_cons, ih, List.map_cons]
      by_cases hmem : Codegen.stack g ∈ rest.map Codegen.stack
      · rw [if_pos hmem, if_pos (.tail _ hmem)]
      · rw [if_neg hmem, if_neg (by simpa [Ne.symm h] using hmem)]
        rfl

theorem find?_put (g : γ) (gs : List γ) (s : Stack) :
    (put g gs).find? (Codegen.stack · = s) =
      if Codegen.stack g = s then some g else gs.find? (Codegen.stack · = s) := by
  induction gs with
  | nil => by_cases h : Codegen.stack g = s <;> simp [put, h]
  | cons other rest ih =>
    unfold put
    by_cases h : Codegen.stack other = Codegen.stack g
    · rw [if_pos h]
      by_cases hs : Codegen.stack g = s <;> simp [h, hs]
    · rw [if_neg h]
      by_cases ho : Codegen.stack other = s
      · have hg : Codegen.stack g ≠ s := fun hg => h (ho.trans hg.symm)
        simp [ho, hg]
      · simp [ho, ih]

/-- The registry holds the generators that were registered, the last one for each stack, in the order
of the stacks. -/
structure Records (r : Registry γ) (registered : List γ) : Prop where
  map_stack : r.generators.map Codegen.stack = (registered.map Codegen.stack).eraseDups
  find?_eq : ∀ s, r.find? s = latest? registered s

theorem Records.register {r : Registry γ} {registered : List γ} (h : r.Records registered) (g : γ) :
    (r.register g).Records (registered ++ [g]) where
  map_stack := by
    rw [Registry.register, map_stack_put, h.map_stack, List.map_append, List.eraseDups_append]
    -- A stack that is there keeps its place, a new one goes to the end.
    by_cases hmem : Codegen.stack g ∈ registered.map Codegen.stack
    · rw [if_pos (List.mem_eraseDups.2 hmem)]
      simp_all [List.removeAll]
    · rw [if_neg (mt List.mem_eraseDups.1 hmem)]
      simp_all [List.removeAll, List.eraseDups_cons]
  find?_eq s := by
    rw [latest?_append, latest?_singleton, ← h.find?_eq]
    refine (find?_put g r.generators s).trans ?_
    split <;> rfl

theorem Records.foldl {r : Registry γ} {registered : List γ} (h : r.Records registered)
    (more : List γ) : (more.foldl Registry.register r).Records (registered ++ more) := by
  induction more generalizing r registered with
  | nil => simpa using h
  | cons g more ih =>
    rw [List.append_cons]
    exact ih (h.register g)

theorem eraseDups_of_nodup {order : List Stack} (h : order.Nodup) : order.eraseDups = order := by
  induction order with
  | nil => rfl
  | cons s rest ih =>
    obtain ⟨hs, hrest⟩ := List.nodup_cons.1 h
    have hfilter : rest.filter (fun t => !t == s) = rest :=
      List.filter_eq_self.2 fun t ht => by simpa using ne_of_mem_of_not_mem ht hs
    rw [List.eraseDups_cons, hfilter, ih hrest]

theorem find?_eq_latest? {gs : List γ} (h : (gs.map Codegen.stack).Nodup) (s : Stack) :
    gs.find? (Codegen.stack · = s) = latest? gs s := by
  induction gs with
  | nil => rfl
  | cons g rest ih =>
    obtain ⟨hg, hrest⟩ := List.nodup_cons.1 h
    rw [← List.singleton_append (l := rest), latest?_append, latest?_singleton, ← ih hrest]
    by_cases hs : Codegen.stack g = s
    · subst hs
      rw [ih hrest, latest?_eq_none_iff.2 hg]
      simp
    · simp [hs]

/-- A registry records its own generators. -/
theorem records_generators (r : Registry γ) : r.Records r.generators :=
  ⟨(eraseDups_of_nodup r.nodup).symm, find?_eq_latest? r.nodup⟩

/-! ## Answers -/

theorem get_eq_ok {r : Registry γ} {name : String} {g : γ} :
    r.get name = .ok g ↔ ∃ s, Stack.parse? name = some s ∧ r.find? s = some g := by
  unfold get
  cases hs : Stack.parse? name with
  | none => simp
  | some s => cases hg : r.find? s <;> simp [hg]

theorem get_eq_error {r : Registry γ} {name : String} {e : UnsupportedStack} :
    r.get name = .error e ↔
      (∀ s, Stack.parse? name = some s → r.find? s = none) ∧ e = ⟨name, r.names⟩ := by
  unfold get
  cases hs : Stack.parse? name with
  | none => simp [eq_comm]
  | some s => cases hg : r.find? s <;> simp [hg, eq_comm]

theorem run_eq (r : Registry γ) (q : Request) :
    r.run q = (r.get q.stack).map (Codegen.generation q) := by
  unfold run
  cases r.get q.stack <;> rfl

/-- A registration for another stack changes no generator; a failure lists the names as they are
then. -/
theorem get_register_of_ne (r : Registry γ) (g : γ) {name : String}
    (h : Stack.parse? name ≠ some (Codegen.stack g)) :
    (r.register g).get name =
      (r.get name).mapError fun e => { e with registered := (r.register g).names } := by
  have hfind : ∀ s, Stack.parse? name = some s → (r.register g).find? s = r.find? s := by
    intro s hs
    refine (find?_put g r.generators s).trans (if_neg ?_)
    rintro rfl
    exact h hs
  cases hr : r.get name with
  | ok g' =>
    obtain ⟨s, hs, hg'⟩ := get_eq_ok.1 hr
    exact get_eq_ok.2 ⟨s, hs, (hfind s hs).trans hg'⟩
  | error e =>
    obtain ⟨hnone, rfl⟩ := get_eq_error.1 hr
    exact get_eq_error.2 ⟨fun s hs => (hfind s hs).trans (hnone s hs), rfl⟩

theorem run_register_of_ne (r : Registry γ) (g : γ) {q : Request}
    (h : Stack.parse? q.stack ≠ some (Codegen.stack g)) :
    (r.register g).run q =
      (r.run q).mapError fun e => { e with registered := (r.register g).names } := by
  rw [run_eq, run_eq, get_register_of_ne r g h]
  cases r.get q.stack <;> rfl

/-- A registered generator is the one of its stack. -/
theorem find?_of_mem {r : Registry γ} {g : γ} (h : g ∈ r.generators) :
    r.find? (Codegen.stack g) = some g := by
  cases hfound : r.find? (Codegen.stack g) with
  | none =>
    have hother := List.find?_eq_none.1 hfound g h
    simp at hother
  | some g' =>
    have hstack : Codegen.stack g' = Codegen.stack g := by simpa using List.find?_some hfound
    rw [List.inj_on_of_nodup_map r.nodup (List.mem_of_find?_eq_some hfound) h hstack]

/-- The registry answers with the generators that were registered. -/
structure Serves (r : Registry γ) (registered : List γ) : Prop where
  /-- The names are in the order of the first registrations. -/
  names : r.names = (registered.map Codegen.stack).eraseDups.map Stack.name
  distinct : r.names.Nodup
  /-- In the same order, there is one generator for each stack, the last one registered for it. -/
  generators : r.generators.map some =
    (registered.map Codegen.stack).eraseDups.map (latest? registered)
  get_ok : ∀ name g, r.get name = .ok g ↔
    ∃ s, Stack.parse? name = some s ∧ latest? registered s = some g
  get_isOk : ∀ name, (∃ g, r.get name = .ok g) ↔
    ∃ s ∈ registered.map Codegen.stack, Stack.parse? name = some s
  /-- A failure keeps the text and lists the names. -/
  get_error : ∀ name e, r.get name = .error e →
    e.stack = name ∧ e.available = String.intercalate ", " r.names
  run : ∀ q, r.run q = (r.get q.stack).map (Codegen.generation q)

theorem Records.serves {r : Registry γ} {registered : List γ} (h : r.Records registered) :
    r.Serves registered where
  names := by
    rw [← h.map_stack, List.map_map]
    rfl
  distinct := by
    have hnames : r.names = (r.generators.map Codegen.stack).map Stack.name := by
      rw [List.map_map]
      rfl
    rw [hnames]
    exact List.pairwise_map.2 (r.nodup.imp fun hne heq => hne (Stack.name_inj heq))
  generators := by
    rw [← h.map_stack, List.map_map]
    refine List.map_congr_left fun g hg => ?_
    rw [Function.comp_apply, ← h.find?_eq, find?_of_mem hg]
  get_ok name g := by simp only [get_eq_ok, h.find?_eq]
  get_isOk name := by
    simp only [get_eq_ok, h.find?_eq]
    constructor
    · rintro ⟨g, s, hs, hg⟩
      refine ⟨s, ?_, hs⟩
      by_contra hmem
      rw [latest?_eq_none_iff.2 hmem] at hg
      cases hg
    · rintro ⟨s, hmem, hs⟩
      obtain ⟨g, hg⟩ := Option.ne_none_iff_exists'.1 fun h => latest?_eq_none_iff.1 h hmem
      exact ⟨g, s, hs, hg⟩
  get_error name e he := by
    obtain ⟨-, rfl⟩ := get_eq_error.1 he
    exact ⟨rfl, rfl⟩
  run := run_eq r

end

/-- How the registries of a type of generators come about. -/
structure Evolve (γ : Type) [Codegen γ] : Prop where
  /-- After any registrations a registry serves the generators of the start and then these. -/
  serves : ∀ (start : Registry γ) (more : List γ),
    (more.foldl register start).Serves (start.generators ++ more)
  generators_empty : (empty : Registry γ).generators = []
  /-- A registration for another stack leaves an answer as it is, but for the names that a failure
  lists. -/
  get_register : ∀ (r : Registry γ) (g : γ) (name : String),
    Stack.parse? name ≠ some (Codegen.stack g) →
    (r.register g).get name =
      (r.get name).mapError fun e => { e with registered := (r.register g).names }
  run_register : ∀ (r : Registry γ) (g : γ) (q : Request),
    Stack.parse? q.stack ≠ some (Codegen.stack g) →
    (r.register g).run q =
      (r.run q).mapError fun e => { e with registered := (r.register g).names }

/-- **Registries over whole histories.** From any registry, so from the empty one and from the
standard one, any registrations lead to a registry that serves the generators of the start and then
these, whatever type of generators it holds. A registration for another stack leaves an answer as it
is, but for the names that a failure lists. The pagination of the last generator shows in the
files: they are those of another pagination exactly if the two agree on what the stack writes. -/
theorem serves_foldl :
    (∀ (γ : Type) [Codegen γ], Evolve γ) ∧
    standard.generators = Stack.all.map (Generator.ofStack {}) ∧
    ∀ (start : Registry) (more : List Generator) (q : Request) (s : Stack) (p : Pagination),
      Stack.parse? q.stack = some s →
      latest? (start.generators ++ more) s = some (.ofStack p s) →
      ∃ g, (more.foldl register start).run q = .ok g ∧ ∀ p',
        g.artifacts = (Generator.ofStack p' s).artifacts
          ⟨.named q.name, s.parseFields q.fields, q.project, q.options⟩ ↔ p.AgreeFor p' s := by
  have hserves : ∀ (γ : Type) [Codegen γ] (start : Registry γ) (more : List γ),
      (more.foldl register start).Serves (start.generators ++ more) :=
    fun γ _ start more => ((records_generators start).foldl more).serves
  refine ⟨fun γ _ => ?_, by decide, ?_⟩
  · exact {
      serves := hserves γ
      generators_empty := rfl
      get_register := fun r g _ => get_register_of_ne r g
      run_register := fun r g _ => run_register_of_ne r g }
  · intro start more q s p hs hlatest
    have h := hserves Generator start more
    refine ⟨Codegen.generation q (Generator.ofStack p s), ?_, fun p' => ?_⟩
    · rw [h.run, (h.get_ok q.stack _).2 ⟨s, hs, hlatest⟩]
      rfl
    · have hstack : (Generator.ofStack p s).stack = s := by cases s <;> rfl
      have hfiles : (Codegen.generation q (Generator.ofStack p s)).artifacts =
          (Generator.ofStack p s).artifacts
            ⟨.named q.name, (Generator.ofStack p s).stack.parseFields q.fields, q.project,
              q.options⟩ := rfl
      rw [hfiles, hstack]
      exact Generator.artifacts_pagination_iff s p p' _

/-- On the standard registry, a later registration for Go is what an alias in other letters reaches,
its files are not those of the standard pagination, and Laravel keeps its generator. -/
theorem serves_foldl_golang :
    (∃ g, (([.react, .go { defaultPerPage := 50 }] : List Generator).foldl register standard).run
        ⟨" Golang ", "product", "name:string", "shop", {}⟩ = .ok g ∧
      g.artifacts ≠ (Generator.ofStack {} .go).artifacts
        ⟨.named "product", Stack.go.parseFields "name:string", "shop", {}⟩) ∧
    (standard.register (.go { defaultPerPage := 50 })).get "PHP" = .ok (.laravel {}) := by
  obtain ⟨hevolve, -, hfiles⟩ := serves_foldl
  constructor
  · obtain ⟨g, hrun, hiff⟩ := hfiles standard [.react, .go { defaultPerPage := 50 }]
      ⟨" Golang ", "product", "name:string", "shop", {}⟩ .go { defaultPerPage := 50 }
      (by decide +kernel) (by decide)
    have hne : ({ defaultPerPage := 50 } : Pagination) ≠ {} := by decide
    exact ⟨g, hrun, fun h => hne ((hiff {}).1 h)⟩
  · rw [(hevolve Generator).get_register standard (.go { defaultPerPage := 50 }) "PHP"
      (by decide +kernel)]
    decide +kernel

end Registry

end Scaffold
