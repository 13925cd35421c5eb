import ClientGen.Api.Selection
import ClientGen.Proofs.Table

/-!
# Reaching models through dependencies

The models a run keeps are those reached from the class names its services use, by
following each model's dependencies. `Reaches` gives the reached keys rule by rule;
`reach` finds them with a stack and a list of visited keys, the stack taken from its front.
The search computes exactly `Reaches` once its fuel covers every name it can still take
from the stack: those on it and the dependencies of the models not yet visited
(`mem_reach_iff`, `mem_reachable_iff`). Cycles, self-loops and names that key no model
are all allowed.
-/
namespace ClientGen.Selection

/-- The keys of the models reached from the keys `starts`: a start that keys a model, and
the key of every dependency of a reached model that keys a model. -/
inductive Reaches (models : Table Model) (starts : List String) : String → Prop
  | start {key : String} {m : Model} :
      key ∈ starts → models.get? key = some m → Reaches models starts key
  | dependency {key dep : String} {m next : Model} :
      Reaches models starts key → models.get? key = some m → dep ∈ m.dependencies →
      models.get? (Naming.modelKey dep) = some next →
      Reaches models starts (Naming.modelKey dep)

theorem Reaches.keyed {models : Table Model} {starts : List String} {key : String}
    (reached : Reaches models starts key) : ∃ m, models.get? key = some m := by
  cases reached with
  | start _ found => exact ⟨_, found⟩
  | dependency _ _ _ found => exact ⟨_, found⟩

/-- The number of dependencies of the models whose key is not visited. -/
def pendingDeps (models : Table Model) (visited : List String) : Nat :=
  ((models.filter fun e => !visited.contains e.1).map fun e =>
    e.2.dependencies.length).foldr (· + ·) 0

theorem pendingDeps_cons (e : String × Model) (rest : Table Model) (visited : List String) :
    pendingDeps (e :: rest) visited =
      (if visited.contains e.1 then 0 else e.2.dependencies.length) + pendingDeps rest visited := by
  by_cases old : e.1 ∈ visited <;> simp [pendingDeps, old]

theorem pendingDeps_visit_le (models : Table Model) (visited : List String) (key : String) :
    pendingDeps models (visited ++ [key]) ≤ pendingDeps models visited := by
  induction models with
  | nil => simp [pendingDeps]
  | cons e rest ih =>
    have stays : visited.contains e.1 = true → (visited ++ [key]).contains e.1 = true := by
      simp_all
    rw [pendingDeps_cons, pendingDeps_cons]
    by_cases old : visited.contains e.1 = true
    · rw [if_pos old, if_pos (stays old)]
      omega
    · rw [if_neg old]
      split <;> omega

/-- Visiting a model uses up at least its own dependencies. -/
theorem pendingDeps_visit (models : Table Model) (visited : List String) {key : String}
    {m : Model} (found : models.get? key = some m) (fresh : key ∉ visited) :
    m.dependencies.length + pendingDeps models (visited ++ [key]) ≤
      pendingDeps models visited := by
  induction models with
  | nil => cases found
  | cons e rest ih =>
    rw [Table.get?_cons] at found
    rw [pendingDeps_cons, pendingDeps_cons]
    by_cases here : e.1 = key
    · simp only [here, if_true, Option.some.injEq] at found
      subst found
      have other := pendingDeps_visit_le rest visited key
      have nowVisited : (visited ++ [key]).contains key = true := by simp
      have notBefore : visited.contains key = false := by simpa using fresh
      rw [here, if_pos nowVisited, notBefore]
      simp only [Bool.false_eq_true, if_false]
      omega
    · rw [if_neg here] at found
      have step := ih found
      have sameVisit : (visited ++ [key]).contains e.1 = visited.contains e.1 := by
        simp [here]
      rw [sameVisit]
      split <;> omega

/-- A key is accounted for once it is visited, on the stack, or keys no model. -/
def Covered (models : Table Model) (stack visited : List String) (key : String) : Prop :=
  key ∈ visited ∨ key ∈ stack ∨ models.get? key = none

/-- What holds at every step of the search from `starts`: what is visited or pushed is
reached, and every start and every dependency of a visited model is accounted for. -/
structure SearchInvariant (models : Table Model) (starts stack visited : List String) :
    Prop where
  visited_reached : ∀ key ∈ visited, Reaches models starts key
  stack_reached : ∀ key ∈ stack, ∀ m, models.get? key = some m → Reaches models starts key
  starts_covered : ∀ key ∈ starts, Covered models stack visited key
  deps_covered : ∀ key ∈ visited, ∀ m, models.get? key = some m →
    ∀ dep ∈ m.dependencies, Covered models stack visited (Naming.modelKey dep)

variable {models : Table Model} {starts : List String}

theorem searchInvariant_start : SearchInvariant models starts starts.reverse [] where
  visited_reached := by simp
  stack_reached key member _ found := .start (List.mem_reverse.mp member) found
  starts_covered key member := .inr (.inl (List.mem_reverse.mpr member))
  deps_covered := by simp

/-- Taking a key that is already visited, or keys no model, drops it. -/
theorem SearchInvariant.skip {key : String} {stack visited : List String}
    (inv : SearchInvariant models starts (key :: stack) visited)
    (settled : key ∈ visited ∨ models.get? key = none) :
    SearchInvariant models starts stack visited := by
  have keep : ∀ k, Covered models (key :: stack) visited k → Covered models stack visited k := by
    rintro k (old | pushed | absent)
    · exact .inl old
    · rcases List.mem_cons.mp pushed with rfl | below
      · rcases settled with old | absent
        · exact .inl old
        · exact .inr (.inr absent)
      · exact .inr (.inl below)
    · exact .inr (.inr absent)
  exact {
    visited_reached := inv.visited_reached
    stack_reached := fun k member => inv.stack_reached k (List.mem_cons_of_mem key member)
    starts_covered := fun k member => keep k (inv.starts_covered k member)
    deps_covered := fun k member m found dep listed =>
      keep _ (inv.deps_covered k member m found dep listed) }

/-- Taking a fresh key of a model visits it and pushes the keys of its dependencies. -/
theorem SearchInvariant.visit {key : String} {stack visited : List String} {m : Model}
    (inv : SearchInvariant models starts (key :: stack) visited)
    (found : models.get? key = some m) :
    SearchInvariant models starts (m.dependencies.map Naming.modelKey ++ stack)
      (visited ++ [key]) := by
  have reached : Reaches models starts key := inv.stack_reached key (by simp) m found
  have keep : ∀ k, Covered models (key :: stack) visited k →
      Covered models (m.dependencies.map Naming.modelKey ++ stack) (visited ++ [key]) k := by
    rintro k (old | pushed | absent)
    · exact .inl (List.mem_append_left _ old)
    · rcases List.mem_cons.mp pushed with rfl | below
      · exact .inl (List.mem_append_right _ (List.mem_singleton_self k))
      · exact .inr (.inl (List.mem_append_right _ below))
    · exact .inr (.inr absent)
  refine ⟨?_, ?_, ?_, ?_⟩
  · intro k member
    rcases List.mem_append.mp member with old | new
    · exact inv.visited_reached k old
    · rw [List.mem_singleton.mp new]
      exact reached
  · intro k member next found'
    rcases List.mem_append.mp member with pushed | below
    · obtain ⟨dep, listed, rfl⟩ := List.mem_map.mp pushed
      exact .dependency reached found listed found'
    · exact inv.stack_reached k (List.mem_cons_of_mem key below) next found'
  · exact fun k member => keep k (inv.starts_covered k member)
  · intro k member m' found' dep listed
    rcases List.mem_append.mp member with old | new
    · exact keep _ (inv.deps_covered k old m' found' dep listed)
    · rw [List.mem_singleton.mp new, found] at found'
      cases found'
      exact .inr (.inl (List.mem_append_left _ (List.mem_map_of_mem listed)))

/-- The search, given fuel for every name it can still take, ends with an empty stack
and keeps the invariant: induction on the fuel, one step of the search at a time. -/
theorem reach_invariant (fuel : Nat) (stack visited : List String)
    (enough : stack.length + pendingDeps models visited < fuel)
    (inv : SearchInvariant models starts stack visited) :
    SearchInvariant models starts [] (reach models fuel stack visited) := by
  induction fuel generalizing stack visited with
  | zero => omega
  | succ fuel ih =>
    cases stack with
    | nil => simpa [reach] using inv
    | cons key stack =>
      simp only [List.length_cons] at enough
      by_cases old : visited.contains key
      · rw [reach, if_pos old]
        exact ih stack visited (by omega) (inv.skip (.inl (by simpa using old)))
      · rw [reach, if_neg old]
        cases found : models.get? key with
        | none => exact ih stack visited (by omega) (inv.skip (.inr found))
        | some m =>
          have used := pendingDeps_visit models visited found (by simpa using old)
          apply ih _ _ _ (inv.visit found)
          simp only [List.length_append, List.length_map]
          omega

/-- When nothing is left on the stack, every reached key is visited. -/
theorem SearchInvariant.reaches_mem {visited : List String}
    (inv : SearchInvariant models starts [] visited) {key : String}
    (reached : Reaches models starts key) : key ∈ visited := by
  induction reached with
  | start member found =>
    rcases inv.starts_covered _ member with old | pushed | absent
    · exact old
    · cases pushed
    · rw [found] at absent
      cases absent
  | dependency _ found listed found' ih =>
    rcases inv.deps_covered _ ih _ found _ listed with old | pushed | absent
    · exact old
    · cases pushed
    · rw [found'] at absent
      cases absent

/-- The fuel the search from `n` starts needs: one step for each name it can take and
one to see the stack empty, with a step per model to spare. -/
def searchFuel (models : Table Model) (n : Nat) : Nat :=
  n + (models.map fun e => e.2.dependencies.length).foldr (· + ·) 0 + models.length + 1

theorem pendingDeps_nil (models : Table Model) :
    pendingDeps models [] = (models.map fun e => e.2.dependencies.length).foldr (· + ·) 0 := by
  have all : (models.filter fun _ => true) = models := List.filter_eq_self.mpr (by simp)
  simp [pendingDeps, all]

/-- The search from `starts` visits exactly the keys they reach. -/
theorem mem_reach_iff (starts : List String) (key : String) :
    key ∈ reach models (searchFuel models starts.length) starts.reverse [] ↔
      Reaches models starts key := by
  have inv := reach_invariant (searchFuel models starts.length) starts.reverse []
    (by simp only [List.length_reverse, pendingDeps_nil, searchFuel]; omega)
    (@searchInvariant_start models starts)
  exact ⟨inv.visited_reached key, inv.reaches_mem⟩

instance (models : Table Model) (starts : List String) : DecidablePred (Reaches models starts) :=
  fun key => decidable_of_iff _ (@mem_reach_iff models starts key)

/-- `reachable` is the search from the keys of the class names, with the fuel they need. -/
theorem reachable_eq (roots : List String) :
    reachable models roots =
      reach models (searchFuel models (roots.map Naming.modelKey).length)
        (roots.map Naming.modelKey).reverse [] := by
  simp only [reachable, searchFuel, List.length_map, List.map_reverse]

/-- The models reached from class names are those `Reaches` gives from their keys. -/
theorem mem_reachable_iff (roots : List String) (key : String) :
    key ∈ reachable models roots ↔ Reaches models (roots.map Naming.modelKey) key := by
  rw [reachable_eq, mem_reach_iff]

/-! ## The least closed set of keys

`Reaches` is the least set of keys closed under its two rules, and the search finds it: it
ends within its fuel, whatever cycles the dependencies form, and visits each key once. -/

/-- A set of keys closed under the rules of `Reaches`: it holds every start that keys a
model, and the key of every dependency of a model at a key it holds, when that keys a model. -/
def Closed (models : Table Model) (starts : List String) (keys : String → Prop) : Prop :=
  (∀ key ∈ starts, ∀ m, models.get? key = some m → keys key) ∧
    ∀ key m, keys key → models.get? key = some m → ∀ dep ∈ m.dependencies, ∀ next,
      models.get? (Naming.modelKey dep) = some next → keys (Naming.modelKey dep)

theorem reaches_closed : Closed models starts (Reaches models starts) :=
  ⟨fun _ member _ found => .start member found,
    fun _ _ reached found _ listed _ found' => .dependency reached found listed found'⟩

/-- Every reached key lies in every closed set. -/
theorem Reaches.closed {keys : String → Prop} (closed : Closed models starts keys) {key : String}
    (reached : Reaches models starts key) : keys key := by
  induction reached with
  | start member found => exact closed.1 _ member _ found
  | dependency _ found listed found' ih => exact closed.2 _ _ ih found _ listed _ found'

/-- The search visits each key at most once: a key is visited only when it is not yet. -/
theorem reach_nodup (fuel : Nat) (stack visited : List String) (distinct : visited.Nodup) :
    (reach models fuel stack visited).Nodup := by
  induction fuel generalizing stack visited with
  | zero => exact distinct
  | succ fuel ih =>
    cases stack with
    | nil => exact distinct
    | cons key stack =>
      by_cases old : visited.contains key
      · rw [reach, if_pos old]
        exact ih stack visited distinct
      · rw [reach, if_neg old]
        have fresh : key ∉ visited := by simpa using old
        cases models.get? key with
        | none => exact ih stack visited distinct
        | some m =>
          apply ih
          refine List.nodup_append.mpr ⟨distinct, List.pairwise_singleton _ key, ?_⟩
          intro k member k' added same
          rw [same, List.mem_singleton.mp added] at member
          exact fresh member

/-- Once its fuel covers every name it can still take from the stack, the search has ended:
more fuel gives the same keys. -/
theorem reach_add_fuel (fuel extra : Nat) (stack visited : List String)
    (enough : stack.length + pendingDeps models visited < fuel) :
    reach models (fuel + extra) stack visited = reach models fuel stack visited := by
  induction fuel generalizing stack visited with
  | zero => omega
  | succ fuel ih =>
    rw [Nat.add_right_comm]
    cases stack with
    | nil => simp only [reach]
    | cons key stack =>
      simp only [List.length_cons] at enough
      by_cases old : visited.contains key
      · rw [reach, reach, if_pos old, if_pos old]
        exact ih stack visited (by omega)
      · rw [reach, reach, if_neg old, if_neg old]
        cases found : models.get? key with
        | none => exact ih stack visited (by omega)
        | some m =>
          have used := pendingDeps_visit models visited found (by simpa using old)
          apply ih
          simp only [List.length_append, List.length_map]
          omega

/-- The search from class names ends within its fuel, cyclic dependencies included: more fuel
gives the same keys. Those keys are distinct, each keys a model, and they form the least set
that holds the key of every root that keys a model and the key of every dependency of a
model at a key it holds, when that keys a model. -/
theorem reachable_least_closed (models : Table Model) (roots : List String) :
    (∀ extra, reach models (searchFuel models roots.length + extra)
        (roots.reverse.map Naming.modelKey) [] = reachable models roots) ∧
      (reachable models roots).Nodup ∧
      (∀ key ∈ reachable models roots, ∃ m, models.get? key = some m) ∧
      Closed models (roots.map Naming.modelKey) (· ∈ reachable models roots) ∧
      ∀ keys, Closed models (roots.map Naming.modelKey) keys →
        ∀ key ∈ reachable models roots, keys key := by
  have starts : (roots.map Naming.modelKey).length = roots.length := List.length_map _
  refine ⟨fun extra => ?_, ?_, ?_, ?_, ?_⟩
  · rw [reachable_eq, starts, ← List.map_reverse]
    apply reach_add_fuel
    simp only [List.length_map, List.length_reverse, pendingDeps_nil, searchFuel]
    omega
  · rw [reachable_eq]
    exact reach_nodup _ _ [] List.nodup_nil
  · exact fun key member => ((mem_reachable_iff roots key).mp member).keyed
  · refine ⟨fun key member m found => ?_, fun key m member found dep listed next found' => ?_⟩
    · exact (mem_reachable_iff roots key).mpr (reaches_closed.1 key member m found)
    · exact (mem_reachable_iff roots _).mpr
        (reaches_closed.2 key m ((mem_reachable_iff roots key).mp member) found dep listed next
          found')
  · exact fun keys closed key member => ((mem_reachable_iff roots key).mp member).closed closed

/-- Two models that depend on each other: the search from one finds both and stops. -/
example :
    reachable [("pet", { (default : Model) with className := "Pet", dependencies := ["Owner"] }),
        ("owner", { (default : Model) with className := "Owner", dependencies := ["Pet"] })]
      ["Pet"] = ["pet", "owner"] := by
  decide +kernel

end ClientGen.Selection
