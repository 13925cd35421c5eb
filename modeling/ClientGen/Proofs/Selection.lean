import ClientGen.Proofs.Reachability
import ClientGen.Proofs.Logged

/-!
# Choosing services and models by tag

`Filter.apply` keeps the services a filter includes, in their order, and, when it drops
unused models, exactly the models reached from what the kept services use, in their order;
otherwise it keeps every model. For a model table keyed by class names, as the definitions
build it, the kept models are closed under dependencies, and a second run of the same filter
keeps everything (`filter_apply_spec`).
-/
namespace ClientGen.Selection

/-- A model table as the definitions build it: every model filed under the key of its class
name, and no key twice. -/
structure Keyed (models : Table Model) : Prop where
  key_eq : ∀ e ∈ models, e.1 = Naming.modelKey e.2.className
  distinct : models.keys.Nodup

/-- The services a filter keeps, in their order. -/
def Filter.keptServices (f : Filter) (services : Table Service) : Table Service :=
  services.filter fun e => f.includes e.1

/-- The class names services use: for successful responses and parameters, then for error
responses, service by service. -/
def usedBy (services : Table Service) : List String :=
  services.flatMap fun e => e.2.dependencies ++ e.2.errorDependencies

/-- The models a filter keeps: those reached from what the kept services use when unused
models are dropped, all of them otherwise. -/
def Filter.keptModels (f : Filter) (models : Table Model) (services : Table Service) :
    Table Model :=
  if f.dropUnused then
    models.filter fun e =>
      decide (Reaches models ((usedBy (f.keptServices services)).map Naming.modelKey) e.1)
  else models

/-- One service's turn in the first pass: kept or left out, and what a kept one uses
recorded when unused models are dropped. -/
def Filter.takeService (f : Filter) (acc : Table Service × List String)
    (entry : String × Service) : Table Service × List String :=
  if f.includes entry.1 then
    (acc.1 ++ [entry], if f.dropUnused then
      acc.2 ++ entry.2.dependencies ++ entry.2.errorDependencies else acc.2)
  else acc

/-- One model's turn in the second pass: kept when its class key was reached. -/
def takeModel (reached : List String) (acc : Table Model) (entry : String × Model) :
    Table Model :=
  if reached.contains (Naming.modelKey entry.2.className) then acc ++ [entry] else acc

/-- The two loops of `Filter.apply` as folds; no step of them fails. -/
theorem apply_returns (f : Filter) (models : Table Model) (services : Table Service) :
    Logged.Returns (f.apply models services)
      (if f.dropUnused then
          models.foldl (takeModel (reachable models (services.foldl f.takeService ([], [])).2)) []
        else models,
        (services.foldl f.takeService ([], [])).1) := by
  unfold Filter.apply
  refine Logged.Returns.bind (Logged.returns_forIn services ([], []) _ f.takeService ?_) ?_
  · rintro ⟨name, s⟩ ⟨kept, used⟩
    by_cases keep : f.includes name
    · by_cases drop : f.dropUnused
      · simp [Filter.takeService, keep, drop, Logged.returns_pure]
      · simp [Filter.takeService, keep, drop, Logged.returns_pure]
    · simp only [Filter.takeService, keep, Bool.not_false, if_true]
      exact Logged.returns_note_then _ _ _ (Logged.returns_pure _)
  · by_cases drop : f.dropUnused
    · simp only [drop, Bool.not_true, Bool.false_eq_true, if_false]
      refine Logged.Returns.bind (Logged.returns_forIn models [] _
        (takeModel (reachable models (services.foldl f.takeService ([], [])).2)) ?_)
        (Logged.returns_pure _)
      rintro ⟨key, m⟩ acc
      by_cases hit : (reachable models (services.foldl f.takeService ([], [])).2).contains
          (Naming.modelKey m.className)
      · simp only [takeModel, hit, if_true]
        exact Logged.returns_pure _
      · simp only [takeModel, hit, Bool.false_eq_true, if_false]
        exact Logged.returns_note_then _ _ _ (Logged.returns_pure _)
    · simp only [drop, Bool.not_false, if_true]
      exact Logged.returns_pure _

theorem foldl_takeService (f : Filter) (services : Table Service) (kept : Table Service)
    (used : List String) :
    services.foldl f.takeService (kept, used) =
      (kept ++ f.keptServices services,
        if f.dropUnused then used ++ usedBy (f.keptServices services) else used) := by
  induction services generalizing kept used with
  | nil => simp [Filter.keptServices, usedBy]
  | cons e rest ih =>
    by_cases keep : f.includes e.1 <;> by_cases drop : f.dropUnused <;>
      simp [Filter.takeService, Filter.keptServices, usedBy, keep, drop, ih]

theorem foldl_takeModel (reached : List String) (models kept : Table Model) :
    models.foldl (takeModel reached) kept =
      kept ++ models.filter fun e => reached.contains (Naming.modelKey e.2.className) := by
  induction models generalizing kept with
  | nil => simp
  | cons e rest ih =>
    by_cases hit : Naming.modelKey e.2.className ∈ reached <;>
      simp [takeModel, hit, ih]

/-- In a keyed table, the models whose class key the search reaches are those whose key
`Reaches` gives. -/
theorem filter_reachable_eq {models : Table Model} (keyed : Keyed models) (roots : List String) :
    (models.filter fun e => decide (Naming.modelKey e.2.className ∈ reachable models roots)) =
      models.filter fun e => decide (Reaches models (roots.map Naming.modelKey) e.1) := by
  apply List.filter_congr
  intro e member
  rw [← keyed.key_eq e member]
  simp [mem_reachable_iff]

theorem Keyed.filter {models : Table Model} (keyed : Keyed models)
    (p : String × Model → Bool) : Keyed (models.filter p) :=
  ⟨fun e member => keyed.key_eq e (List.mem_filter.mp member).1,
    Table.nodup_keys_filter keyed.distinct p⟩

theorem Keyed.keptModels {models : Table Model} (keyed : Keyed models) (f : Filter)
    (services : Table Service) : Keyed (f.keptModels models services) := by
  unfold Filter.keptModels
  split
  · exact keyed.filter _
  · exact keyed

theorem apply_returns_kept (f : Filter) {models : Table Model} (keyed : Keyed models)
    (services : Table Service) :
    Logged.Returns (f.apply models services)
      (f.keptModels models services, f.keptServices services) := by
  have run := apply_returns f models services
  rw [foldl_takeService, foldl_takeModel] at run
  by_cases drop : f.dropUnused
  · simpa [Filter.keptModels, drop, filter_reachable_eq keyed] using run
  · simpa [Filter.keptModels, drop] using run

theorem Keyed.get?_of_mem {models : Table Model} (keyed : Keyed models)
    {e : String × Model} (member : e ∈ models) : models.get? e.1 = some e.2 :=
  Table.get?_of_mem keyed.distinct member

/-- A key finds only the model filed under its class key. -/
theorem Keyed.key_of_get? {models : Table Model} (keyed : Keyed models) {key : String}
    {m : Model} (found : models.get? key = some m) : key = Naming.modelKey m.className :=
  keyed.key_eq (key, m) (Table.mem_of_get? found)

/-- A model reached in a keyed table is what its key finds among the reached models. -/
theorem get?_reached {models : Table Model} (keyed : Keyed models) {starts : List String}
    {key : String} {m : Model} (reached : Reaches models starts key)
    (found : models.get? key = some m) :
    Table.get? (models.filter fun e => decide (Reaches models starts e.1)) key = some m := by
  apply Table.get?_of_mem (Table.nodup_keys_filter keyed.distinct _)
  exact List.mem_filter.mpr ⟨Table.mem_of_get? found, decide_eq_true reached⟩

/-- What is reached in a keyed table is reached again among the reached models alone. -/
theorem reaches_filter {models : Table Model} (keyed : Keyed models) {starts : List String}
    {key : String} (reached : Reaches models starts key) :
    Reaches (models.filter fun e => decide (Reaches models starts e.1)) starts key := by
  induction reached with
  | start member found => exact .start member (get?_reached keyed (.start member found) found)
  | dependency reached found listed found' ih =>
    exact .dependency ih (get?_reached keyed reached found) listed
      (get?_reached keyed (.dependency reached found listed found') found')

/-- Every dependency of a kept model that keys a model of the table keys a kept model. -/
theorem keptModels_closed (f : Filter) {models : Table Model} (keyed : Keyed models)
    (services : Table Service) {e : String × Model} (kept : e ∈ f.keptModels models services)
    {dep : String} (listed : dep ∈ e.2.dependencies) {m : Model}
    (found : models.get? (Naming.modelKey dep) = some m) :
    (f.keptModels models services).get? (Naming.modelKey dep) = some m := by
  by_cases drop : f.dropUnused
  · simp only [Filter.keptModels, drop, if_true] at kept ⊢
    obtain ⟨member, reached⟩ := List.mem_filter.mp kept
    have onward := Reaches.dependency (of_decide_eq_true reached) (keyed.get?_of_mem member)
      listed found
    exact get?_reached keyed onward found
  · simpa [Filter.keptModels, drop] using found

/-- Every model a kept service uses that the table has is kept. -/
theorem keptModels_used (f : Filter) {models : Table Model} (keyed : Keyed models)
    {services : Table Service} {s : String × Service} (kept : s ∈ f.keptServices services)
    {dep : String} (listed : dep ∈ s.2.dependencies) {m : Model}
    (found : models.get? (Naming.modelKey dep) = some m) :
    (f.keptModels models services).get? (Naming.modelKey dep) = some m := by
  by_cases drop : f.dropUnused
  · simp only [Filter.keptModels, drop, if_true]
    have root : Naming.modelKey dep ∈ (usedBy (f.keptServices services)).map Naming.modelKey :=
      List.mem_map_of_mem (List.mem_flatMap.mpr ⟨s, kept, List.mem_append_left _ listed⟩)
    exact get?_reached keyed (.start root found) found
  · simpa [Filter.keptModels, drop] using found

theorem keptServices_keptServices (f : Filter) (services : Table Service) :
    f.keptServices (f.keptServices services) = f.keptServices services := by
  simp [Filter.keptServices, List.filter_filter]

theorem keptModels_keptModels (f : Filter) {models : Table Model} (keyed : Keyed models)
    (services : Table Service) :
    f.keptModels (f.keptModels models services) (f.keptServices services) =
      f.keptModels models services := by
  by_cases drop : f.dropUnused
  · simp only [Filter.keptModels, drop, if_true, keptServices_keptServices]
    apply List.filter_eq_self.mpr
    intro e member
    exact decide_eq_true (reaches_filter keyed (of_decide_eq_true (List.mem_filter.mp member).2))
  · simp [Filter.keptModels, drop]

/-- The tag filter keeps exactly the included services and, when it drops unused models,
exactly the models reached from what those services use, each table in its order, and
otherwise every model. The kept models are closed under dependencies, and running the same
filter on what it kept changes nothing. -/
theorem filter_apply_spec (f : Filter) (models : Table Model) (services : Table Service)
    (keyed : Keyed models) :
    Logged.Returns (f.apply models services)
        (f.keptModels models services, f.keptServices services) ∧
      (∀ e ∈ f.keptModels models services, ∀ dep ∈ e.2.dependencies, ∀ m : Model,
        models.get? (Naming.modelKey dep) = some m →
          (f.keptModels models services).get? (Naming.modelKey dep) = some m) ∧
      Logged.Returns (f.apply (f.keptModels models services) (f.keptServices services))
        (f.keptModels models services, f.keptServices services) := by
  refine ⟨apply_returns_kept f keyed services, ?_, ?_⟩
  · intro e kept dep listed m found
    exact keptModels_closed f keyed services kept listed found
  · have again := apply_returns_kept f (keyed.keptModels f services) (f.keptServices services)
    rwa [keptModels_keptModels f keyed, keptServices_keptServices] at again

/-- The `Pets` service alone kept, on a table where it reaches `Pet` and, through it, `Tag`
but not `Orphan`. -/
theorem filter_apply_spec_pets :
    let models : Table Model :=
      [("pet", { (default : Model) with className := "Pet", dependencies := ["Tag"] }),
        ("orphan", { (default : Model) with className := "Orphan" }),
        ("tag", { (default : Model) with className := "Tag" })]
    let services : Table Service :=
      [("Admin", { (default : Service) with dependencies := ["Orphan"] }),
        ("Pets", { (default : Service) with dependencies := ["Pet"] })]
    let f : Filter := ⟨some ["Pets"], none, true⟩
    Keyed models ∧
      (Logged.Returns (f.apply models services)
          (f.keptModels models services, f.keptServices services) ∧
        (∀ e ∈ f.keptModels models services, ∀ dep ∈ e.2.dependencies, ∀ m : Model,
          models.get? (Naming.modelKey dep) = some m →
            (f.keptModels models services).get? (Naming.modelKey dep) = some m) ∧
        Logged.Returns (f.apply (f.keptModels models services) (f.keptServices services))
          (f.keptModels models services, f.keptServices services)) := by
  intro models services f
  have keyed : Keyed models := ⟨by decide +kernel, by decide +kernel⟩
  exact ⟨keyed, filter_apply_spec f models services keyed⟩

example :
    (Filter.keptModels ⟨some ["Pets"], none, true⟩
      [("pet", { (default : Model) with className := "Pet", dependencies := ["Tag"] }),
        ("orphan", { (default : Model) with className := "Orphan" }),
        ("tag", { (default : Model) with className := "Tag" })]
      [("Admin", { (default : Service) with dependencies := ["Orphan"] }),
        ("Pets", { (default : Service) with dependencies := ["Pet"] })]).keys =
      ["pet", "tag"] := by
  decide +kernel

end ClientGen.Selection
