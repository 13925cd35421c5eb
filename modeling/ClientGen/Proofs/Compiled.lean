import ClientGen.Api.Compile
import ClientGen.Proofs.ModelTable
import ClientGen.Proofs.Selection

/-!
# What compiling keeps

After the tag filter, compiling only expands the examples of the models, when asked, and
marks the last entry of each table (`compile_spec` says what a compiled API is made of). So a
compiled model is a model the filter kept, with its example and its last mark aside, and a
compiled service is a service the filter kept, its last mark aside (`compile_tables`). Facts
about the built tables and the filter carry over to the compiled ones through this.
-/
namespace ClientGen

/-- A model without its example and its last mark. -/
def Model.core (m : Model) : Model := { m with sample := .null, isLast := false }

namespace Api

open Selection

/-- Each entry of a table viewed through `view`, with its key. -/
def viewed {α β : Type} (view : α → β) (t : Table α) : List (String × β) :=
  t.map fun e => (e.1, view e.2)

/-- An entry of a table that looks through a view like another table comes from an entry of
the other under the same key that looks the same. -/
theorem exists_of_viewed {α β : Type} {view : α → β} {t t' : Table α}
    (same : viewed view t' = viewed view t) {e' : String × α} (member : e' ∈ t') :
    ∃ e ∈ t, e.1 = e'.1 ∧ view e.2 = view e'.2 := by
  have shown : (e'.1, view e'.2) ∈ viewed view t := same ▸ List.mem_map_of_mem member
  obtain ⟨e, inT, seen⟩ := List.mem_map.mp shown
  simp only [Prod.mk.injEq] at seen
  exact ⟨e, inT, seen⟩

theorem keys_of_viewed {α β : Type} {view : α → β} {t t' : Table α}
    (same : viewed view t' = viewed view t) : t'.keys = t.keys := by
  have keys := congrArg (List.map Prod.fst) same
  simpa [viewed, Table.keys, Function.comp_def] using keys

/-- Marking the last entry is not seen by a view that ignores the mark. -/
theorem viewed_markLastEntry {α β : Type} (mark : Bool → α → α) (view : α → β)
    (blind : ∀ last x, view (mark last x) = view x) (t : Table α) :
    viewed view (markLastEntry mark t) = viewed view t := by
  induction t with
  | nil => rfl
  | cons e rest ih =>
    obtain ⟨k, x⟩ := e
    cases rest with
    | nil =>
      change [(k, view (mark true x))] = [(k, view x)]
      rw [blind]
    | cons e2 rest2 =>
      change (k, view (mark false x)) :: viewed view (markLastEntry mark (e2 :: rest2)) =
        (k, view x) :: viewed view (e2 :: rest2)
      rw [blind, ih]

/-- Expanding the example of a model keeps a model without one, and otherwise replaces its
example by the expansion. -/
theorem expandExample_cases {doc : Value} {m m' : Model}
    (expanded : expandExample doc m = .ok m') :
    m.sample = .null ∧ m' = m ∨
      ∃ sample, m.sample ≠ .null ∧ Reference.expand doc m.sample = .ok sample ∧
        m' = { m with sample } := by
  unfold expandExample at expanded
  split at expanded
  · next empty =>
    cases expanded
    exact .inl ⟨empty, rfl⟩
  · next given =>
    obtain ⟨sample, ran, expanded⟩ := except_bind_ok expanded
    cases expanded
    exact .inr ⟨sample, given, ran, rfl⟩

theorem expandExample_core {doc : Value} {m m' : Model} (expanded : expandExample doc m = .ok m') :
    Model.core m' = Model.core m := by
  rcases expandExample_cases expanded with ⟨-, rfl⟩ | ⟨sample, -, -, rfl⟩ <;> rfl

/-- Expanding the examples changes nothing but the examples. -/
theorem viewed_expandExamples {doc : Value} :
    ∀ {t t' : Table Model}, t.mapM (fun e => match e with
      | (k, m) => do return (k, ← expandExample doc m)) = .ok t' →
      viewed Model.core t' = viewed Model.core t
  | [], t', expanded => by
    cases expanded
    rfl
  | (k, m) :: rest, t', expanded => by
    obtain ⟨e', others, first, mapped, rfl⟩ := mapM_cons_ok expanded
    obtain ⟨m', one, first⟩ := except_bind_ok first
    cases first
    change (k, Model.core m') :: viewed Model.core others =
      (k, Model.core m) :: viewed Model.core rest
    rw [expandExample_core one, viewed_expandExamples mapped]

/-- The tag filter of a run's options. -/
def filterOf (config : Config) : Filter :=
  Filter.ofTags config.includeTags config.excludeTags config.ignoreUnusedModels

/-- What a compiled API is made of: the model table the definitions build, the service table
the paths build from it, the models the tag filter keeps, with their examples expanded when
examples are asked for, and the services it keeps, each table with its last entry marked, and
the root URL of the document. -/
structure CompiledFrom (config : Config) (doc : Value) (built : Table Model)
    (services : Table Service) (models : Table Model) (api : Api) : Prop where
  built_gives : Logged.Gives (Models.build config ((doc.field "definitions").getD .null)) built
  services_gives : Logged.Gives (Operations.build config doc built) services
  expanded : config.generateExamples = true →
    ((filterOf config).keptModels built services).mapM (fun e => match e with
      | (k, m) => do return (k, ← expandExample doc m)) = .ok models
  unexpanded : config.generateExamples = false →
    models = (filterOf config).keptModels built services
  models_eq : api.models = markLastEntry (fun last m => { m with isLast := last }) models
  services_eq : api.services =
    markLastEntry (fun last s => { s with isLast := last }) ((filterOf config).keptServices services)
  rootUrl : rootUrlOf doc = .ok api.rootUrl

/-- Every API a document compiles to is made of the built tables as `CompiledFrom` says. -/
theorem compile_spec (config : Config) (doc : Value) :
    Logged.Ensures (compile config doc) fun api =>
      ∃ built services models, CompiledFrom config doc built services models api := by
  unfold compile
  refine Logged.Ensures.bind (Logged.ensures_true _) fun version _ => ?_
  dsimp only
  split
  · exact Logged.ensures_throw_bind _ _ _
  refine Logged.Ensures.bind (Logged.ensures_true _) fun _ _ => ?_
  refine Logged.Ensures.bind ((Models.build_covers config _).and (Logged.ensures_gives _)) ?_
  rintro built ⟨⟨keyed, -, -⟩, builtGiven⟩
  refine Logged.Ensures.bind (Logged.ensures_gives _) fun services servicesGiven => ?_
  refine Logged.Ensures.bind (Logged.ensures_true _) fun _ _ => ?_
  refine Logged.Ensures.bind (apply_returns_kept _ keyed services).ensures ?_
  rintro _ rfl
  dsimp only
  split
  · next asked =>
    refine Logged.Ensures.bind (Logged.ensures_lift fun expanded mapped => mapped)
      fun expanded mapped => ?_
    refine Logged.Ensures.bind (Logged.ensures_lift fun url read => read) fun url read => ?_
    exact Logged.ensures_pure ⟨built, services, expanded, builtGiven, servicesGiven,
      fun _ => mapped, fun off => absurd asked (by simp [off]), rfl, rfl, read⟩
  · next notAsked =>
    refine Logged.ensures_pure_bind ?_
    refine Logged.Ensures.bind (Logged.ensures_lift fun url read => read) fun url read => ?_
    exact Logged.ensures_pure ⟨built, services, _, builtGiven, servicesGiven,
      fun asked => absurd asked notAsked, fun _ => rfl, rfl, rfl, read⟩

/-- Whenever a document compiles, its models are those the tag filter keeps of the model table
the definitions build, and its services those the filter keeps of the service table the paths
build, each in its order; a model may differ from the kept one in its example and its last
mark, a service in its last mark. -/
theorem compile_tables (config : Config) (doc : Value) :
    Logged.Ensures (compile config doc) fun api => ∃ built services,
      Logged.Gives (Models.build config ((doc.field "definitions").getD .null)) built ∧
      Logged.Gives (Operations.build config doc built) services ∧
      viewed Model.core api.models =
        viewed Model.core ((filterOf config).keptModels built services) ∧
      viewed (fun s => { s with isLast := false }) api.services =
        viewed (fun s => { s with isLast := false }) ((filterOf config).keptServices services) := by
  refine (compile_spec config doc).mono ?_
  rintro api ⟨built, services, models, compiled⟩
  have models_viewed : viewed Model.core models =
      viewed Model.core ((filterOf config).keptModels built services) := by
    cases examples : config.generateExamples
    · rw [compiled.unexpanded examples]
    · exact viewed_expandExamples (compiled.expanded examples)
  refine ⟨built, services, compiled.built_gives, compiled.services_gives, ?_, ?_⟩
  · rw [compiled.models_eq]
    exact (viewed_markLastEntry (fun last (m : Model) => { m with isLast := last }) Model.core
      (fun _ _ => rfl) models).trans models_viewed
  · rw [compiled.services_eq]
    exact viewed_markLastEntry (fun last (s : Service) => { s with isLast := last })
      (fun s => { s with isLast := false }) (fun _ _ => rfl) _

end Api

end ClientGen
