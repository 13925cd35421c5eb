import ClientGen.Proofs.ExcludedOperations
import ClientGen.Proofs.Subvalues

/-!
# Compiling without the operations of excluded services

The tag filter drops the services it excludes only after the whole service table is built, so
the operations of those services are read, named and typed like any other. They still leave no
trace in what compiling gives (`compile_ignores_excluded_operations`): compiling a document and
compiling it without those operations (`Operations.withoutExcluded`) give the same models, the
same services and the same root URL, whenever both compile. The models come from the definitions
alone; the kept services are built alike (`Operations.build_alike`); the filter then keeps the
same services and models in both; and the examples of the models are expanded alike.

This rests on two conditions on the document. No reference points into the paths
(`Reference.avoids`): an example may otherwise copy a removed operation
(`compile_reads_excluded_operation_through_reference`). And no path item repeats a key
(`Operations.keysDistinct`), as no document read from a file does.
-/
namespace ClientGen

open Reference

namespace Models

section Samples

variable {key : String}

/-- Every example of a built model is empty or lies within the definitions, so it avoids
`key` when the definitions do. -/
theorem build_samples (config : Config) {definitions : Value}
    (clear : avoids key definitions = true) :
    Logged.Ensures (build config definitions) fun built =>
      ∀ e ∈ built, avoids key e.2.sample = true := by
  refine (build_samples_within config definitions).mono fun built sampled e member => ?_
  rcases sampled e member with empty | within
  · rw [empty]
    rfl
  · exact avoids_of_within within clear

end Samples

end Models

namespace Api

open Operations Selection

section Compile

variable {key : String} {doc doc' : Value}

/-- The example of a model that avoids `key` is expanded alike in two documents that resolve
such references alike. -/
theorem expandExample_alike (alike : ResolveAlike key doc doc') (clear : avoids key doc = true)
    {m : Model} (sampleClear : avoids key m.sample = true) {a b : Model}
    (first : expandExample doc m = .ok a) (second : expandExample doc' m = .ok b) : b = a := by
  rcases expandExample_cases first with ⟨empty, rfl⟩ | ⟨sample, given, expanded, rfl⟩ <;>
    rcases expandExample_cases second with ⟨empty', rfl⟩ | ⟨sample', given', expanded', rfl⟩
  · rfl
  · exact absurd empty given'
  · exact absurd empty' given
  · rw [expand_alike alike clear sampleClear expanded expanded']

end Compile

theorem rootUrlOf_withoutExcluded (config : Config) (doc : Value) :
    rootUrlOf (withoutExcluded config doc) = rootUrlOf doc := by
  unfold rootUrlOf
  rw [field_withoutExcluded config doc (by decide : "host" ≠ "paths"),
    field_withoutExcluded config doc (by decide : "schemes" ≠ "paths"),
    field_withoutExcluded config doc (by decide : "basePath" ≠ "paths")]

/-- The tag filter keeps the same services and models from a service table and from that table
without the services it excludes; the models it keeps are models it was given. -/
theorem apply_keptServices (f : Filter) (models : Table Model) (services : Table Service) :
    Logged.Agree (f.apply models services) (f.apply models (f.keptServices services))
      fun kept kept' => kept' = kept ∧ ∀ e ∈ kept.1, e ∈ models := by
  refine (apply_returns f models services).agree (apply_returns f models _) ⟨?_, ?_⟩
  · rw [foldl_takeService, foldl_takeService, keptServices_keptServices]
  · intro e member
    dsimp only at member
    split at member
    · rw [foldl_takeModel, List.nil_append] at member
      exact (List.mem_filter.mp member).1
    · exact member

/-- Compiling a document and compiling it without the operations of excluded services agree whenever
both succeed. The reference checks of the two documents may differ, but their counts are not used.
-/
theorem compile_alike (config : Config) (doc : Value) (clear : avoids "paths" doc = true)
    (distinct : ∀ item ∈ pathItems doc, keysDistinct item = true) :
    Logged.Agree (compile config doc) (compile config (withoutExcluded config doc)) Eq := by
  unfold compile
  rw [getD_withoutExcluded config doc (by decide : "swagger" ≠ "paths")]
  refine Logged.Agree.bind_same (Logged.oblivious_lift _) fun version => ?_
  dsimp only
  split
  · exact Logged.agree_throw_bind
  refine Logged.agree_bind_of_forall fun _ _ => ?_
  rw [field_withoutExcluded config doc (by decide : "definitions" ≠ "paths")]
  refine Logged.Agree.bind_same_ensures (Models.build_oblivious config _)
    (Models.build_samples config (avoids_fieldD clear "definitions")) fun models sampled => ?_
  refine (build_alike config doc models clear distinct).bind fun services services' pruned => ?_
  refine Logged.agree_bind_of_forall fun _ _ => ?_
  subst pruned
  refine (apply_keptServices _ models services).bind fun kept kept' related => ?_
  obtain ⟨same, fromModels⟩ := related
  subst kept'
  obtain ⟨keptModels, keptServices⟩ := kept
  dsimp only
  rw [rootUrlOf_withoutExcluded]
  split
  · refine Logged.agree_lift_bind (fun expanded expanded' mapped mapped' => ?_) fun models => ?_
    · refine mapM_agree _ (fun e member a b one two => ?_) mapped mapped'
      obtain ⟨k, m⟩ := e
      obtain ⟨m', expandedM, one⟩ := except_bind_ok one
      obtain ⟨m'', expandedM', two⟩ := except_bind_ok two
      cases one
      cases two
      rw [expandExample_alike (resolveAlike_replaceUnder "paths" _ doc) clear
        (sampled _ (fromModels _ member)) expandedM expandedM']
    · exact Logged.Agree.bind_same (Logged.oblivious_lift _) fun url => Logged.agree_pure rfl
  · simp only [pure_bind]
    exact Logged.Agree.bind_same (Logged.oblivious_lift _) fun url => Logged.agree_pure rfl

/-- Operations filed under services the tag filter excludes have no influence on what compiling
gives: whenever a document and the document without those operations both compile, they give
the same models, the same services and the same root URL. This holds of every document whose
references do not point into its paths and whose path items repeat no key. -/
theorem compile_ignores_excluded_operations (config : Config) (doc : Value)
    (refsAvoidPaths : avoids "paths" doc = true)
    (distinctKeys : ∀ item ∈ pathItems doc, keysDistinct item = true) {api api' : Api}
    (compiled : (compile config doc).run.1 = .ok api)
    (compiled' : (compile config (withoutExcluded config doc)).run.1 = .ok api') :
    api' = api :=
  (compile_alike config doc refsAvoidPaths distinctKeys api api' ⟨#[], _, Prod.ext compiled rfl⟩
    ⟨#[], _, Prod.ext compiled' rfl⟩).symm

/-- A store with one operation of a kept service and one of an excluded one. -/
def petStore : Value := .object [
  ("swagger", .str "2.0"),
  ("definitions", .object [("Pet", .object [("type", .str "object"),
    ("example", .object [("name", .str "Rex")])])]),
  ("paths", .object [("/pets", .object [
    ("get", .object [("tags", .list [.str "Shown"]), ("operationId", .str "listPets"),
      ("responses", .object [("200", .object [("description", .str "ok"),
        ("schema", .object [("$ref", .str "#/definitions/Pet")])])])]),
    ("post", .object [("tags", .list [.str "Hidden"]), ("operationId", .str "addPet"),
      ("responses", .object [])])])])]

/-- A run that keeps the service `Shown` and expands examples. -/
def shownOnly : Config :=
  { Config.default with includeTags := .list [.str "Shown"], generateExamples := true }

theorem compile_ignores_excluded_operations_pets :
    avoids "paths" petStore = true ∧ (∀ item ∈ pathItems petStore, keysDistinct item = true) ∧
      ∃ api, (compile shownOnly petStore).run.1 = .ok api ∧
        (compile shownOnly (withoutExcluded shownOnly petStore)).run.1 = .ok api := by
  have refs : avoids "paths" petStore = true := by decide +kernel
  have distinct : ∀ item ∈ pathItems petStore, keysDistinct item = true := by decide +kernel
  obtain ⟨api, compiled⟩ := exists_ok_of_isOk
    (by decide +kernel : ((compile shownOnly petStore).run.1).isOk = true)
  obtain ⟨api', compiled'⟩ := exists_ok_of_isOk (by decide +kernel :
    ((compile shownOnly (withoutExcluded shownOnly petStore)).run.1).isOk = true)
  have same :=
    compile_ignores_excluded_operations shownOnly petStore refs distinct compiled compiled'
  exact ⟨refs, distinct, api, compiled, same ▸ compiled'⟩

/-- A store whose example refers to the path item of an excluded operation. -/
def referringStore : Value := .object [
  ("swagger", .str "2.0"),
  ("definitions", .object [("Pet", .object [("type", .str "object"),
    ("example", .object [("$ref", .str "#/paths/~1a")])])]),
  ("paths", .object [
    ("/a", .object [("get", .object [("tags", .list [.str "Hidden"]),
      ("operationId", .str "hidden"), ("responses", .object [])])]),
    ("/b", .object [("get", .object [("tags", .list [.str "Shown"]),
      ("operationId", .str "shown"), ("responses", .object [("200", .object [
        ("description", .str "ok"), ("schema", .object [("$ref", .str "#/definitions/Pet")])])])])])])]

/-- A reference into the paths reads the operations of excluded services: the example of `Pet`
copies the path item `/a` with its excluded operation, and is empty once that operation is
removed. Both documents compile. -/
theorem compile_reads_excluded_operation_through_reference :
    ((compile shownOnly referringStore).run.1.toOption.map fun api =>
        api.models.map fun e => e.2.sample.truthy) = some [true] ∧
      ((compile shownOnly (withoutExcluded shownOnly referringStore)).run.1.toOption.map fun api =>
        api.models.map fun e => e.2.sample.truthy) = some [false] := by
  decide +kernel

end Api

end ClientGen
