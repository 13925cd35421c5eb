import ClientGen.Proofs.Compiled
import ClientGen.Proofs.ServiceTable

/-!
# The kind of an operation's result

An operation's result kind decides how its response is read. It is the classification of the
result type against the whole model table of the definitions, unfiltered
(`compile_classified`), and the classification looks the table up once: under the key of the
bare name of the result type (`classify_congr`). Every model of the table is filed under the
key of a class name given by the name of a definition (`build_fromDefinitions`). So when no
definition's class name has that key, the result kind is that of the result type alone, the
same for every definitions section (`compile_result_kind_ignores_unnamed_definitions`).

The bare name of a type that names no model may still be a key a definition has: the bare name
of `string` is `string`, the key of a definition `String`; that of a union of several types is
`object`, the key of a definition `Object`.
-/
namespace ClientGen

namespace Models

/-- The entries of a definitions section, as the model table reads them. -/
def definitionEntries (definitions : Value) : List (Value × Value) :=
  match definitions with
  | .map entries => entries
  | _ => []

/-- Every model of the table has the class name that the name of one of `entries` gives. -/
def FromDefinitions (entries : List (Value × Value)) (table : Table Model) : Prop :=
  ∀ e ∈ table, ∃ d ∈ entries, Naming.classNameOf d.1 = .ok e.2.className

theorem ofDefinition_className {config : Config} {name schema : Value} {m : Model}
    (built : ofDefinition config name schema = .ok m) :
    Naming.classNameOf name = .ok m.className := by
  obtain ⟨cls, named, ⟨path, composed⟩ | ⟨kind, _, _, _, _, _, rfl⟩⟩ := ofDefinition_cases built
  · rw [(ofComposition_shape composed).1]
    exact named
  · exact named

/-- Every model of a built table has the class name of a definition's name. -/
theorem build_fromDefinitions (config : Config) (definitions : Value) :
    Logged.Ensures (build config definitions) (FromDefinitions (definitionEntries definitions)) := by
  refine (build_models config definitions).mono fun built made e member => ?_
  obtain ⟨es, d, m, m', rfl, listed, given, relinked, same⟩ := made e member
  have named : e.2.className = m.className := by
    rw [same]
    exact relinked.className
  exact ⟨d, listed, named ▸ ofDefinition_className given⟩

end Models

namespace Operations

/-- Every operation of the built services classifies its result type against the model table
the services are built with. -/
theorem build_classified (config : Config) (doc : Value) (models : Table Model) :
    Logged.Ensures (build config doc models)
      (AllOperations fun op => op.resultKind = classify models op.resultType) := by
  have each : ∀ d ∈ declaredOperations doc, ∀ pathItem cls known url method id op,
      Logged.Gives (operation config doc models cls known url method d pathItem) (id, op) →
        op.resultKind = classify models op.resultType :=
    fun d _ pathItem cls known url method _ _ gives =>
      ((operation_spec config doc models cls known url method d pathItem).gives gives).2.classified
  exact (build_keeps each).mono fun _ kept => kept.1

/-- Classification reads the table only under the key of the bare name of the type. -/
theorem classify_congr {models models' : Table Model} {t : TypeExpr}
    (same : models'.get? (Naming.modelKey (t.bareName false)) =
      models.get? (Naming.modelKey (t.bareName false))) :
    classify models' t = classify models t := by
  unfold classify
  rw [same]

end Operations

namespace Models

/-- A built model table files nothing under a key that no definition's class name has. -/
theorem get?_of_unnamed {config : Config} {definitions : Value} {built : Table Model}
    (given : Logged.Gives (build config definitions) built) {key : String}
    (unnamed : ∀ d ∈ definitionEntries definitions, ∀ cls,
      Naming.classNameOf d.1 = .ok cls → Naming.modelKey cls ≠ key) :
    built.get? key = none := by
  obtain ⟨keyed, _, _⟩ := (build_covers config definitions).gives given
  have from_ := (build_fromDefinitions config definitions).gives given
  cases found : built.get? key with
  | none => rfl
  | some m =>
    have member := Table.mem_of_get? found
    obtain ⟨d, listed, named⟩ := from_ (key, m) member
    exact absurd (keyed.key_eq (key, m) member).symm (unnamed d listed m.className named)

end Models

namespace Api

/-- Every compiled operation classifies its result type against the whole model table of the
definitions, before the tag filter drops any model. -/
theorem compile_classified (config : Config) (doc : Value) :
    Logged.Ensures (compile config doc) fun api => ∃ built,
      Logged.Gives (Models.build config ((doc.field "definitions").getD .null)) built ∧
      ∀ s ∈ api.services, ∀ op ∈ s.2.operations,
        op.resultKind = Operations.classify built op.resultType := by
  refine (compile_tables config doc).mono ?_
  rintro api ⟨built, services, builtGiven, servicesGiven, _, servicesViewed⟩
  have classified := (Operations.build_classified config doc built).gives servicesGiven
  refine ⟨built, builtGiven, fun s member op listed => ?_⟩
  obtain ⟨s0, kept, _, sameView⟩ := exists_of_viewed servicesViewed member
  have inServices : s0 ∈ services := (List.mem_filter.mp kept).1
  have sameOperations : s0.2.operations = s.2.operations :=
    (congrArg Service.operations sameView :)
  exact classified s0 inServices op (sameOperations ▸ listed)

/-- When no definition's class name has the key of the bare name of an operation's result
type, the operation's result kind is that of its result type alone. -/
theorem compile_result_kind_of_unnamed {config : Config} {doc : Value} {api : Api}
    (compiled : (compile config doc).run.1 = .ok api) {s : String × Service}
    (inApi : s ∈ api.services) {op : Operation} (listed : op ∈ s.2.operations)
    (unnamed : ∀ d ∈ Models.definitionEntries ((doc.field "definitions").getD .null), ∀ cls,
      Naming.classNameOf d.1 = .ok cls →
        Naming.modelKey cls ≠ Naming.modelKey (op.resultType.bareName false)) :
    op.resultKind = Operations.classify [] op.resultType := by
  obtain ⟨built, builtGiven, classified⟩ :=
    (compile_classified config doc).gives ⟨#[], _, Prod.ext compiled rfl⟩
  rw [classified s inApi op listed]
  exact Operations.classify_congr ((Models.get?_of_unnamed builtGiven unnamed).trans
    (Table.get?_nil _).symm)

/-- Two compiled operations with one result type have one result kind, whatever the
definitions of their documents, when no definition of either has a class name with the key of
the bare name of that type. -/
theorem compile_result_kind_ignores_unnamed_definitions {config config' : Config}
    {doc doc' : Value} {api api' : Api} (compiled : (compile config doc).run.1 = .ok api)
    (compiled' : (compile config' doc').run.1 = .ok api') {s s' : String × Service}
    (inApi : s ∈ api.services) (inApi' : s' ∈ api'.services) {op op' : Operation}
    (listed : op ∈ s.2.operations) (listed' : op' ∈ s'.2.operations)
    (sameType : op'.resultType = op.resultType)
    (unnamed : ∀ d ∈ Models.definitionEntries ((doc.field "definitions").getD .null), ∀ cls,
      Naming.classNameOf d.1 = .ok cls →
        Naming.modelKey cls ≠ Naming.modelKey (op.resultType.bareName false))
    (unnamed' : ∀ d ∈ Models.definitionEntries ((doc'.field "definitions").getD .null), ∀ cls,
      Naming.classNameOf d.1 = .ok cls →
        Naming.modelKey cls ≠ Naming.modelKey (op.resultType.bareName false)) :
    op'.resultKind = op.resultKind := by
  have kind := compile_result_kind_of_unnamed compiled inApi listed unnamed
  have kind' := compile_result_kind_of_unnamed compiled' inApi' listed' (sameType ▸ unnamed')
  rw [kind, kind', sameType]

/-- A document whose one operation answers a text, beside the given definitions. -/
def textResultDocument (definitions : Value) : Value := .object [
  ("swagger", .str "2.0"),
  ("definitions", definitions),
  ("paths", .object [("/name", .object [("get", .object [
    ("operationId", .str "getName"),
    ("responses", .object [("200", .object [("description", .str "ok"),
      ("schema", .object [("type", .str "string")])])])])])])]

/-- A run whose services, when it succeeds, have one operation and it answers a text, succeeds
with such an operation. -/
theorem exists_text_operation {config : Config} {doc : Value}
    (types : ((compile config doc).run.1.toOption.map fun api =>
      api.services.flatMap fun s => s.2.operations.map (·.resultType)) =
        some [⟨"string", none⟩]) :
    ∃ api, (compile config doc).run.1 = .ok api ∧
      ∃ s ∈ api.services, ∃ op ∈ s.2.operations, op.resultType = ⟨"string", none⟩ := by
  cases compiled : (compile config doc).run.1 with
  | error fault =>
    rw [compiled] at types
    cases types
  | ok api =>
    rw [compiled] at types
    have found : (api.services.flatMap fun s => s.2.operations.map (·.resultType)) =
        [⟨"string", none⟩] := by
      simpa [Except.toOption] using types
    have listed : (⟨"string", none⟩ : TypeExpr) ∈
        api.services.flatMap fun s => s.2.operations.map (·.resultType) := by
      rw [found]
      exact List.mem_singleton_self _
    obtain ⟨s, inApi, typed⟩ := List.mem_flatMap.mp listed
    obtain ⟨op, inService, typedOp⟩ := List.mem_map.mp typed
    exact ⟨api, rfl, s, inApi, op, inService, typedOp⟩

/-- No definition has a class name with a key, when the keys of the class names of the
definitions, listed, are other keys. -/
theorem unnamed_of_keys {entries : List (Value × Value)} {key : String}
    (keys : ∀ k ∈ entries.map fun d => (Naming.classNameOf d.1).toOption.map Naming.modelKey,
      k ≠ some key) :
    ∀ d ∈ entries, ∀ cls, Naming.classNameOf d.1 = .ok cls → Naming.modelKey cls ≠ key := by
  intro d listed cls named same
  apply keys _ (List.mem_map_of_mem listed)
  rw [named, ← same]
  rfl

theorem compile_result_kind_ignores_unnamed_definitions_pets :
    ∃ api api', (compile Config.default
        (textResultDocument (.object [("Pet", .object [("type", .str "object")])]))).run.1 =
          .ok api ∧
      (compile Config.default
        (textResultDocument (.object [("Tag", .object [("type", .str "object")])]))).run.1 =
          .ok api' ∧
      ∃ s ∈ api.services, ∃ s' ∈ api'.services, ∃ op ∈ s.2.operations, ∃ op' ∈ s'.2.operations,
        op'.resultType = op.resultType ∧ op'.resultKind = op.resultKind := by
  obtain ⟨api, compiled, s, inApi, op, listed, typed⟩ := @exists_text_operation Config.default
    (textResultDocument (.object [("Pet", .object [("type", .str "object")])])) (by decide +kernel)
  obtain ⟨api', compiled', s', inApi', op', listed', typed'⟩ := @exists_text_operation
    Config.default (textResultDocument (.object [("Tag", .object [("type", .str "object")])]))
    (by decide +kernel)
  have sameType : op'.resultType = op.resultType := typed'.trans typed.symm
  refine ⟨api, api', compiled, compiled', s, inApi, s', inApi', op, listed, op', listed', sameType,
    compile_result_kind_ignores_unnamed_definitions compiled compiled' inApi inApi' listed listed'
      sameType ?_ ?_⟩
  all_goals
    rw [typed]
    exact unnamed_of_keys (by decide +kernel)

/-- A definition named `String` is filed under the key of the bare name of `string`: an
operation answering a text is then classified as a number, the type `String` stands for. -/
theorem compile_result_kind_reads_primitive_named_definition :
    ((compile Config.default
        (textResultDocument (.object [("String", .object [("type", .str "number")])]))).run.1.toOption.map
        fun api => api.services.map fun s => s.2.operations.map fun op =>
          (op.resultType, op.resultKind)) =
      some [[(⟨"string", none⟩, .number)]] ∧
    ((compile Config.default
        (textResultDocument (.object [("Pet", .object [("type", .str "object")])]))).run.1.toOption.map
        fun api => api.services.map fun s => s.2.operations.map fun op =>
          (op.resultType, op.resultKind)) =
      some [[(⟨"string", none⟩, .string)]] := by
  refine ⟨?_, ?_⟩ <;> decide +kernel

end Api

end ClientGen
