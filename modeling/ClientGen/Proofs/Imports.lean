import ClientGen.Api.Compile
import ClientGen.Proofs.ServiceTable
import ClientGen.Proofs.Compiled

/-!
# What generated files import

A generated file imports the models among the dependencies of what it declares. This module
proves that every model a compiled model or service names in a type is among those
dependencies and is itself kept in the compiled table, so the file that names it can import
it (`compile_imports_shown_models`). Two exceptions stand: an alias of a plain type has no
dependencies by design, and an operation without a successful response shows the type
`null` in place of a result.
-/
namespace ClientGen.Api

open Selection Dependencies

/-- Every model among `built` that a compiled model or service names in a type is a
dependency of what names it, and a model of its class is kept in the compiled table. A model
names the types it shows, unless it aliases a plain type, and its own class is not counted;
a service names the types its operations show. -/
def NamedModelsImported (built : Table Model) (api : Api) : Prop :=
  (∀ m ∈ api.models, plainAlias m.2 = false → ∀ name ∈ shownNames m.2, ∀ C ∈ built,
    Naming.modelKey (stripWrappers name false) = Naming.modelKey C.2.className →
    C.2.className ≠ m.2.className →
      C.2.className ∈ m.2.dependencies ∧ ∃ kept ∈ api.models, kept.2.className = C.2.className) ∧
  (∀ s ∈ api.services, ∀ op ∈ s.2.operations, ∀ name ∈ Operations.shownNames op, ∀ C ∈ built,
    Naming.modelKey (stripWrappers name false) = Naming.modelKey C.2.className →
      C.2.className ∈ s.2.dependencies ∧ ∃ kept ∈ api.models, kept.2.className = C.2.className)

/-! ## Presentation -/

/-- What a compiled model shows of a model: its class, its dependencies and its type names.
Expanding its example and marking the last entry change none of them. -/
structure SameShown (m m' : Model) : Prop where
  className : m'.className = m.className
  dependencies : m'.dependencies = m.dependencies
  shown : shownNames m' = shownNames m
  plain : plainAlias m' = plainAlias m

theorem SameShown.refl (m : Model) : SameShown m m := ⟨rfl, rfl, rfl, rfl⟩

theorem SameShown.trans {m m' m'' : Model} (first : SameShown m m')
    (second : SameShown m' m'') : SameShown m m'' :=
  ⟨second.1.trans first.1, second.2.trans first.2, second.3.trans first.3, second.4.trans first.4⟩

/-- Each model of `t'` shows what a model of `t` shows, and each model of `t` is shown so in
`t'`. -/
structure Presents (t t' : Table Model) : Prop where
  shows : ∀ e' ∈ t', ∃ e ∈ t, SameShown e.2 e'.2
  keeps : ∀ e ∈ t, ∃ e' ∈ t', SameShown e.2 e'.2

theorem Presents.refl (t : Table Model) : Presents t t :=
  ⟨fun e' member => ⟨e', member, .refl _⟩, fun e member => ⟨e, member, .refl _⟩⟩

theorem Presents.trans {t t' t'' : Table Model} (first : Presents t t')
    (second : Presents t' t'') : Presents t t'' where
  shows e'' member := by
    obtain ⟨e', member', same'⟩ := second.shows e'' member
    obtain ⟨e, inT, same⟩ := first.shows e' member'
    exact ⟨e, inT, same.trans same'⟩
  keeps e member := by
    obtain ⟨e', member', same⟩ := first.keeps e member
    obtain ⟨e'', member'', same'⟩ := second.keeps e' member'
    exact ⟨e'', member'', same.trans same'⟩

theorem expandExample_sameShown {doc : Value} {m m' : Model}
    (expanded : expandExample doc m = .ok m') : SameShown m m' := by
  rcases expandExample_cases expanded with ⟨-, rfl⟩ | ⟨sample, -, -, rfl⟩
  · exact .refl _
  · exact ⟨rfl, rfl, rfl, rfl⟩

theorem presents_expandExamples {doc : Value} {t t' : Table Model}
    (expanded : t.mapM (fun e => match e with
      | (k, m) => do return (k, ← expandExample doc m)) = .ok t') : Presents t t' where
  shows e' member := by
    obtain ⟨e, inT, made⟩ := mapM_ok_mem _ t expanded e' member
    obtain ⟨m', expandedOne, made⟩ := except_bind_ok made
    cases made
    exact ⟨e, inT, expandExample_sameShown expandedOne⟩
  keeps e member := by
    obtain ⟨e', inT', made⟩ := mapM_ok_cover _ t expanded e member
    obtain ⟨m', expandedOne, made⟩ := except_bind_ok made
    cases made
    exact ⟨_, inT', expandExample_sameShown expandedOne⟩

/-- Each entry of a marked table is an entry of the table, marked one way or the other. -/
theorem mem_markLastEntry {α : Type} (mark : Bool → α → α) (t : Table α) :
    ∀ e' ∈ markLastEntry mark t, ∃ e ∈ t, ∃ last, e' = (e.1, mark last e.2) := by
  induction t with
  | nil => exact fun _ member => nomatch member
  | cons e rest ih =>
    obtain ⟨k, x⟩ := e
    cases rest with
    | nil =>
      intro e' member
      simp only [markLastEntry, List.mem_singleton] at member
      exact ⟨(k, x), List.mem_singleton_self _, true, member⟩
    | cons e2 rest2 =>
      intro e' member
      simp only [markLastEntry, List.mem_cons] at member
      rcases member with rfl | later
      · exact ⟨(k, x), List.mem_cons_self, false, rfl⟩
      · obtain ⟨e, inRest, last, rfl⟩ := ih e' (by simpa [markLastEntry] using later)
        exact ⟨e, List.mem_cons_of_mem _ inRest, last, rfl⟩

/-- Each entry of a table stands, marked, in the marked table. -/
theorem markLastEntry_cover {α : Type} (mark : Bool → α → α) (t : Table α) :
    ∀ e ∈ t, ∃ last, (e.1, mark last e.2) ∈ markLastEntry mark t := by
  induction t with
  | nil => exact fun _ member => nomatch member
  | cons e rest ih =>
    obtain ⟨k, x⟩ := e
    cases rest with
    | nil =>
      intro e member
      rw [List.mem_singleton] at member
      subst member
      exact ⟨true, by simp [markLastEntry]⟩
    | cons e2 rest2 =>
      intro e member
      rcases List.mem_cons.mp member with rfl | later
      · exact ⟨false, by simp [markLastEntry]⟩
      · obtain ⟨last, marked⟩ := ih e later
        refine ⟨last, ?_⟩
        simp only [markLastEntry] at marked ⊢
        exact List.mem_cons_of_mem _ marked

theorem presents_markLastEntry (t : Table Model) :
    Presents t (markLastEntry (fun last m => { m with isLast := last }) t) where
  shows e' member := by
    obtain ⟨e, inT, last, rfl⟩ := mem_markLastEntry _ t e' member
    exact ⟨e, inT, rfl, rfl, rfl, rfl⟩
  keeps e member := by
    obtain ⟨last, marked⟩ := markLastEntry_cover _ t e member
    exact ⟨_, marked, rfl, rfl, rfl, rfl⟩

/-! ## From the built tables to the compiled ones -/

theorem mem_keptModels {f : Filter} {models : Table Model} {services : Table Service}
    {e : String × Model} (kept : e ∈ f.keptModels models services) : e ∈ models := by
  unfold Filter.keptModels at kept
  split at kept
  · exact (List.mem_filter.mp kept).1
  · exact kept

/-- In a keyed table, a model of another class is not the owner of a model's names. -/
theorem ownerKey_ne {models : Table Model} (keyed : Keyed models) {e C : String × Model}
    (inModels : e ∈ models) (inModelsC : C ∈ models) (other : C.2.className ≠ e.2.className) :
    ownerKey e.2.className ≠ some (Naming.modelKey C.2.className) := by
  intro owner
  unfold ownerKey at owner
  split at owner
  · cases owner
  · rw [Option.some.injEq] at owner
    have same : some e.2 = some C.2 := by
      rw [← Operations.Keyed.get?_className keyed inModels, owner,
        Operations.Keyed.get?_className keyed inModelsC]
    exact other (Option.some.inj same ▸ rfl)

/-- The filter keeps every model that a kept model or service depends on, and presenting the
kept models changes none of what they show; so what the built tables cover, the compiled
files import. -/
theorem namedModelsImported_of_covers (f : Filter) {models : Table Model}
    {services : Table Service} (keyed : Keyed models)
    (modelsCover : ∀ e ∈ models, plainAlias e.2 = false → ∀ name ∈ shownNames e.2,
      Covers models (ownerKey e.2.className) e.2.dependencies name)
    (servicesCover : ∀ s ∈ services, ∀ op ∈ s.2.operations, ∀ name ∈ Operations.shownNames op,
      ∀ C ∈ models, Naming.modelKey (stripWrappers name false) = Naming.modelKey C.2.className →
        C.2.className ∈ s.2.dependencies)
    {shown : Table Model} (presents : Presents (f.keptModels models services) shown)
    (url : String) :
    NamedModelsImported models
      { models := markLastEntry (fun last m => { m with isLast := last }) shown
        services := markLastEntry (fun last s => { s with isLast := last })
          (f.keptServices services)
        rootUrl := url } := by
  have compiled := presents.trans (presents_markLastEntry shown)
  have found : ∀ {C : String × Model}, C ∈ models →
      models.get? (Naming.modelKey C.2.className) = some C.2 :=
    fun inModels => Operations.Keyed.get?_className keyed inModels
  have inCompiled : ∀ {C : Model},
      (f.keptModels models services).get? (Naming.modelKey C.className) = some C →
        ∃ kept ∈ markLastEntry (fun last m => { m with isLast := last }) shown,
          kept.2.className = C.className := by
    intro C keptC
    obtain ⟨e', member, same⟩ := compiled.keeps _ (Table.mem_of_get? keptC)
    exact ⟨e', member, same.className⟩
  constructor
  · intro m member notPlain name named C inModelsC sameKey other
    obtain ⟨e, inKept, same⟩ := compiled.shows m member
    have inModels := mem_keptModels inKept
    have foundByName : models.get? (Naming.modelKey (stripWrappers name false)) = some C.2 := by
      rw [sameKey]
      exact found inModelsC
    have notOwner : ownerKey e.2.className ≠ some (Naming.modelKey C.2.className) := by
      rw [same.className] at other
      exact ownerKey_ne keyed inModels inModelsC other
    have listed : C.2.className ∈ e.2.dependencies := by
      rw [same.plain] at notPlain
      rw [same.shown] at named
      exact modelsCover e inModels notPlain name named C.2 foundByName notOwner
    exact ⟨same.dependencies ▸ listed,
      inCompiled (keptModels_closed f keyed services inKept listed (found inModelsC))⟩
  · intro s member op listed name named C inModelsC sameKey
    obtain ⟨s0, inKeptServices, last, rfl⟩ := mem_markLastEntry _ _ s member
    have dependency := servicesCover s0 (List.mem_filter.mp inKeptServices).1 op listed name
      named C inModelsC sameKey
    exact ⟨dependency,
      inCompiled (keptModels_used f keyed inKeptServices dependency (found inModelsC))⟩

/-- Whenever a document compiles, every model among those its definitions build that a
compiled model or service names in a type is imported where it is named: it is a dependency
of what names it, and it is kept in the compiled table. An alias of a plain type names no
dependency, and an operation without a successful response shows no result type; each
operation is taken to declare each response code once. -/
theorem compile_imports_shown_models (config : Config) (doc : Value)
    (distinct : ∀ d ∈ Operations.declaredOperations doc, (Operations.responseCodes d).Nodup) :
    Logged.Ensures (compile config doc) fun api =>
      ∀ built, Logged.Gives (Models.build config ((doc.field "definitions").getD .null)) built →
        NamedModelsImported built api := by
  unfold compile
  refine Logged.Ensures.bind (Logged.ensures_true _) fun version _ => ?_
  dsimp only
  split
  · exact Logged.ensures_throw_bind _ _ _
  refine Logged.Ensures.bind (Logged.ensures_true _) fun _ _ => ?_
  refine Logged.Ensures.bind ((Models.build_covers config _).and
    (Models.build_oblivious config _).ensures_unique) ?_
  rintro models ⟨⟨keyed, words, modelsCover⟩, unique⟩
  refine Logged.Ensures.bind (Operations.build_covers config doc keyed words distinct)
    fun services servicesCover => ?_
  refine Logged.Ensures.bind (Logged.ensures_true _) fun _ _ => ?_
  refine Logged.Ensures.bind (apply_returns_kept _ keyed services).ensures ?_
  rintro _ rfl
  dsimp only
  split
  · refine Logged.Ensures.bind (Logged.ensures_lift fun expanded mapped =>
      presents_expandExamples mapped) fun expanded presents => ?_
    refine Logged.Ensures.bind (Logged.ensures_true _) fun url _ => ?_
    refine Logged.ensures_pure fun built gives => ?_
    rw [unique built gives]
    exact namedModelsImported_of_covers _ keyed modelsCover servicesCover presents url
  · refine Logged.ensures_pure_bind ?_
    refine Logged.Ensures.bind (Logged.ensures_true _) fun url _ => ?_
    refine Logged.ensures_pure fun built gives => ?_
    rw [unique built gives]
    exact namedModelsImported_of_covers _ keyed modelsCover servicesCover (.refl _) url

/-- A document with an object whose property names another, and an operation that returns
the first object and takes the second. -/
def petsDocument : Value := .object [
  ("swagger", .str "2.0"),
  ("definitions", .object [
    ("Pet", .object [("type", .str "object"),
      ("properties", .object [("tag", .object [("$ref", .str "#/definitions/Tag")])])]),
    ("Tag", .object [("type", .str "object")])]),
  ("paths", .object [("/pets", .object [("get", .object [
    ("operationId", .str "getPet"),
    ("parameters", .list [.object [("name", .str "body"), ("in", .str "body"),
      ("schema", .object [("$ref", .str "#/definitions/Tag")])]]),
    ("responses", .object [("200", .object [("description", .str "ok"),
      ("schema", .object [("$ref", .str "#/definitions/Pet")])])])])])])]

/-- The document compiles, and the models it builds are imported where they are named. -/
theorem compile_imports_shown_models_pets :
    (∀ d ∈ Operations.declaredOperations petsDocument, (Operations.responseCodes d).Nodup) ∧
      ∃ api built, Logged.Gives (compile Config.default petsDocument) api ∧
        Logged.Gives
          (Models.build Config.default ((petsDocument.field "definitions").getD .null)) built ∧
        NamedModelsImported built api := by
  have distinct : ∀ d ∈ Operations.declaredOperations petsDocument,
      (Operations.responseCodes d).Nodup := by
    decide +kernel
  have compiles : ((compile Config.default petsDocument).runFrom #[]).1.isOk = true := by
    decide +kernel
  have builds : ((Models.build Config.default
      ((petsDocument.field "definitions").getD .null)).runFrom #[]).1.isOk = true := by
    decide +kernel
  obtain ⟨api, compiled⟩ := exists_ok_of_isOk compiles
  obtain ⟨built, made⟩ := exists_ok_of_isOk builds
  have gives : Logged.Gives (compile Config.default petsDocument) api :=
    ⟨#[], _, by rw [← compiled]⟩
  have givesBuilt : Logged.Gives
      (Models.build Config.default ((petsDocument.field "definitions").getD .null)) built :=
    ⟨#[], _, by rw [← made]⟩
  exact ⟨distinct, api, built, gives, givesBuilt,
    (compile_imports_shown_models Config.default petsDocument distinct).gives gives built
      givesBuilt⟩

/-- A definition that aliases the plain type `Bar` through `x-type`. -/
def plainAliasDocument : Value := .object [
  ("swagger", .str "2.0"),
  ("definitions", .object [
    ("Foo", .object [("type", .str "string"), ("x-type", .str "Bar")]),
    ("Bar", .object [("type", .str "object")])])]

/-- An operation without a successful response, beside a definition named `Null`. -/
def voidResultDocument : Value := .object [
  ("swagger", .str "2.0"),
  ("definitions", .object [("Null", .object [("type", .str "object")])]),
  ("paths", .object [("/ping", .object [("get", .object [
    ("operationId", .str "ping"), ("responses", .object [])])])])]

/-- An operation that declares the code 200 twice, as a number and as a text. -/
def twiceDeclaredDocument : Value := .object [
  ("swagger", .str "2.0"),
  ("definitions", .object [
    ("Pet", .object [("type", .str "object")]),
    ("Tag", .object [("type", .str "object")])]),
  ("paths", .object [("/p", .object [("get", .object [
    ("operationId", .str "p"),
    ("responses", .map [
      (.int 200, .object [("description", .str "a"),
        ("schema", .object [("$ref", .str "#/definitions/Pet")])]),
      (.str "200", .object [("description", .str "b"),
        ("schema", .object [("$ref", .str "#/definitions/Tag")])])])])])])]

/-- Without its exceptions, the import property fails. The plain alias `Foo` shows `Bar` and
has no dependency; the operation without a successful response shows `null`, which keys the
model `Null`, and its service has no dependency; and the operation that declares 200 twice
shows `Pet | Tag` while its service depends on `Tag` alone and `Pet` is dropped. -/
theorem compile_leaves_shown_models_unimported :
    (((compile { Config.default with ignoreUnusedModels := false } plainAliasDocument).runFrom
        #[]).1.toOption.map fun api =>
          api.models.map fun e => (e.2.className, shownNames e.2, e.2.dependencies)) =
      some [("Foo", ["Bar"], []), ("Bar", [], [])] ∧
    (((compile Config.default voidResultDocument).runFrom #[]).1.toOption.map fun api =>
        api.services.map fun s =>
          (s.2.operations.map fun op => op.resultType.dependencyNames, s.2.dependencies)) =
      some [([["null"]], [])] ∧
    (((compile Config.default twiceDeclaredDocument).runFrom #[]).1.toOption.map fun api =>
        (api.services.map fun s =>
          (s.2.operations.map fun op => op.resultType.dependencyNames, s.2.dependencies),
          api.models.map fun e => e.2.className)) =
      some ([([["Pet", "Tag"]], ["Tag"])], ["Tag"]) := by
  refine ⟨?_, ?_, ?_⟩ <;> decide +kernel

end ClientGen.Api
