import ClientGen.Api.Operations
import ClientGen.Proofs.ModelTable

/-!
# The service table

`Operations.build` files every operation of the document under the service of its first tag,
and then gives each service the models its operations use. Each operation is built from a name
`operationId` gives (`operation_spec`); its result type is built from the types of its
successful responses, and the dependencies of a service from the responses on file; the two
agree when an operation declares each response code once (`ResultFromResponses`). So every
type name a service shows is covered by its dependencies (`build_covers`).
-/
namespace ClientGen

/-- A service without its description, its dependencies and its last mark: what filing the
operations of its tag makes of it. -/
def Service.core (s : Service) : Service :=
  { s with description := .null, dependencies := [], errorDependencies := [], isLast := false }

end ClientGen

namespace ClientGen.Operations

open Selection Dependencies

/-! ## Responses -/

theorem successful_eq {code : String} {verdict : Bool} (read : successCode code = .ok verdict) :
    successful code = verdict := by
  have digits : Text.allDigits code = true ∨ verdict = false := by
    cases notDigits : Text.allDigits code
    · simp only [successCode, notDigits, Bool.false_eq_true, if_false, Except.ok.injEq] at read
      exact .inr read.symm
    · exact .inl rfl
  cases verdict <;> simp_all [successful, Except.toOption]

/-- What one declared response does to the outcome: nothing, or the type of its schema is
filed under its code, and counted among the result types when the code is a success. -/
theorem addResponse_cases {doc : Value} {acc acc' : Outcome} {entry : Value × Value}
    (added : addResponse doc acc entry = .ok acc') :
    acc' = acc ∨ ∃ type description,
      acc'.responses = acc.responses.put entry.1.display ⟨entry.1.display, type, description⟩ ∧
      acc'.types = acc.types ++ if successful entry.1.display then [type] else [] := by
  unfold addResponse at added
  obtain ⟨response, _, added⟩ := except_bind_ok added
  dsimp only at added
  split at added
  · split at added
    · cases added
      exact .inl rfl
    · cases added
      exact .inl rfl
    · obtain ⟨type, _, added⟩ := except_bind_ok added
      obtain ⟨isSuccess, verdict, added⟩ := except_bind_ok added
      rw [successful_eq verdict]
      cases isSuccess
      · cases added
        exact .inr ⟨type, _, rfl, by simp⟩
      · cases added
        exact .inr ⟨type, _, rfl, rfl⟩
  · cases added
    exact .inl rfl

/-- The types of the successful responses on file, in order. -/
def successTypes (responses : Table Response) : List TypeExpr :=
  (responses.filter fun r => successful r.1).map (·.2.type)

/-- The result types counted are those of the successful responses on file. -/
def TypesOnFile (acc : Outcome) : Prop := acc.types = successTypes acc.responses

/-- The codes of declared responses, as the texts they are filed under. -/
def codesOf (entries : List (Value × Value)) : List String := entries.map fun e => e.1.display

/-- Read under distinct codes, every response is filed after those before it, so the result
types counted stay those of the successful responses on file. -/
theorem foldlM_addResponse_onFile (doc : Value) (entries : List (Value × Value))
    {acc out : Outcome} (distinct : (codesOf entries).Nodup)
    (fresh : ∀ k ∈ acc.responses.keys, k ∉ codesOf entries) (onFile : TypesOnFile acc)
    (read : entries.foldlM (addResponse doc) acc = .ok out) : TypesOnFile out := by
  induction entries generalizing acc with
  | nil =>
    cases read
    exact onFile
  | cons entry rest ih =>
    rw [List.foldlM_cons] at read
    obtain ⟨next, added, continued⟩ := except_bind_ok read
    simp only [codesOf, List.map_cons, List.nodup_cons] at distinct
    have restFresh : ∀ k ∈ acc.responses.keys, k ∉ codesOf rest :=
      fun k member inRest => fresh k member (List.mem_cons_of_mem _ inRest)
    rcases addResponse_cases added with rfl | ⟨type, description, filed, counted⟩
    · exact ih distinct.2 restFresh onFile continued
    · have newCode : entry.1.display ∉ acc.responses.keys :=
        fun member => fresh _ member List.mem_cons_self
      rw [Table.put_of_not_mem newCode] at filed
      refine ih distinct.2 ?_ ?_ continued
      · intro k member
        rw [filed] at member
        simp only [Table.keys, List.map_append, List.map_cons, List.map_nil, List.mem_append,
          List.mem_singleton] at member
        rcases member with old | rfl
        · exact restFresh k old
        · exact distinct.1
      · unfold TypesOnFile successTypes at onFile ⊢
        rw [counted, filed, onFile, List.filter_append, List.map_append]
        by_cases isSuccess : successful entry.1.display = true <;> simp [isSuccess]

/-- The result type of an operation is the result type of its successful responses. -/
def ResultFromResponses (op : Operation) : Prop :=
  op.resultType = resultType (successTypes op.responses)

/-- The response codes an operation declares, as the texts they are filed under. -/
def responseCodes (definition : Value) : List String :=
  match (definition.field "responses").getD .null with
  | .map entries => codesOf entries
  | _ => []

/-- What an operation built from the name `id` is made of: its name and its parameters class
come from `id`, its kind classifies its result type against the model table, and its result
type is that of its successful responses when no response code is declared twice. -/
structure BuiltFrom (config : Config) (models : Table Model) (definition : Value) (id : String)
    (op : Operation) : Prop where
  name : op.name =
    if config.camelCase then Text.lower (Text.takeChars id 1) ++ Text.dropChars id 1 else id
  paramsClass : op.paramsClass = none ∨
    op.paramsClass = some (Text.upper (Text.takeChars id 1) ++ Text.dropChars id 1 ++ "Params")
  classified : op.resultKind = classify models op.resultType
  result : (responseCodes definition).Nodup → ResultFromResponses op

/-- Building an operation takes a name that `operationId` gives and builds the operation from
it. -/
theorem operation_spec (config : Config) (doc : Value) (models : Table Model)
    (serviceClass : String) (known : List String) (url : Value) (method : String)
    (definition pathItem : Value) :
    Logged.Ensures (operation config doc models serviceClass known url method definition pathItem)
      fun built =>
        Logged.Gives (operationId ((definition.field "operationId").getD .null) method url known)
          built.1 ∧ BuiltFrom config models definition built.1 built.2 := by
  unfold operation
  refine Logged.Ensures.bind (Logged.ensures_gives _) fun id named => ?_
  refine Logged.Ensures.bind (Logged.ensures_true _) fun declared _ => ?_
  refine Logged.Ensures.bind (Logged.ensures_true _) fun shared _ => ?_
  refine Logged.Ensures.bind (Logged.ensures_true _) fun built _ => ?_
  refine Logged.Ensures.bind (Logged.ensures_true _) fun sorted _ => ?_
  refine Logged.Ensures.bind (Logged.ensures_true _) fun expression _ => ?_
  dsimp only
  split
  rotate_left
  split
  · exact Logged.ensures_throw_bind _ _ _
  all_goals
    refine Logged.ensures_pure_bind ?_
    refine Logged.Ensures.bind (Logged.ensures_lift
      fun outcome read (distinct : (responseCodes definition).Nodup) =>
        foldlM_addResponse_onFile doc _ ?_ (by simp [Table.keys]) (by simp [TypesOnFile, successTypes]) read)
      fun outcome onFile => ?_
    rotate_left
    refine Logged.Ensures.bind (Logged.ensures_true _) fun description _ => ?_
    refine Logged.Ensures.bind (Logged.ensures_true _) fun summary _ => ?_
    refine Logged.Ensures.bind (Logged.ensures_true _) fun details _ => ?_
    refine Logged.Ensures.bind (Logged.ensures_true _) fun text _ => ?_
    exact Logged.ensures_pure ⟨named, rfl, by dsimp only; split <;> simp, rfl,
      fun distinct => congrArg resultType (onFile distinct)⟩
  · exact List.nodup_nil
  · next entries declaredMap =>
    simpa [responseCodes, declaredMap] using distinct

/-! ## Adding operations to services -/

/-- The service a tag files its operations under so far. -/
def Draft.service (config : Config) (draft : Draft) (tag : String) : Service :=
  (draft.services.get? tag).getD (newService config tag)

/-- The operation names taken so far in the service of a tag. -/
def Draft.known (draft : Draft) (tag : String) : List String :=
  (draft.names.get? tag).getD []

/-- The draft with an operation, named `id`, added to the service of `tag`. -/
def Draft.extend (config : Config) (draft : Draft) (tag id : String) (op : Operation) : Draft :=
  { services := draft.services.put tag
      { draft.service config tag with operations := (draft.service config tag).operations ++ [op] }
    names := draft.names.put tag (draft.known tag ++ [id]) }

/-- What adding one method does: nothing, or the operation built for it, under a name not yet
known, is added to the service of its first tag. -/
theorem addMethod_cases {config : Config} {doc : Value} {models : Table Model} {url : Value}
    {pathItem : Value} {draft draft' : Draft} {entry : Value × Value} {logs after : Array LogRecord}
    (added : (addMethod config doc models url pathItem draft entry).runFrom logs =
      (.ok draft', after)) :
    draft' = draft ∨ ∃ method tag id op, entry.1 = .str method ∧
      Logged.Gives (operation config doc models (draft.service config tag).serviceClass
        (draft.known tag) url method entry.2 pathItem) (id, op) ∧
      draft' = draft.extend config tag id op := by
  obtain ⟨key, definition⟩ := entry
  unfold addMethod at added
  dsimp only at added
  split at added
  · next method =>
    simp only [Logged.runFrom_bind, Logged.runFrom_pure] at added
    split at added
    · simp only [Logged.runFrom_pure, Prod.mk.injEq, Except.ok.injEq] at added
      exact .inl added.1.symm
    · split at added
      · obtain ⟨first, mid, _, added⟩ := Logged.bind_success added
        obtain ⟨⟨id, op⟩, mid', built, added⟩ := Logged.bind_success added
        simp only [Logged.runFrom_pure, Prod.mk.injEq, Except.ok.injEq] at added
        exact .inr ⟨method, _, id, op, rfl, ⟨mid, mid', built⟩, added.1.symm⟩
      · simp only [Logged.runFrom_pure, Prod.mk.injEq, Except.ok.injEq] at added
        exact .inl added.1.symm
  · simp only [Logged.runFrom_bind, Logged.runFrom_throw] at added
    cases added

/-- Every operation filed in the services has property `good`. -/
def AllOperations (good : Operation → Prop) (services : Table Service) : Prop :=
  ∀ s ∈ services, ∀ op ∈ s.2.operations, good op

section Invariant

variable {good : Operation → Prop} {config : Config} {doc : Value} {models : Table Model}

theorem AllOperations.extend {draft : Draft} (all : AllOperations good draft.services)
    {tag id : String} {op : Operation} (new : good op) :
    AllOperations good (draft.extend config tag id op).services := by
  intro s member op' listed
  rcases Table.mem_put member with rfl | old
  · rcases List.mem_append.mp listed with before | added
    · unfold Draft.service at before
      cases found : draft.services.get? tag with
      | none => simp [found, newService] at before
      | some s0 =>
        rw [found, Option.getD_some] at before
        exact all _ (Table.mem_of_get? found) op' before
    · rw [List.mem_singleton] at added
      exact added ▸ new
  · exact all s old op' listed

theorem addMethod_keeps {url : Value} {pathItem : Value} {entry : Value × Value}
    (built : ∀ cls known method id op, Logged.Gives
      (operation config doc models cls known url method entry.2 pathItem) (id, op) → good op)
    {draft : Draft} (all : AllOperations good draft.services) :
    Logged.Ensures (addMethod config doc models url pathItem draft entry)
      fun d => AllOperations good d.services := by
  intro logs d' after added
  rcases addMethod_cases added with rfl | ⟨method, tag, id, op, _, gives, rfl⟩
  · exact all
  · exact all.extend (built _ _ _ id op gives)

/-- What each method of a path keeps, the whole path keeps. -/
theorem addPath_invariant (inv : Draft → Prop) {entry : Value × Value}
    (step : ∀ methods, entry.2 = .map methods → ∀ m ∈ methods, ∀ url draft, inv draft →
      Logged.Ensures (addMethod config doc models url entry.2 draft m) inv)
    {draft : Draft} (holds : inv draft) :
    Logged.Ensures (addPath config doc models draft entry) inv := by
  obtain ⟨key, pathItem⟩ := entry
  unfold addPath
  dsimp only
  split
  · next methods =>
    exact Logged.ensures_foldlM _ _ _ _ holds fun d m member kept =>
      step methods rfl m member _ d kept
  · exact Logged.ensures_pure holds

theorem addPath_keeps {entry : Value × Value}
    (built : ∀ methods, entry.2 = .map methods → ∀ m ∈ methods, ∀ cls known url method id op,
      Logged.Gives (operation config doc models cls known url method m.2 entry.2) (id, op) →
        good op)
    {draft : Draft} (all : AllOperations good draft.services) :
    Logged.Ensures (addPath config doc models draft entry)
      fun d => AllOperations good d.services :=
  addPath_invariant _ (fun methods isMap m member url _ kept =>
    addMethod_keeps (fun cls known method => built methods isMap m member cls known url method)
      kept) all

/-- Descriptions from the document's tags change no service but for its description. -/
theorem describeServices_core (services : Table Service) (tags : List Value) :
    ∀ s ∈ describeServices config services tags, ∃ s0 ∈ services, s.2.core = s0.2.core := by
  unfold describeServices
  induction tags generalizing services with
  | nil => exact fun s member => ⟨s, member, rfl⟩
  | cons tag rest ih =>
    intro s member
    rw [List.foldl_cons] at member
    obtain ⟨s1, member1, same1⟩ := ih _ s member
    have step : ∃ s0 ∈ services, s1.2.core = s0.2.core := by
      dsimp only at member1
      split at member1
      · split at member1
        · rcases Table.mem_modify member1 with old | ⟨x, inServices, rfl⟩
          · exact ⟨s1, old, rfl⟩
          · exact ⟨(_, x), inServices, rfl⟩
        · exact ⟨s1, member1, rfl⟩
      · exact ⟨s1, member1, rfl⟩
    obtain ⟨s0, member0, same0⟩ := step
    exact ⟨s0, member0, same1.trans same0⟩

/-- The operations a document declares: the values under the methods of its paths. -/
def declaredOperations (doc : Value) : List Value :=
  match (doc.field "paths").getD .null with
  | .map paths => paths.flatMap fun p =>
    match p.2 with
    | .map methods => methods.map (·.2)
    | _ => []
  | _ => []

theorem getD_ok {v : Value} {key : String} {default found : Value}
    (got : v.getD key default = .ok found) : found = (v.field key).getD default := by
  unfold Value.getD Value.get at got
  split at got
  · cases got
    rfl
  · cases got

/-- What the empty draft has and each path keeps, the draft the services are built from has;
each built service is a service of that draft, but for its description and dependencies, and
its dependencies are those of its operations. -/
theorem build_drafts_core (inv : Draft → Prop) (start : inv ⟨[], []⟩)
    (step : ∀ entries, (doc.field "paths").getD .null = .map entries → ∀ entry ∈ entries,
      ∀ draft, inv draft → Logged.Ensures (addPath config doc models draft entry) inv) :
    Logged.Ensures (build config doc models) fun services => ∃ draft, inv draft ∧
      ∀ s ∈ services, (∃ s0 ∈ draft.services, s.2.core = s0.2.core) ∧
        ofOperations models s.2.operations = .ok (s.2.dependencies, s.2.errorDependencies) := by
  unfold build
  refine Logged.Ensures.bind (Logged.ensures_lift fun paths got => getD_ok got) ?_
  intro paths pathsEq
  dsimp only
  split
  rotate_left
  split
  · exact Logged.ensures_throw_bind _ _ _
  all_goals
    refine Logged.ensures_pure_bind ?_
    refine Logged.Ensures.bind (Logged.ensures_foldlM _ _ _ inv start
      fun d entry member kept => step _ ?_ entry member d kept) fun draft drafted => ?_
    rotate_left
    refine Logged.Ensures.bind (Logged.ensures_true _) fun tags _ => ?_
    refine Logged.ensures_lift fun services mapped => ⟨draft, drafted, fun s member => ?_⟩
    obtain ⟨x, described, filed⟩ := mapM_ok_mem _ _ mapped s member
    obtain ⟨⟨deps, errorDeps⟩, collected, filed⟩ := except_bind_ok filed
    cases filed
    exact ⟨describeServices_core _ _ x described, collected⟩
  · exact nomatch ‹_ ∈ []›
  · exact pathsEq.symm

/-- What the empty draft has and each path keeps, the draft the services are built from has;
each built service has the operations of a service of that draft, and the dependencies of
its operations. -/
theorem build_drafts (inv : Draft → Prop) (start : inv ⟨[], []⟩)
    (step : ∀ entries, (doc.field "paths").getD .null = .map entries → ∀ entry ∈ entries,
      ∀ draft, inv draft → Logged.Ensures (addPath config doc models draft entry) inv) :
    Logged.Ensures (build config doc models) fun services => ∃ draft, inv draft ∧
      ∀ s ∈ services, (∃ s0 ∈ draft.services, s.2.operations = s0.2.operations) ∧
        ofOperations models s.2.operations = .ok (s.2.dependencies, s.2.errorDependencies) := by
  refine (build_drafts_core inv start step).mono ?_
  rintro services ⟨draft, kept, made⟩
  refine ⟨draft, kept, fun s member => ?_⟩
  obtain ⟨⟨s0, inDraft, same⟩, dependencies⟩ := made s member
  exact ⟨⟨s0, inDraft, (congrArg Service.operations same :)⟩, dependencies⟩

/-- If every operation built from a declared one has property `good`, so has every operation
of the services built, and each service's dependencies are those of its operations. -/
theorem build_keeps
    (built : ∀ d ∈ declaredOperations doc, ∀ pathItem cls known url method id op,
      Logged.Gives (operation config doc models cls known url method d pathItem) (id, op) →
        good op) :
    Logged.Ensures (build config doc models) fun services => AllOperations good services ∧
      ∀ s ∈ services, ofOperations models s.2.operations = .ok (s.2.dependencies,
        s.2.errorDependencies) := by
  refine (build_drafts (fun d => AllOperations good d.services) (fun s member => nomatch member)
    fun entries pathsEq entry member draft all => addPath_keeps ?_ all).mono ?_
  · intro methods isMap m inMethods
    apply built m.2
    unfold declaredOperations
    rw [pathsEq]
    refine List.mem_flatMap.mpr ⟨_, member, ?_⟩
    rw [isMap]
    exact List.mem_map_of_mem inMethods
  · rintro services ⟨draft, all, made⟩
    refine ⟨fun s member op listed => ?_, fun s member => (made s member).2⟩
    obtain ⟨s0, inDraft, same⟩ := (made s member).1
    exact all s0 inDraft op (same ▸ listed)

end Invariant

/-! ## What a service shows -/

theorem mem_addNew {acc names : List String} {n : String}
    (member : n ∈ TypeExpr.addNew acc names) : n ∈ acc ∨ n ∈ names := by
  induction names generalizing acc with
  | nil => exact .inl member
  | cons name rest ih =>
    rcases ih member with old | later
    · split at old
      · exact .inl old
      · rcases List.mem_append.mp old with old | new
        · exact .inl old
        · exact .inr (List.mem_singleton.mp new ▸ List.mem_cons_self)
    · exact .inr (List.mem_cons_of_mem name later)

theorem mem_mergeNames {ts : List TypeExpr} {n : String}
    (member : n ∈ TypeExpr.mergeNames ts) : ∃ t ∈ ts, n ∈ t.ownNames := by
  unfold TypeExpr.mergeNames at member
  have merged : ∀ (acc : List String) (ts : List TypeExpr),
      n ∈ ts.foldl (fun acc t => TypeExpr.addNew acc t.ownNames) acc →
        n ∈ acc ∨ ∃ t ∈ ts, n ∈ t.ownNames := by
    intro acc ts
    induction ts generalizing acc with
    | nil => exact .inl
    | cons t rest ih =>
      intro inFold
      rcases ih _ inFold with old | ⟨t', inRest, named⟩
      · rcases mem_addNew old with older | new
        · exact .inl older
        · exact .inr ⟨t, List.mem_cons_self, new⟩
      · exact .inr ⟨t', List.mem_cons_of_mem t inRest, named⟩
  rcases merged [] ts member with nothing | found
  · cases nothing
  · exact found

/-- A name of a result type is a name of one of the types it is built from, or the text of
one without constituents. -/
theorem mem_resultType_names {ts : List TypeExpr} (nonempty : ts ≠ []) {n : String}
    (member : n ∈ (resultType ts).dependencyNames) :
    ∃ t ∈ ts, n ∈ t.dependencyNames ∨ (t.parts = none ∧ n = t.text) := by
  match ts, nonempty with
  | [t], _ => exact ⟨t, List.mem_singleton_self t, .inl member⟩
  | t :: t' :: rest, _ =>
    obtain ⟨source, inTypes, named⟩ := mem_mergeNames member
    refine ⟨source, inTypes, ?_⟩
    cases parts : source.parts with
    | none =>
      simp only [TypeExpr.ownNames, parts, Option.getD_none, List.mem_singleton] at named
      exact .inr ⟨rfl, named⟩
    | some ps =>
      simp only [TypeExpr.ownNames, parts, Option.getD_some] at named
      exact .inl (by simp [TypeExpr.dependencyNames, parts, named])

/-- The type names the service template shows for an operation: those of its result type,
when a successful response gives one, and those of its parameters' types. -/
def shownNames (op : Operation) : List String :=
  (if (successTypes op.responses).isEmpty then [] else op.resultType.dependencyNames) ++
    op.parameters.flatMap (·.type.dependencyNames)

theorem Keyed.get?_className {models : Table Model} (keyed : Keyed models)
    {e : String × Model} (member : e ∈ models) :
    models.get? (Naming.modelKey e.2.className) = some e.2 :=
  keyed.key_eq e member ▸ keyed.get?_of_mem member

/-- Every type name a built service shows names a model among its dependencies, when each operation
of the document declares its response codes once. The text of a plain type may stand in a union; the
service collects it stripped, which finds the same model since the stripped text keys a class name.
-/
theorem build_covers (config : Config) (doc : Value) {models : Table Model} (keyed : Keyed models)
    (words : ∀ e ∈ models, Naming.WordName e.2.className)
    (distinct : ∀ d ∈ declaredOperations doc, (responseCodes d).Nodup) :
    Logged.Ensures (build config doc models) fun services =>
      ∀ s ∈ services, ∀ op ∈ s.2.operations, ∀ name ∈ shownNames op, ∀ C ∈ models,
        Naming.modelKey (stripWrappers name false) = Naming.modelKey C.2.className →
          C.2.className ∈ s.2.dependencies := by
  have fromResponses : ∀ d ∈ declaredOperations doc, ∀ pathItem cls known url method id op,
      Logged.Gives (operation config doc models cls known url method d pathItem) (id, op) →
        ResultFromResponses op := by
    intro d declared pathItem cls known url method id op gives
    exact ((operation_spec config doc models cls known url method d pathItem).gives gives).2.result
      (distinct d declared)
  refine (build_keeps fromResponses).mono ?_
  rintro services ⟨results, collected⟩ s member op listed name shown C inModels sameKey
  have covers := ofOperations_covers keyed s.2.operations (collected s member) op listed
  have found := Keyed.get?_className keyed inModels
  have foundByName : models.get? (Naming.modelKey (stripWrappers name false)) = some C.2 := by
    rw [sameKey]
    exact found
  have notOwner : (none : Option String) ≠ some (Naming.modelKey C.2.className) := by simp
  rcases List.mem_append.mp shown with inResult | inParameter
  · split at inResult
    · cases inResult
    · next someSuccess =>
      have nonempty : successTypes op.responses ≠ [] := by simpa using someSuccess
      rw [results s member op listed] at inResult
      obtain ⟨t, inTypes, named | ⟨plain, rfl⟩⟩ := mem_resultType_names nonempty inResult
      · obtain ⟨r, inSuccess, rfl⟩ := List.mem_map.mp inTypes
        obtain ⟨inResponses, isSuccess⟩ := List.mem_filter.mp inSuccess
        exact covers.1 r inResponses isSuccess name named C.2 foundByName notOwner
      · obtain ⟨r, inSuccess, rfl⟩ := List.mem_map.mp inTypes
        obtain ⟨inResponses, isSuccess⟩ := List.mem_filter.mp inSuccess
        have stable := Naming.stripWrappers_stable (words C inModels) sameKey
        refine covers.1 r inResponses isSuccess (stripWrappers r.2.type.text false)
          (by simp [TypeExpr.dependencyNames, plain]) C.2 ?_ notOwner
        rw [stable, sameKey]
        exact found
  · obtain ⟨p, inParameters, named⟩ := List.mem_flatMap.mp inParameter
    exact covers.2 p inParameters name named C.2 foundByName notOwner

end ClientGen.Operations
