import ClientGen.Proofs.ServiceTable
import ClientGen.Proofs.ReferenceFrame
import ClientGen.Proofs.Compiled
import ClientGen.Proofs.Table

/-!
# The services of a document without the operations of excluded services

A run's tag filter keeps some services and drops the others. `withoutExcluded` removes from a
document every operation filed under a service the filter drops, and nothing else. Building the
service table of that document gives the table of the whole document with the dropped services
taken out (`build_alike`): operation names are made unique within one service only, so the
operations of one service never rename those of another, and a service keeps its place among
the others. Two conditions make this hold. A reference that points into the paths could read an
operation that was removed, so every reference of the document points elsewhere; and a path item
repeats no key, so removing a method cannot bring a second entry of the same key to light.
-/
namespace ClientGen.Operations

open Reference Selection

/-! ## Removing the operations of excluded services -/

/-- The service an entry of a path item files an operation under: the tag name of the first
tag of a method that is a mapping, with the run's default tag. The path's parameters, an
extension, an entry that is no mapping and one whose first tag cannot be read file none. -/
def serviceOf (config : Config) : Value × Value → Option String
  | (.str method, definition@(.map _)) =>
    if method = "parameters" || Text.startsWith method "x-" then none
    else match firstItem ((definition.field "tags").getD .null) with
      | .ok first => some (Naming.tagName first (.str config.defaultTag))
      | .error _ => none
  | _ => none

/-- Whether a path item keeps an entry: it files no operation, or files one under a service
the run's tag filter keeps. -/
def keepsEntry (config : Config) (entry : Value × Value) : Bool :=
  (serviceOf config entry).all (Api.filterOf config).includes

/-- A path item without the operations of excluded services. -/
def pruneItem (config : Config) : Value → Value
  | .map methods => .map (methods.filter (keepsEntry config))
  | v => v

/-- The paths of a document without the operations of excluded services. -/
def prunePaths (config : Config) : Value → Value
  | .map paths => .map (paths.map fun e => (e.1, pruneItem config e.2))
  | v => v

/-- The document without the operations of the services the run's tag filter excludes. -/
def withoutExcluded (config : Config) (doc : Value) : Value :=
  replaceUnder "paths" (prunePaths config) doc

/-- Whether no two entries of a path item have the same key. -/
def keysDistinct : Value → Bool
  | .map entries => decide (entries.Pairwise fun a b => a.1.same b.1 = false)
  | _ => true

/-- The path items of a document, as the service table reads them. -/
def pathItems (doc : Value) : List Value :=
  match (doc.field "paths").getD .null with
  | .map paths => paths.map (·.2)
  | _ => []

/-! ## What a pruned path item reads -/

/-- With distinct keys, the entry of a key in the entries some test keeps is the entry of that
key, if the test keeps it. -/
theorem entryOf_filter {entries : List (Value × Value)}
    (distinct : entries.Pairwise fun a b => a.1.same b.1 = false) (keep : Value × Value → Bool)
    (name : String) :
    Value.entryOf (entries.filter keep) (.str name) =
      ((entries.find? fun e => e.1.same (.str name)).filter keep).map (·.2) := by
  induction entries with
  | nil => rfl
  | cons x rest ih =>
    obtain ⟨apart, restDistinct⟩ := List.pairwise_cons.mp distinct
    by_cases named : x.1.same (.str name) = true
    · have isName := (Value.same_str_iff _ _).mp named
      have noOther : (rest.find? fun e => e.1.same (.str name)) = none := by
        refine List.find?_eq_none.mpr fun y member found => ?_
        have other := apart y member
        rw [isName, (Value.same_str_iff _ _).mp found] at other
        simp [Value.same] at other
      have noneKept : ((rest.filter keep).find? fun e => e.1.same (.str name)) = none := by
        refine List.find?_eq_none.mpr fun y member found => ?_
        exact absurd (List.find?_eq_none.mp noOther y (List.mem_filter.mp member).1)
          (by simp [found])
      have head : (x :: rest).find? (fun e => e.1.same (.str name)) = some x :=
        List.find?_cons_of_pos named
      rw [head, List.filter_cons]
      by_cases kept : keep x = true
      · simp [kept, Value.entryOf, named, Option.filter_some]
      · simp [kept, Value.entryOf, noneKept, Option.filter_some]
    · have later : (x :: rest).find? (fun e => e.1.same (.str name)) =
          rest.find? fun e => e.1.same (.str name) :=
        List.find?_cons_of_neg named
      rw [later, List.filter_cons, ← ih restDistinct]
      split
      · simp [Value.entryOf, named]
      · rfl

/-- An entry that files an operation holds a mapping. -/
theorem map_of_serviceOf {config : Config} {entry : Value × Value} {tag : String}
    (filed : serviceOf config entry = some tag) : ∃ entries, entry.2 = .map entries := by
  obtain ⟨key, definition⟩ := entry
  cases key with
  | str method =>
    cases definition with
    | map entries => exact ⟨entries, rfl⟩
    | _ => simp [serviceOf] at filed
  | _ => simp [serviceOf] at filed

/-- An entry a path item drops files an operation under a service the filter excludes. -/
theorem serviceOf_of_dropped {config : Config} {entry : Value × Value}
    (dropped : keepsEntry config entry = false) :
    ∃ tag, serviceOf config entry = some tag ∧ (Api.filterOf config).includes tag = false := by
  unfold keepsEntry at dropped
  cases filed : serviceOf config entry with
  | none => simp [filed] at dropped
  | some tag =>
    rw [filed, Option.all_some] at dropped
    exact ⟨tag, rfl, dropped⟩

section Pruned

variable {config : Config} {methods : List (Value × Value)}

/-- A pruned path item keeps its parameters. The entry of the parameters files no operation, so it
is kept. -/
theorem field_pruned_parameters (distinct : methods.Pairwise fun a b => a.1.same b.1 = false) :
    (Value.map (methods.filter (keepsEntry config))).field "parameters" =
      (Value.map methods).field "parameters" := by
  simp only [Value.field]
  rw [entryOf_filter distinct]
  simp only [Value.entryOf]
  cases found : methods.find? fun e => e.1.same (.str "parameters") with
  | none => rfl
  | some e =>
    have hit := List.find?_some found
    have named := (Value.same_str_iff _ _).mp hit
    have kept : keepsEntry config e = true := by
      obtain ⟨key, definition⟩ := e
      simp only at named
      subst named
      cases definition <;> simp [keepsEntry, serviceOf]
    rw [Option.filter_some, if_pos kept]

/-- A pruned path item has the summary it had, or none where the summary was a method that
files an operation, a mapping. -/
theorem field_pruned_summary (distinct : methods.Pairwise fun a b => a.1.same b.1 = false) :
    (Value.map (methods.filter (keepsEntry config))).field "summary" =
        (Value.map methods).field "summary" ∨
      (Value.map (methods.filter (keepsEntry config))).field "summary" = none ∧
        ∃ entries, (Value.map methods).field "summary" = some (.map entries) := by
  simp only [Value.field]
  rw [entryOf_filter distinct]
  simp only [Value.entryOf]
  cases found : methods.find? fun e => e.1.same (.str "summary") with
  | none => exact .inl rfl
  | some e =>
    rw [Option.filter_some]
    cases kept : keepsEntry config e with
    | true => exact .inl (by rw [if_pos rfl])
    | false =>
      obtain ⟨tag, filed, _⟩ := serviceOf_of_dropped kept
      obtain ⟨entries, isMap⟩ := map_of_serviceOf filed
      refine .inr ⟨by simp, entries, ?_⟩
      rw [Option.map_some, isMap]

end Pruned

/-! ## Drafts with only the kept services -/

/-- The draft with only the services, and their operation names, that `keep` keeps. -/
def Draft.keepOnly (keep : String → Bool) (draft : Draft) : Draft :=
  ⟨draft.services.filter fun e => keep e.1, draft.names.filter fun e => keep e.1⟩

section KeepOnly

variable {keep : String → Bool} {draft : Draft} {tag : String}

theorem Draft.service_keepOnly (config : Config) (kept : keep tag = true) :
    (draft.keepOnly keep).service config tag = draft.service config tag := by
  simp only [Draft.service, Draft.keepOnly, Table.get?_filter, kept, if_true]

theorem Draft.known_keepOnly (kept : keep tag = true) :
    (draft.keepOnly keep).known tag = draft.known tag := by
  simp only [Draft.known, Draft.keepOnly, Table.get?_filter, kept, if_true]

/-- Adding an operation and then keeping some services is keeping them first, and adding the
operation when its service is kept. -/
theorem Draft.keepOnly_extend (config : Config) (keep : String → Bool) (draft : Draft)
    (tag id : String) (op : Operation) :
    (draft.extend config tag id op).keepOnly keep =
      if keep tag then (draft.keepOnly keep).extend config tag id op else draft.keepOnly keep := by
  unfold Draft.extend Draft.keepOnly
  split
  · next kept =>
    simp only [Table.filter_put, kept, if_true]
    rw [← Draft.keepOnly, Draft.service_keepOnly config kept, Draft.known_keepOnly kept]
  · next dropped =>
    simp only [Table.filter_put, dropped, Bool.false_eq_true, if_false]

end KeepOnly

/-! ## What adding one entry does -/

section AddMethod

variable {config : Config} {doc : Value} {models : Table Model} {url : Value} {item : Value}
  {draft : Draft} {entry : Value × Value}

/-- An entry that files no operation leaves the draft as it is, or is refused. -/
theorem addMethod_unfiled (unfiled : serviceOf config entry = none) :
    Logged.Ensures (addMethod config doc models url item draft entry) (· = draft) := by
  obtain ⟨key, definition⟩ := entry
  unfold addMethod
  dsimp only
  cases key with
  | str method =>
    simp only [pure_bind]
    split
    · exact Logged.ensures_pure rfl
    · next notSkipped =>
      cases definition with
      | map methods =>
        dsimp only
        cases read : firstItem (((Value.map methods).field "tags").getD .null) with
        | ok first => simp [serviceOf, notSkipped, read] at unfiled
        | error fault =>
          exact Logged.ensures_throw_bind _ _ _
      | _ => exact Logged.ensures_pure rfl
  | _ =>
    exact Logged.ensures_throw_bind _ _ _

/-- An entry that files an operation under `tag` adds the operation built for it to that
service. -/
theorem addMethod_filed (doc : Value) (models : Table Model) (url : Value) (item : Value)
    (draft : Draft) {tag : String} (filed : serviceOf config entry = some tag) :
    ∃ method, entry.1 = .str method ∧ addMethod config doc models url item draft entry =
      operation config doc models (draft.service config tag).serviceClass (draft.known tag) url
        method entry.2 item >>= fun r => pure (draft.extend config tag r.1 r.2) := by
  obtain ⟨key, definition⟩ := entry
  cases key with
  | str method =>
    cases definition with
    | map methods =>
      simp only [serviceOf] at filed
      split at filed
      · cases filed
      · next notSkipped =>
        split at filed
        · next first read =>
          cases filed
          refine ⟨method, rfl, ?_⟩
          unfold addMethod
          simp only [read, pure_bind, notSkipped, Bool.false_eq_true, if_false, Logged.lift]
          rfl
        · cases filed
    | _ => simp [serviceOf] at filed
  | _ => simp [serviceOf] at filed

/-- An entry a path item drops adds an operation to an excluded service only, if anything. -/
theorem addMethod_dropped (config : Config) (doc : Value) (models : Table Model) (url : Value)
    (item : Value) (draft : Draft) (dropped : keepsEntry config entry = false) :
    Logged.Ensures (addMethod config doc models url item draft entry) fun a =>
      a.keepOnly (Api.filterOf config).includes =
        draft.keepOnly (Api.filterOf config).includes := by
  obtain ⟨tag, filed, excluded⟩ := serviceOf_of_dropped dropped
  obtain ⟨method, _, added⟩ := addMethod_filed doc models url item draft filed
  rw [added]
  refine Logged.Ensures.bind (Logged.ensures_true _) fun r _ => Logged.ensures_pure ?_
  rw [Draft.keepOnly_extend, if_neg (by simp [excluded])]

end AddMethod

/-! ## One operation, read in two documents -/

/-- The name an operation takes does not depend on the records kept before it: a made-up or a taken
name is reported, and the name is returned either way. -/
theorem operationId_oblivious (given : Value) (method : String) (url : Value) (known : List String) :
    Logged.Oblivious (operationId given method url known) := by
  unfold operationId
  refine (Logged.oblivious_lift _).bind fun base => ?_
  dsimp only
  have reported : ∀ message name, Logged.Oblivious
      (Logged.note .warning .operations message >>= fun _ => (pure name : Logged String)) :=
    fun _ _ => (Logged.oblivious_note _ _ _).bind fun _ => Logged.oblivious_pure _
  exact Logged.oblivious_ite (reported _ _)
    (Logged.oblivious_ite (reported _ _) (Logged.oblivious_pure _))

theorem strippedText_map {entries : List (Value × Value)} {text : String}
    (read : strippedText (.map entries) = .ok text) : text = "" := by
  unfold strippedText at read
  split at read
  · cases read
    rfl
  · cases read

/-- The summary text of an operation is the same when its path item's summary is the same, or
is gone where it was a mapping: a mapping gives no text but the empty one. -/
theorem strippedText_orElse_alike (given : Option Value) {fallback fallback' : Option Value}
    (alike : fallback' = fallback ∨
      fallback' = none ∧ ∃ entries, fallback = some (.map entries))
    {text text' : String} (first : strippedText (orElse given fallback) = .ok text)
    (second : strippedText (orElse given fallback') = .ok text') : text' = text := by
  rcases alike with rfl | ⟨rfl, entries, rfl⟩
  · exact Except.ok.inj (second.symm.trans first)
  · have fromMap : ∀ {t}, strippedText (.map entries) = .ok t → t = "" := strippedText_map
    have fromNull : strippedText .null = .ok "" := rfl
    cases given with
    | none =>
      have nothing : text' = "" := (Except.ok.inj (fromNull.symm.trans second)).symm
      rw [nothing, fromMap first]
    | some v =>
      simp only [orElse, Option.getD_some, Option.getD_none] at first second
      split at first
      · next truthy =>
        rw [if_pos truthy] at second
        exact Except.ok.inj (second.symm.trans first)
      · next falsy =>
        rw [if_neg falsy] at second
        have nothing : text' = "" := (Except.ok.inj (fromNull.symm.trans second)).symm
        rw [nothing, fromMap first]

section Operation

variable {key : String} {doc doc' : Value}

/-- The declared parameters of a value that avoids `key` avoid it. -/
theorem avoids_listed {v : Value} (clear : avoids key v = true) {xs : List Value}
    (read : listed v = .ok xs) {x : Value} (member : x ∈ xs) : avoids key x = true := by
  unfold listed at read
  split at read
  · exact avoids_of_members clear read member
  · cases read
    cases member

theorem parameter_alike (alike : ResolveAlike key doc doc') (clear : avoids key doc = true)
    (inContainer : Bool) {raw : Value} (rawClear : avoids key raw = true) {p p' : Parameter}
    (first : parameter doc inContainer raw = .ok p)
    (second : parameter doc' inContainer raw = .ok p') : p' = p := by
  unfold parameter at first second
  obtain ⟨param, followed, first⟩ := except_bind_ok first
  obtain ⟨param', followed', second⟩ := except_bind_ok second
  rw [follow_alike alike clear rawClear followed followed'] at second
  exact Except.ok.inj (second.symm.trans first)

theorem addResponse_alike (alike : ResolveAlike key doc doc') (clear : avoids key doc = true)
    (acc : Outcome) {entry : Value × Value} (responseClear : avoids key entry.2 = true)
    {out out' : Outcome} (first : addResponse doc acc entry = .ok out)
    (second : addResponse doc' acc entry = .ok out') : out' = out := by
  unfold addResponse at first second
  obtain ⟨response, followed, first⟩ := except_bind_ok first
  obtain ⟨response', followed', second⟩ := except_bind_ok second
  rw [follow_alike alike clear responseClear followed followed'] at second
  exact Except.ok.inj (second.symm.trans first)

/-- One operation built in two documents that resolve alike the references it makes, from one
definition and from two path items with the same parameters and a summary alike, is the same
operation whenever both builds succeed. -/
theorem operation_alike (alike : ResolveAlike key doc doc') (clear : avoids key doc = true)
    (config : Config) (models : Table Model) (serviceClass : String) (known : List String)
    (url : Value) (method : String) {definition item item' : Value}
    (definitionClear : avoids key definition = true) (itemClear : avoids key item = true)
    (parameters : item'.field "parameters" = item.field "parameters")
    (summary : item'.field "summary" = item.field "summary" ∨
      item'.field "summary" = none ∧ ∃ entries, item.field "summary" = some (.map entries)) :
    Logged.Agree (operation config doc models serviceClass known url method definition item)
      (operation config doc' models serviceClass known url method definition item') Eq := by
  unfold operation
  refine Logged.Agree.bind_same (operationId_oblivious _ _ _ _) fun id => ?_
  refine Logged.Agree.bind_same_ensures (Logged.oblivious_lift _)
    (Logged.ensures_lift fun declared read => read) fun declared declaredRead => ?_
  rw [parameters]
  refine Logged.Agree.bind_same_ensures (Logged.oblivious_lift _)
    (Logged.ensures_lift fun shared read => read) fun shared sharedRead => ?_
  dsimp only
  refine Logged.agree_lift_bind (fun built built' mapped mapped' => ?_) fun built => ?_
  · have rawClear : ∀ x ∈ declared ++ shared, avoids key x = true := by
      intro x member
      rcases List.mem_append.mp member with inDeclared | inShared
      · exact avoids_listed (avoids_fieldD definitionClear "parameters") declaredRead inDeclared
      · exact avoids_listed (avoids_fieldD itemClear "parameters") sharedRead inShared
    exact mapM_agree _ (fun x member p p' one two =>
      parameter_alike alike clear _ (rawClear x member) one two) mapped mapped'
  refine Logged.Agree.bind_same (Logged.oblivious_lift _) fun sorted => ?_
  refine Logged.Agree.bind_same (Logged.oblivious_lift _) fun expression => ?_
  split
  rotate_left
  split
  · exact Logged.agree_throw_bind
  all_goals
    simp only [pure_bind]
    refine Logged.agree_lift_bind (fun outcome outcome' read read' => ?_) fun outcome => ?_
    rotate_left
    refine Logged.Agree.bind_same (Logged.oblivious_lift _) fun description => ?_
    refine Logged.agree_lift_bind (fun text text' read read' =>
      strippedText_orElse_alike _ summary read read') fun summaryText => ?_
    refine Logged.Agree.bind_same (Logged.oblivious_lift _) fun details => ?_
    refine Logged.Agree.bind_same (Logged.oblivious_lift _) fun text => ?_
    exact Logged.agree_pure rfl
  · cases read
    cases read'
    rfl
  · next entries isMap =>
    have responsesClear := avoids_fieldD definitionClear "responses"
    rw [isMap] at responsesClear
    simp only [avoids, Bool.and_eq_true] at responsesClear
    exact foldlM_agree entries _ (fun acc e out out' member one two =>
      addResponse_alike alike clear acc (avoids_of_mem_entries responsesClear.2 member).2 one two)
      read read'

end Operation

/-! ## Paths read in the document and in the pruned document -/

section Paths

variable {key : String} {doc doc' : Value} (alike : ResolveAlike key doc doc')
  (clear : avoids key doc = true) (config : Config) (models : Table Model)

include alike clear

/-- An entry a path item keeps is added alike in both documents: to a draft, and to the draft with
only the kept services. The definition and the path item are read from the document, and the pruned
item keeps the parameters and the summary. -/
theorem addMethod_alike (url : Value) {methods : List (Value × Value)}
    (itemClear : avoids key (.map methods) = true)
    (distinct : methods.Pairwise fun a b => a.1.same b.1 = false) {entry : Value × Value}
    (member : entry ∈ methods) (kept : keepsEntry config entry = true) {draft draft' : Draft}
    (related : draft' = draft.keepOnly (Api.filterOf config).includes) :
    Logged.Agree (addMethod config doc models url (.map methods) draft entry)
      (addMethod config doc' models url (.map (methods.filter (keepsEntry config))) draft' entry)
      fun a b => b = a.keepOnly (Api.filterOf config).includes := by
  cases filed : serviceOf config entry with
  | none =>
    exact Logged.Agree.of_ensures (addMethod_unfiled filed) (addMethod_unfiled filed)
      fun a b same same' => by rw [same, same', related]
  | some tag =>
    have included : (Api.filterOf config).includes tag = true := by
      simpa [keepsEntry, filed] using kept
    obtain ⟨method, named, added⟩ := addMethod_filed doc models url (.map methods) draft filed
    obtain ⟨method', named', added'⟩ :=
      addMethod_filed doc' models url (.map (methods.filter (keepsEntry config))) draft' filed
    rw [named] at named'
    cases named'
    rw [added, added', related, Draft.service_keepOnly config included,
      Draft.known_keepOnly included]
    have entriesClear : entriesAvoid key methods = true := by
      simp only [avoids, Bool.and_eq_true] at itemClear
      exact itemClear.2
    have definitionClear := (avoids_of_mem_entries entriesClear member).2
    refine (operation_alike alike clear config models _ _ url method definitionClear
      itemClear (field_pruned_parameters distinct)
      (field_pruned_summary distinct)).bind fun r r' same => ?_
    subst same
    refine Logged.agree_pure ?_
    rw [Draft.keepOnly_extend, if_pos included]

/-- A path is added alike in both documents, its item pruned in the second. -/
theorem addPath_alike {entry : Value × Value} (itemClear : avoids key entry.2 = true)
    (distinct : keysDistinct entry.2 = true) {draft draft' : Draft}
    (related : draft' = draft.keepOnly (Api.filterOf config).includes) :
    Logged.Agree (addPath config doc models draft entry)
      (addPath config doc' models draft' (entry.1, pruneItem config entry.2))
      fun a b => b = a.keepOnly (Api.filterOf config).includes := by
  obtain ⟨name, item⟩ := entry
  unfold addPath
  dsimp only
  cases item with
  | map methods =>
    have pairwise : methods.Pairwise fun a b => a.1.same b.1 = false := of_decide_eq_true distinct
    simp only [pruneItem]
    refine Logged.agree_foldlM_filter methods (keepsEntry config) related ?_ ?_
    · intro a b entry member kept relatedAB
      exact addMethod_alike alike clear config models _ itemClear pairwise member kept relatedAB
    · intro a b entry member dropped relatedAB
      exact (addMethod_dropped config doc models _ _ a dropped).mono fun a' same => by
        rw [relatedAB, same]
  | _ => exact Logged.agree_pure related

end Paths

/-! ## The service table of the pruned document -/

/-- Descriptions from the document's tags go to the same services whether or not some services
were taken out first. -/
theorem describeServices_filter (config : Config) (keep : String → Bool) (tags : List Value) :
    ∀ services : Table Service, describeServices config (services.filter fun e => keep e.1) tags =
      (describeServices config services tags).filter fun e => keep e.1 := by
  unfold describeServices
  induction tags with
  | nil => exact fun _ => rfl
  | cons tag rest ih =>
    intro services
    rw [List.foldl_cons, List.foldl_cons, ← ih]
    congr 1
    split
    · next entries =>
      dsimp only
      generalize Naming.tagName (((Value.map entries).field "name").getD .null)
        (.str config.defaultTag) = name
      generalize ((Value.map entries).field "description").getD .null = description
      rw [Table.contains_filter]
      by_cases described : (services.contains name && description.truthy) = true
      · cases kept : keep name
        · have absent : name ∉ Table.keys (services.filter fun e => keep e.1) :=
            fun member => absurd ((Table.mem_keys_filter keep).mp member).1 (by simp [kept])
          simp only [Bool.false_and, Bool.false_eq_true, if_false]
          rw [if_pos described, Table.filter_modify, Table.modify_of_not_mem absent]
        · rw [Bool.true_and, if_pos described, if_pos described, Table.filter_modify]
      · have notKept : ¬(keep name && services.contains name && description.truthy) = true := by
          simp only [Bool.and_eq_true, not_and] at described ⊢
          exact fun both truthy => described both.2 truthy
        rw [if_neg notKept, if_neg described]
    · rfl

/-- Mapping over the entries of a table that some test of keys keeps gives the entries of the
whole map that it keeps, when the map keeps keys. -/
theorem mapM_filter_keys {α β : Type} {g : String × α → Except Fault (String × β)}
    (keyKept : ∀ e r, g e = .ok r → r.1 = e.1) (keep : String → Bool) :
    ∀ (xs : List (String × α)) {ys zs : List (String × β)}, xs.mapM g = .ok ys →
      (xs.filter fun e => keep e.1).mapM g = .ok zs → zs = ys.filter fun e => keep e.1
  | [], ys, zs, first, second => by
    cases first
    cases second
    rfl
  | x :: rest, ys, zs, first, second => by
    obtain ⟨y, ys', headOk, restOk, rfl⟩ := mapM_cons_ok first
    have sameKey := keyKept x y headOk
    rw [List.filter_cons] at second
    split at second
    · next kept =>
      obtain ⟨z, zs', headOk', restOk', rfl⟩ := mapM_cons_ok second
      rw [headOk] at headOk'
      cases headOk'
      rw [List.filter_cons, if_pos (by rw [sameKey]; exact kept),
        mapM_filter_keys keyKept keep rest restOk restOk']
    · next dropped =>
      rw [List.filter_cons, if_neg (by rw [sameKey]; exact dropped)]
      exact mapM_filter_keys keyKept keep rest restOk second

theorem field_withoutExcluded (config : Config) (doc : Value) {name : String}
    (other : name ≠ "paths") : (withoutExcluded config doc).field name = doc.field name :=
  field_replaceUnder doc other

theorem getD_withoutExcluded (config : Config) (doc : Value) {name : String}
    (other : name ≠ "paths") (default : Value) :
    (withoutExcluded config doc).getD name default = doc.getD name default :=
  getD_replaceUnder doc other default

/-- From the entries of the paths on, the services of both documents are built alike: the paths
in turn, then the descriptions of the tags, then each service's dependencies. -/
theorem servicesOf_alike (config : Config) (doc : Value) (models : Table Model)
    (clear : avoids "paths" doc = true) (entries : List (Value × Value))
    (entriesOk : ∀ e ∈ entries, avoids "paths" e.2 = true ∧ keysDistinct e.2 = true)
    {g : String × Service → Except Fault (String × Service)}
    (keyKept : ∀ e r, g e = .ok r → r.1 = e.1) :
    Logged.Agree
      (do
        let draft ← entries.foldlM (addPath config doc models) ⟨[], []⟩
        let tags ← Logged.lift (listed ((doc.field "tags").getD .null))
        Logged.lift ((describeServices config draft.services tags).mapM g))
      (do
        let draft ← (entries.map fun e => (e.1, pruneItem config e.2)).foldlM
          (addPath config (withoutExcluded config doc) models) ⟨[], []⟩
        let tags ← Logged.lift (listed (((withoutExcluded config doc).field "tags").getD .null))
        Logged.lift ((describeServices config draft.services tags).mapM g))
      fun services services' =>
        services' = services.filter fun e => (Api.filterOf config).includes e.1 := by
  have alike := resolveAlike_replaceUnder "paths" (prunePaths config) doc
  have drafts : Logged.Agree (entries.foldlM (addPath config doc models) ⟨[], []⟩)
      (entries.foldlM (fun draft e => addPath config (withoutExcluded config doc) models draft
        (e.1, pruneItem config e.2)) ⟨[], []⟩)
      fun draft draft' => draft' = draft.keepOnly (Api.filterOf config).includes :=
    Logged.agree_foldlM entries rfl fun draft draft' entry member related =>
      addPath_alike alike clear config models (entriesOk entry member).1
        (entriesOk entry member).2 related
  rw [List.foldlM_map, field_withoutExcluded config doc (by decide)]
  refine drafts.bind fun draft draft' related => ?_
  refine Logged.Agree.bind_same (Logged.oblivious_lift _) fun tags => ?_
  refine Logged.agree_lift fun services services' mapped mapped' => ?_
  rw [related, Draft.keepOnly, describeServices_filter] at mapped'
  exact mapM_filter_keys keyKept _ _ mapped mapped'

/-- The service table of the pruned document is that of the document without the services the
run's tag filter excludes, whenever both are built, provided no reference of the document points
into its paths and no path item repeats a key. -/
theorem build_alike (config : Config) (doc : Value) (models : Table Model)
    (clear : avoids "paths" doc = true)
    (distinct : ∀ item ∈ pathItems doc, keysDistinct item = true) :
    Logged.Agree (build config doc models) (build config (withoutExcluded config doc) models)
      fun services services' =>
        services' = services.filter fun e => (Api.filterOf config).includes e.1 := by
  have pathsRead : Logged.Agree (Logged.lift (doc.getD "paths" .null))
      (Logged.lift ((withoutExcluded config doc).getD "paths" .null))
      fun paths paths' =>
        paths' = prunePaths config paths ∧ paths = (doc.field "paths").getD .null :=
    Logged.agree_lift fun paths paths' read read' =>
      ⟨Except.ok.inj (read'.symm.trans (getD_replaceUnder_self rfl read)), getD_ok read⟩
  unfold build
  refine pathsRead.bind fun paths paths' read => ?_
  obtain ⟨pruned, fromDoc⟩ := read
  subst pruned
  have keyKept : ∀ (e r : String × Service), (do
      let deps ← Dependencies.ofOperations models e.2.operations
      pure (e.1, { e.2 with dependencies := deps.1, errorDependencies := deps.2 }) :
        Except Fault (String × Service)) = .ok r → r.1 = e.1 := by
    intro e r collected
    obtain ⟨deps, _, collected⟩ := except_bind_ok collected
    cases collected
    rfl
  cases paths with
  | map entries =>
    simp only [prunePaths, pure_bind]
    have pathsClear := avoids_fieldD clear "paths"
    rw [← fromDoc] at pathsClear
    simp only [avoids, Bool.and_eq_true] at pathsClear
    have items : pathItems doc = entries.map (·.2) := by
      rw [pathItems, ← fromDoc]
    refine servicesOf_alike config doc models clear entries (fun e member => ⟨?_, ?_⟩) keyKept
    · exact (avoids_of_mem_entries pathsClear.2 member).2
    · exact distinct e.2 (items ▸ List.mem_map_of_mem member)
  | _ =>
    simp only [prunePaths]
    split
    · exact Logged.agree_throw_bind
    · simp only [pure_bind]
      exact servicesOf_alike config doc models clear []
        (fun _ member => absurd member List.not_mem_nil) keyKept

end ClientGen.Operations
