import ClientGen.Api.Models
import ClientGen.Proofs.Dependencies
import ClientGen.Proofs.Logged
import ClientGen.Proofs.ClassNames

/-!
# The model table

`Models.build` files each definition under the key of its class name, links every object to
its parents and then gives each model its dependencies, computed from the linked table. What
the dependencies cover rests on three facts about that table, proved here: its keys are
distinct and are the keys of their models' class names, class names are made of word
characters, and an enum shows no type. Linking keeps all three, since it changes only the
parents of objects and the subclasses (`Relinks`).

Every built model is the model a definition gives, with its links and dependencies filled in
(`build_models`), so what each definition's model has, a built model has too. The main result,
`build_covers`, is that every type name a built model shows is covered by its dependencies,
save in aliases of a plain type, which by design have none.
-/
namespace ClientGen.Models

open Selection Dependencies Naming

/-! ## What a definition gives -/

/-- What holds of every model a definition gives. -/
structure Shaped (m : Model) : Prop where
  wordName : WordName m.className
  enumBare : m.kind = .enum → shownNames m = []

/-- What a composition gives: an object with parents, members and extra properties, an enum
with constants, or an alias of text. -/
theorem ofComposition_cases {m m' : Model} {schema : Value} {path : String}
    (built : ofComposition m schema path = .ok m') :
    (∃ parents members additionalType,
        m' = { m with kind := .object, parents, members, additionalType }) ∨
      (∃ constants, m' = { m with kind := .enum, constants }) ∨
      m' = { m with kind := .simple, aliasType := some (.scalar "string") } := by
  unfold ofComposition at built
  obtain ⟨branches, _, built⟩ := except_bind_ok built
  obtain ⟨c, _, built⟩ := except_bind_ok built
  dsimp only at built
  split at built
  · obtain ⟨ms, _, built⟩ := except_bind_ok built
    cases built
    exact .inl ⟨_, _, _, rfl⟩
  · split at built
    · obtain ⟨constants, _, built⟩ := except_bind_ok built
      cases built
      exact .inr (.inl ⟨_, rfl⟩)
    · cases built
      exact .inr (.inr rfl)

theorem ofComposition_shape {m m' : Model} {schema : Value} {path : String}
    (built : ofComposition m schema path = .ok m') :
    m'.className = m.className ∧ (m'.kind = .enum → shownNames m' = shownNames m) := by
  rcases ofComposition_cases built with ⟨_, _, _, rfl⟩ | ⟨_, rfl⟩ | rfl
  · exact ⟨rfl, fun isEnum => nomatch isEnum⟩
  · exact ⟨rfl, fun _ => rfl⟩
  · exact ⟨rfl, fun isEnum => nomatch isEnum⟩

/-- What a definition gives, from the blank model of its class name: the model of a
composition, or a model of another kind than an enum with the details of its kind. -/
theorem ofDefinition_cases {config : Config} {name schema : Value} {m : Model}
    (built : ofDefinition config name schema = .ok m) :
    ∃ cls, classNameOf name = .ok cls ∧
      ((∃ path, ofComposition (blank config name cls schema) schema path = .ok m) ∨
        ∃ kind members elementType aliasType additionalType, kind ≠ .enum ∧
          m = { blank config name cls schema with
            kind, members, elementType, aliasType, additionalType }) := by
  unfold ofDefinition at built
  obtain ⟨cls, named, built⟩ := except_bind_ok built
  refine ⟨cls, named, ?_⟩
  dsimp only at built
  split at built
  · exact .inl ⟨_, built⟩
  split at built
  · obtain ⟨element, _, built⟩ := except_bind_ok built
    cases built
    exact .inr ⟨.array, _, _, _, _, nofun, rfl⟩
  split at built
  · obtain ⟨variants, _, built⟩ := except_bind_ok built
    obtain ⟨types, _, built⟩ := except_bind_ok built
    cases built
    exact .inr ⟨.union, _, _, _, _, nofun, rfl⟩
  split at built
  · split at built
    · obtain ⟨declared, _, built⟩ := except_bind_ok built
      obtain ⟨ms, _, built⟩ := except_bind_ok built
      obtain ⟨additional, _, built⟩ := except_bind_ok built
      cases built
      exact .inr ⟨.object, _, _, _, _, nofun, rfl⟩
    · split at built
      · cases built
      · obtain ⟨declared, _, built⟩ := except_bind_ok built
        obtain ⟨ms, _, built⟩ := except_bind_ok built
        obtain ⟨additional, _, built⟩ := except_bind_ok built
        cases built
        exact .inr ⟨.object, _, _, _, _, nofun, rfl⟩
  · obtain ⟨aliased, _, built⟩ := except_bind_ok built
    cases built
    exact .inr ⟨.simple, _, _, _, _, nofun, rfl⟩

/-- A definition gives a model whose example is the definition's. -/
theorem ofDefinition_sample {config : Config} {name schema : Value} {m : Model}
    (built : ofDefinition config name schema = .ok m) :
    m.sample = (schema.field "example").getD .null := by
  obtain ⟨cls, _, ⟨path, composed⟩ | ⟨kind, _, _, _, _, _, rfl⟩⟩ :=
    ofDefinition_cases built
  · rcases ofComposition_cases composed with ⟨_, _, _, rfl⟩ | ⟨_, rfl⟩ | rfl <;> rfl
  · rfl

/-- A definition gives a model with a class name of word characters, and an enum that shows
no type. -/
theorem ofDefinition_shaped {config : Config} {name schema : Value} {m : Model}
    (built : ofDefinition config name schema = .ok m) : Shaped m := by
  obtain ⟨cls, named, ⟨path, composed⟩ | ⟨kind, _, _, _, _, notEnum, rfl⟩⟩ :=
    ofDefinition_cases built
  · obtain ⟨same, enumShown⟩ := ofComposition_shape composed
    exact ⟨same ▸ classNameOf_wordName named, fun isEnum => (enumShown isEnum).trans rfl⟩
  · exact ⟨classNameOf_wordName named, fun isEnum => absurd isEnum notEnum⟩

/-! ## Collecting the definitions -/

/-- A table of models as collection leaves it: keyed by class names, every model shaped. -/
structure Formed (table : Table Model) : Prop where
  keyed : Keyed table
  shaped : ∀ e ∈ table, Shaped e.2

theorem keyed_put {table : Table Model} (keyed : Keyed table) (m : Model) :
    Keyed (table.put (Naming.modelKey m.className) m) where
  key_eq e member := by
    rcases Table.mem_put member with rfl | old
    · rfl
    · exact keyed.key_eq e old
  distinct := Table.nodup_keys_put keyed.distinct _ _

theorem Formed.put {table : Table Model} (formed : Formed table) {m : Model}
    (shaped : Shaped m) : Formed (table.put (Naming.modelKey m.className) m) where
  keyed := keyed_put formed.keyed m
  shaped e member := by
    rcases Table.mem_put member with rfl | old
    · exact shaped
    · exact formed.shaped e old

/-- A property of tables that holds of the empty table and survives putting, under its class
key, the model a listed definition gives holds of the table the definitions are collected
into: a definition that is no mapping is skipped, and a class name met before is only
reported. -/
theorem collect_invariant (config : Config) (definitions : List (Value × Value))
    (inv : Table Model → Prop) (start : inv [])
    (put : ∀ table, inv table → ∀ d ∈ definitions, ∀ m, ofDefinition config d.1 d.2 = .ok m →
      inv (table.put (Naming.modelKey m.className) m)) :
    Logged.Ensures (collect config definitions) inv := by
  unfold collect
  refine Logged.ensures_foldlM _ _ _ _ start ?_
  intro table entry listed holds
  obtain ⟨name, schema⟩ := entry
  dsimp only
  split
  · refine Logged.Ensures.bind (Logged.ensures_lift fun m built => built) fun m built => ?_
    split
    · exact Logged.Ensures.bind (Logged.ensures_true _) fun _ _ =>
        Logged.ensures_pure (put table holds _ listed m built)
    · exact Logged.ensures_pure (put table holds _ listed m built)
  · exact Logged.ensures_pure holds

/-- Every model of the collected table is the model a listed definition gives. -/
theorem collect_models (config : Config) (definitions : List (Value × Value)) :
    Logged.Ensures (collect config definitions) fun table =>
      ∀ e ∈ table, ∃ d ∈ definitions, ofDefinition config d.1 d.2 = .ok e.2 := by
  refine collect_invariant config definitions _ (fun _ member => absurd member List.not_mem_nil) ?_
  intro table holds d listed m built e member
  rcases Table.mem_put member with rfl | old
  · exact ⟨d, listed, built⟩
  · exact holds e old

theorem collect_formed (config : Config) (definitions : List (Value × Value)) :
    Logged.Ensures (collect config definitions) Formed :=
  collect_invariant config definitions Formed ⟨⟨by simp, by simp [Table.keys]⟩, by simp⟩
    fun _ formed _ _ _ built => formed.put (ofDefinition_shaped built)

/-! ## Linking -/

/-- What linking may change of a model: the parents of an object, and the subclasses. -/
def Relinked (m m' : Model) : Prop :=
  ∃ parents subclasses, (m.kind = .object ∨ parents = m.parents) ∧
    m' = { m with parents, subclasses }

theorem Relinked.refl (m : Model) : Relinked m m :=
  ⟨m.parents, m.subclasses, .inr rfl, rfl⟩

theorem Relinked.trans {m m' m'' : Model} (first : Relinked m m') (second : Relinked m' m'') :
    Relinked m m'' := by
  obtain ⟨parents, subclasses, allowed, rfl⟩ := first
  obtain ⟨parents', subclasses', allowed', rfl⟩ := second
  refine ⟨parents', subclasses', ?_, rfl⟩
  rcases allowed' with isObject | same'
  · exact .inl isObject
  · rcases allowed with isObject | same
    · exact .inl isObject
    · exact .inr (same'.trans same)

theorem Relinked.className {m m' : Model} (relinked : Relinked m m') :
    m'.className = m.className := by
  obtain ⟨_, _, _, rfl⟩ := relinked
  rfl

theorem Relinked.kind {m m' : Model} (relinked : Relinked m m') : m'.kind = m.kind := by
  obtain ⟨_, _, _, rfl⟩ := relinked
  rfl

theorem Relinked.sample {m m' : Model} (relinked : Relinked m m') : m'.sample = m.sample := by
  obtain ⟨_, _, _, rfl⟩ := relinked
  rfl

theorem Relinked.shaped {m m' : Model} (relinked : Relinked m m') (shaped : Shaped m) :
    Shaped m' := by
  obtain ⟨parents, subclasses, allowed, rfl⟩ := relinked
  refine ⟨shaped.wordName, fun isEnum => ?_⟩
  rcases allowed with isObject | rfl
  · exact absurd (isObject.symm.trans isEnum) (by decide)
  · exact shaped.enumBare isEnum

/-- `table'` is `table` relinked: the same keys in the same order, each entry relinked from an
entry of `table` under its key. -/
structure Relinks (table table' : Table Model) : Prop where
  keys : table'.keys = table.keys
  entries : ∀ e' ∈ table', ∃ e ∈ table, e.1 = e'.1 ∧ Relinked e.2 e'.2

theorem Relinks.refl (table : Table Model) : Relinks table table :=
  ⟨rfl, fun e' member => ⟨e', member, rfl, Relinked.refl _⟩⟩

theorem Relinks.trans {table table' table'' : Table Model} (first : Relinks table table')
    (second : Relinks table' table'') : Relinks table table'' where
  keys := second.keys.trans first.keys
  entries e'' member := by
    obtain ⟨e', member', sameKey', relinked'⟩ := second.entries e'' member
    obtain ⟨e, inTable, sameKey, relinked⟩ := first.entries e' member'
    exact ⟨e, inTable, sameKey.trans sameKey', relinked.trans relinked'⟩

theorem Relinks.modify {table acc : Table Model} (relinks : Relinks table acc) {key : String}
    {f : Model → Model} (step : ∀ m, (key, m) ∈ acc → Relinked m (f m)) :
    Relinks table (acc.modify key f) where
  keys := (Table.keys_modify acc key f).trans relinks.keys
  entries e' member := by
    rcases Table.mem_modify member with old | ⟨m, inAcc, rfl⟩
    · exact relinks.entries e' old
    · obtain ⟨e, inTable, sameKey, relinked⟩ := relinks.entries (key, m) inAcc
      exact ⟨e, inTable, sameKey, relinked.trans (step m inAcc)⟩

/-- With distinct keys, a model under a key of a relinked table is relinked from the model
that key finds in the original. -/
theorem Relinks.found {table acc : Table Model} (relinks : Relinks table acc)
    (distinct : table.keys.Nodup) {key : String} {m m' : Model} (found : table.get? key = some m)
    (member : (key, m') ∈ acc) : Relinked m m' := by
  obtain ⟨⟨k, original⟩, inTable, sameKey, relinked⟩ := relinks.entries (key, m') member
  simp only at sameKey
  subst sameKey
  have first : table.get? k = some original := Table.get?_of_mem distinct inTable
  rw [found, Option.some.injEq] at first
  exact first ▸ relinked

/-- One turn of linking changes only links: each parent gets the model among its subclasses, and the
model gets its parents. -/
theorem linkOne_relinks {table table' : Table Model} {key : String} (distinct : table.keys.Nodup)
    (linked : linkOne table key = .ok table') : Relinks table table' := by
  unfold linkOne at linked
  split at linked
  · next m found =>
    split at linked
    · cases linked
      exact Relinks.refl table
    · next kept =>
      have isObject : m.kind = .object := by
        simp only [Bool.or_eq_true, decide_eq_true_eq, not_or, ne_eq, Decidable.not_not] at kept
        exact kept.1
      obtain ⟨⟨mid, parents⟩, loop, finish⟩ := except_bind_ok linked
      have midRelinks : Relinks table mid := by
        refine foldlM_invariant m.parents _ (table, []) (fun acc => Relinks table acc.1)
          (Relinks.refl table) ?_ loop
        rintro ⟨t, l⟩ parentName ⟨t', l'⟩ _ relinks step
        dsimp only at step relinks ⊢
        split at step
        · next parent _ =>
          cases step
          split
          · exact relinks
          · exact relinks.modify fun p _ => ⟨p.parents, _, .inr rfl, rfl⟩
        · cases step
      cases finish
      exact midRelinks.modify fun m' member =>
        ⟨parents, m'.subclasses, .inl ((midRelinks.found distinct found member).kind ▸ isObject),
          rfl⟩
  · cases linked
    exact Relinks.refl table

theorem link_relinks {table table' : Table Model} (distinct : table.keys.Nodup)
    (linked : link table = .ok table') : Relinks table table' := by
  unfold link at linked
  refine foldlM_invariant table.keys linkOne table (Relinks table) (Relinks.refl table) ?_ linked
  intro acc key acc' _ relinks step
  have accDistinct : acc.keys.Nodup := relinks.keys ▸ distinct
  exact relinks.trans (linkOne_relinks accDistinct step)

theorem Formed.relinks {table table' : Table Model} (formed : Formed table)
    (relinks : Relinks table table') : Formed table' where
  keyed := {
    key_eq := fun e' member => by
      obtain ⟨e, inTable, sameKey, relinked⟩ := relinks.entries e' member
      rw [← sameKey, formed.keyed.key_eq e inTable, relinked.className]
    distinct := relinks.keys ▸ formed.keyed.distinct }
  shaped e' member := by
    obtain ⟨e, inTable, _, relinked⟩ := relinks.entries e' member
    exact relinked.shaped (formed.shaped e inTable)

/-! ## Building the table -/

/-- The built table is a table collected from entries of the definitions, linked, with each model
given its dependencies. The definitions are read as entries, as none when they are false, or refused
when they are true but no mapping. -/
theorem build_collects (config : Config) (definitions : Value) :
    Logged.Ensures (build config definitions) fun built => ∃ entries table linked,
      (∀ d ∈ entries, ∃ es, definitions = .map es ∧ d ∈ es) ∧
      Logged.Gives (collect config entries) table ∧ link table = .ok linked ∧
      built = linked.map fun e => (e.1, { e.2 with dependencies := ofModel linked e.2 }) := by
  unfold build
  dsimp only
  split
  rotate_left
  split
  · exact Logged.ensures_throw_bind _ _ _
  all_goals
    refine Logged.ensures_pure_bind ?_
    refine Logged.Ensures.bind (Logged.ensures_gives _) fun table collected => ?_
    refine Logged.Ensures.bind (Logged.ensures_lift fun linked ok => ok) fun linked ok => ?_
    refine Logged.ensures_pure ⟨_, table, linked, ?_, collected, ok, rfl⟩
  · exact fun d member => absurd member List.not_mem_nil
  · next entries => exact fun d member => ⟨entries, rfl, member⟩

theorem build_formed (config : Config) (definitions : Value) :
    Logged.Ensures (build config definitions) fun built => ∃ linked, Formed linked ∧
      built = linked.map fun e => (e.1, { e.2 with dependencies := ofModel linked e.2 }) := by
  refine (build_collects config definitions).mono ?_
  rintro built ⟨entries, table, linked, -, collected, ok, rfl⟩
  have formed := (collect_formed config entries).gives collected
  exact ⟨linked, formed.relinks (link_relinks formed.keyed.distinct ok), rfl⟩

/-- Every built model is the model a definition gives, with its links and its dependencies
filled in. -/
theorem build_models (config : Config) (definitions : Value) :
    Logged.Ensures (build config definitions) fun built => ∀ e ∈ built, ∃ es d m m',
      definitions = .map es ∧ d ∈ es ∧ ofDefinition config d.1 d.2 = .ok m ∧ Relinked m m' ∧
        e.2 = { m' with dependencies := e.2.dependencies } := by
  refine (build_collects config definitions).mono ?_
  rintro built ⟨entries, table, linked, listed, collected, ok, rfl⟩ e member
  have formed := (collect_formed config entries).gives collected
  obtain ⟨e0, inLinked, rfl⟩ := List.mem_map.mp member
  obtain ⟨e1, inTable, -, relinked⟩ := (link_relinks formed.keyed.distinct ok).entries e0 inLinked
  obtain ⟨d, inEntries, built⟩ := (collect_models config entries).gives collected e1 inTable
  obtain ⟨es, isMap, inEs⟩ := listed d inEntries
  exact ⟨es, d, e1.2, e0.2, isMap, inEs, built, relinked, rfl⟩

theorem keyed_map_values {table : Table Model} (keyed : Keyed table) {f : Model → Model}
    (sameName : ∀ m, (f m).className = m.className) :
    Keyed (table.map fun e => (e.1, f e.2)) where
  key_eq e member := by
    obtain ⟨original, inTable, rfl⟩ := List.mem_map.mp member
    rw [sameName]
    exact keyed.key_eq original inTable
  distinct := (Table.keys_map_values table f).symm ▸ keyed.distinct

theorem covers_map_values {models : Table Model} {owner : Option String} {names : List String}
    {name : String} (covered : Covers models owner names name) {f : Model → Model}
    (sameName : ∀ m, (f m).className = m.className) :
    Covers (models.map fun e => (e.1, f e.2)) owner names name := by
  intro m found notOwner
  rw [Table.get?_map_values] at found
  obtain ⟨original, foundOriginal, rfl⟩ := Option.map_eq_some_iff.mp found
  rw [sameName] at notOwner ⊢
  exact covered original foundOriginal notOwner

/-- Every type name a built model shows is covered by its dependencies, unless the model is
an alias of a plain type; the table stays keyed by class names of word characters. -/
theorem build_covers (config : Config) (definitions : Value) :
    Logged.Ensures (build config definitions) fun built =>
      Keyed built ∧ (∀ e ∈ built, WordName e.2.className) ∧
      ∀ e ∈ built, plainAlias e.2 = false → ∀ name ∈ shownNames e.2,
        Covers built (ownerKey e.2.className) e.2.dependencies name := by
  refine (build_formed config definitions).mono ?_
  rintro built ⟨linked, formed, rfl⟩
  have sameName : ∀ m : Model,
      ({ m with dependencies := ofModel linked m } : Model).className = m.className :=
    fun _ => rfl
  refine ⟨keyed_map_values formed.keyed sameName, ?_, ?_⟩
  · intro e member
    obtain ⟨original, inLinked, rfl⟩ := List.mem_map.mp member
    exact (formed.shaped original inLinked).wordName
  · intro e member notPlain name shown
    obtain ⟨original, inLinked, rfl⟩ := List.mem_map.mp member
    have shownOriginal : name ∈ shownNames original.2 := shown
    by_cases isEnum : original.2.kind = .enum
    · rw [(formed.shaped original inLinked).enumBare isEnum] at shownOriginal
      cases shownOriginal
    · exact covers_map_values
        (ofModel_covers formed.keyed original.2 isEnum notPlain name shownOriginal) sameName

/-- Building the table reads none of the records kept before it. -/
theorem build_oblivious (config : Config) (definitions : Value) :
    Logged.Oblivious (build config definitions) := by
  have collected : ∀ entries, Logged.Oblivious (collect config entries) := by
    intro entries
    unfold collect
    refine Logged.oblivious_foldlM _ _ _ fun table entry => ?_
    obtain ⟨name, schema⟩ := entry
    dsimp only
    split
    · refine (Logged.oblivious_lift _).bind fun m => ?_
      split
      · exact (Logged.oblivious_note _ _ _).bind fun _ => Logged.oblivious_pure _
      · exact Logged.oblivious_pure _
    · exact Logged.oblivious_pure _
  unfold build
  dsimp only
  split
  rotate_left
  split
  · exact Logged.oblivious_throw_bind _ _
  all_goals
    refine (Logged.oblivious_pure _).bind fun entries => ?_
    refine (collected entries).bind fun table => ?_
    exact (Logged.oblivious_lift _).bind fun linked => Logged.oblivious_pure _

end ClientGen.Models
