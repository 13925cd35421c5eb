import ClientGen.Proofs.Compiled
import ClientGen.Proofs.Imports

/-!
# Parents and subclasses

Linking gives every object the class names of the models it extends, and each of those models
the object's class name among its subclasses. The model table the definitions build is linked
both ways (`build_links_hierarchy`): each parent a model names is a model of the table that
lists it as a subclass, and each subclass a model lists is a model of the table that names it
as a parent. Linking runs over the keys in table order (`Linking` holds between two keys) and
over each object's parents in turn (`Growing` holds between two parents of one object).

The compiled table keeps the first direction, since the parents of a model are among its
dependencies and the tag filter keeps what a kept model depends on. Subclasses are no
dependencies: the filter may drop a subclass and keep its parent, whose list then names a
model the compiled table no longer holds. `compile_links_hierarchy` states what stays true.
-/
namespace ClientGen.Selection

/-- In a keyed table, a class name is the class of one entry only. -/
theorem Keyed.eq_of_className {t : Table Model} (keyed : Keyed t) {e e' : String × Model}
    (member : e ∈ t) (member' : e' ∈ t) (same : e.2.className = e'.2.className) : e = e' := by
  have sameKey : e.1 = e'.1 := by
    rw [keyed.key_eq e member, keyed.key_eq e' member', same]
  have found := keyed.get?_of_mem member
  rw [sameKey, keyed.get?_of_mem member', Option.some.injEq] at found
  exact Prod.ext sameKey found.symm

end ClientGen.Selection

namespace ClientGen.Models

open Selection Dependencies

/-- Every parent a model of the table names is the class of a model of the table that lists
the model among its subclasses. -/
def ParentsLinked (t : Table Model) : Prop :=
  ∀ m ∈ t, ∀ p ∈ m.2.parents, ∃ P ∈ t, P.2.className = p ∧ m.2.className ∈ P.2.subclasses

/-- Every subclass a model of the table lists is the class of a model of the table that names
the model among its parents. -/
def SubclassesLinked (t : Table Model) : Prop :=
  ∀ P ∈ t, ∀ s ∈ P.2.subclasses, ∃ S ∈ t, S.2.className = s ∧ P.2.className ∈ S.2.parents

instance (t : Table Model) : Decidable (SubclassesLinked t) :=
  inferInstanceAs (Decidable (∀ P ∈ t, ∀ s ∈ P.2.subclasses,
    ∃ S ∈ t, S.2.className = s ∧ P.2.className ∈ S.2.parents))

/-! ## What a definition gives -/

/-- A model as its definition gives it: no subclasses yet, and parents only for an object. -/
structure Unlinked (m : Model) : Prop where
  noSubclasses : m.subclasses = []
  objectParents : m.parents = [] ∨ m.kind = .object

/-- A composition read from a model with no links gives a model without subclasses; only its object
reading takes the parents of the composition. -/
theorem ofComposition_unlinked {m m' : Model} {schema : Value} {path : String}
    (blank : m.subclasses = [] ∧ m.parents = []) (built : ofComposition m schema path = .ok m') :
    Unlinked m' := by
  rcases ofComposition_cases built with ⟨_, _, _, rfl⟩ | ⟨_, rfl⟩ | rfl
  · exact ⟨blank.1, .inr rfl⟩
  · exact ⟨blank.1, .inl blank.2⟩
  · exact ⟨blank.1, .inl blank.2⟩

/-- A definition gives a model without subclasses, and with parents only if it is an object. -/
theorem ofDefinition_unlinked {config : Config} {name schema : Value} {m : Model}
    (built : ofDefinition config name schema = .ok m) : Unlinked m := by
  obtain ⟨cls, -, ⟨path, composed⟩ | ⟨kind, _, _, _, _, -, rfl⟩⟩ := ofDefinition_cases built
  · exact ofComposition_unlinked ⟨rfl, rfl⟩ composed
  · exact ⟨rfl, .inl rfl⟩

theorem collect_unlinked (config : Config) (definitions : List (Value × Value)) :
    Logged.Ensures (collect config definitions) fun table => ∀ e ∈ table, Unlinked e.2 := by
  refine (collect_models config definitions).mono fun table given e member => ?_
  obtain ⟨d, -, built⟩ := given e member
  exact ofDefinition_unlinked built

/-- Relinking keeps parents away from models other than objects. -/
theorem Relinked.objectParents {m m' : Model} (relinked : Relinked m m') (unlinked : Unlinked m) :
    m'.parents = [] ∨ m'.kind = .object := by
  obtain ⟨parents, subclasses, allowed, rfl⟩ := relinked
  rcases allowed with isObject | rfl
  · exact .inr isObject
  · exact unlinked.objectParents

/-! ## Linking the parents of one object -/

/-- `m'` is `m` with more subclasses, `c` the only new one. -/
structure Grown (c : String) (m m' : Model) : Prop where
  rest : m' = { m with subclasses := m'.subclasses }
  keeps : m.subclasses ⊆ m'.subclasses
  only : ∀ s ∈ m'.subclasses, s ∈ m.subclasses ∨ s = c

theorem Grown.refl (c : String) (m : Model) : Grown c m m :=
  ⟨rfl, List.Subset.refl _, fun _ member => .inl member⟩

theorem Grown.trans {c : String} {m m' m'' : Model} (first : Grown c m m')
    (second : Grown c m' m'') : Grown c m m'' where
  rest := by
    calc m'' = { m' with subclasses := m''.subclasses } := second.rest
      _ = { m with subclasses := m''.subclasses } := by rw [first.rest]
  keeps := List.Subset.trans first.keeps second.keeps
  only s member := (second.only s member).elim (first.only s) .inr

theorem Grown.append (c : String) (m : Model) :
    Grown c m { m with subclasses := m.subclasses ++ [c] } where
  rest := rfl
  keeps := List.subset_append_left _ _
  only _ member := (List.mem_append.mp member).imp id List.mem_singleton.mp

theorem Grown.className {c : String} {m m' : Model} (grown : Grown c m m') :
    m'.className = m.className :=
  (congrArg Model.className grown.rest :)

theorem Grown.parents {c : String} {m m' : Model} (grown : Grown c m m') :
    m'.parents = m.parents :=
  (congrArg Model.parents grown.rest :)

theorem Grown.relinked {c : String} {m m' : Model} (grown : Grown c m m') : Relinked m m' :=
  ⟨m.parents, m'.subclasses, .inr rfl, grown.rest⟩

/-- What holds while the parents of a model of class `c` are linked one by one, from the
table `t`: `table` is the table so far and `linked` holds the class names of the parents met.
Every model has only gained `c` among its subclasses, each parent met lists `c`, and every
model listing `c` is a parent met. -/
structure Growing (t : Table Model) (c : String) (table : Table Model) (linked : List String) :
    Prop where
  keys : table.keys = t.keys
  grown : ∀ key x', table.get? key = some x' → ∃ x, t.get? key = some x ∧ Grown c x x'
  found : ∀ p ∈ linked, ∃ P, table.get? (Naming.modelKey p) = some P ∧ P.className = p ∧
    c ∈ P.subclasses
  listed : ∀ key x', table.get? key = some x' → c ∈ x'.subclasses → x'.className ∈ linked

section Growing

variable {t table : Table Model} {c : String} {linked : List String}

theorem growing_start (unlisted : ∀ key x, t.get? key = some x → c ∉ x.subclasses) :
    Growing t c t [] where
  keys := rfl
  grown _ x found := ⟨x, found, Grown.refl c x⟩
  found _ member := nomatch member
  listed key x found listing := absurd listing (unlisted key x found)

/-- Each model of `t` is still there, having only gained `c`. -/
theorem Growing.image (growing : Growing t c table linked) {key : String} {x : Model} (found : t.get? key = some x) :
    ∃ x', table.get? key = some x' ∧ Grown c x x' := by
  have present : key ∈ table.keys := by
    rw [growing.keys]
    exact List.mem_map_of_mem (f := Prod.fst) (Table.mem_of_get? found)
  cases found' : table.get? key with
  | none => exact absurd present ((Table.get?_eq_none_iff table key).mp found')
  | some x' =>
    obtain ⟨x0, found0, grown⟩ := growing.grown key x' found'
    rw [found, Option.some.injEq] at found0
    exact ⟨x', rfl, found0 ▸ grown⟩

/-- A model of the table is filed under the key of its class name. -/
theorem Growing.key_of_get? (keyed : Keyed t) (growing : Growing t c table linked)
    {key : String} {x' : Model} (found : table.get? key = some x') :
    key = Naming.modelKey x'.className := by
  obtain ⟨x, found0, grown⟩ := growing.grown key x' found
  rw [keyed.key_of_get? found0, grown.className]

/-- Meeting a parent that lists `c` already: the table stays, and its class name is linked. -/
theorem Growing.link_listed (keyed : Keyed t) (growing : Growing t c table linked)
    {key : String} {parent : Model} (found : table.get? key = some parent)
    (listing : c ∈ parent.subclasses) :
    Growing t c table (linked ++ [parent.className]) where
  keys := growing.keys
  grown := growing.grown
  found p member := by
    rcases List.mem_append.mp member with old | new
    · exact growing.found p old
    · rw [List.mem_singleton.mp new, ← growing.key_of_get? keyed found]
      exact ⟨parent, found, rfl, listing⟩
  listed k x' found' listing' := List.mem_append_left _ (growing.listed k x' found' listing')

/-- Meeting a parent that does not list `c`: it gains `c` and every other model stays as it
was, and its class name is linked. -/
theorem Growing.link_append (keyed : Keyed t) (growing : Growing t c table linked)
    {key : String} {parent : Model} (found : table.get? key = some parent) :
    Growing t c (table.modify key fun p => { p with subclasses := p.subclasses ++ [c] })
      (linked ++ [parent.className]) := by
  have lookup := Table.get?_modify_of_get? found fun p => { p with subclasses := p.subclasses ++ [c] }
  refine ⟨by rw [Table.keys_modify, growing.keys], ?_, ?_, ?_⟩
  · intro k x' found'
    rw [lookup] at found'
    split at found'
    · next same =>
      cases found'
      obtain ⟨x, found0, grown⟩ := growing.grown key parent found
      exact ⟨x, same ▸ found0, grown.trans (Grown.append c parent)⟩
    · exact growing.grown k x' found'
  · intro p member
    rcases List.mem_append.mp member with old | new
    · obtain ⟨P, foundP, named, listing⟩ := growing.found p old
      rw [lookup]
      split
      · next same =>
        rw [← same, found, Option.some.injEq] at foundP
        subst foundP
        exact ⟨_, rfl, named, List.mem_append_left _ listing⟩
      · exact ⟨P, foundP, named, listing⟩
    · rw [List.mem_singleton.mp new, ← growing.key_of_get? keyed found, lookup, if_pos rfl]
      exact ⟨_, rfl, rfl, List.mem_append_right _ (List.mem_singleton_self c)⟩
  · intro k x' found' listing
    rw [lookup] at found'
    split at found'
    · cases found'
      exact List.mem_append_right _ (List.mem_singleton_self _)
    · exact List.mem_append_left _ (growing.listed k x' found' listing)

/-- Meeting a parent filed under `key`: the model records `c` among its subclasses unless it
lists it already, and its class name is linked. -/
theorem Growing.link (keyed : Keyed t) (growing : Growing t c table linked) {key : String}
    {parent : Model} (found : table.get? key = some parent) :
    Growing t c
      (if parent.subclasses.contains c then table
        else table.modify key fun p => { p with subclasses := p.subclasses ++ [c] })
      (linked ++ [parent.className]) := by
  split
  · next listing => exact growing.link_listed keyed found (List.contains_iff_mem.mp listing)
  · exact growing.link_append keyed found

end Growing

/-! ## Linking the objects in turn -/

/-- The parents of `m` are linked in `t`: each is the class of a model of `t`, found under its
key, that lists `m` among its subclasses. -/
def ParentsFound (t : Table Model) (m : Model) : Prop :=
  ∀ p ∈ m.parents, ∃ P, t.get? (Naming.modelKey p) = some P ∧ P.className = p ∧
    m.className ∈ P.subclasses

/-- What holds after linking the keys of the collected table `start` other than `rest`:
`table` relinks `start`, the models under the keys done have their parents linked, and a model
lists as subclasses only the models done that name it as a parent. -/
structure Linking (start table : Table Model) (rest : List String) : Prop where
  relinks : Relinks start table
  pending : rest.Nodup
  found : ∀ k m, table.get? k = some m → k ∉ rest → ParentsFound table m
  backed : ∀ k P, table.get? k = some P → ∀ s ∈ P.subclasses,
    ∃ S, table.get? (Naming.modelKey s) = some S ∧ S.className = s ∧
      Naming.modelKey s ∉ rest ∧ P.className ∈ S.parents

section Linking

variable {start table : Table Model} {key : String} {rest : List String}

theorem linking_start (formed : Formed start) (unlinked : ∀ e ∈ start, Unlinked e.2) :
    Linking start start start.keys where
  relinks := Relinks.refl start
  pending := formed.keyed.distinct
  found k m found notKey :=
    absurd (List.mem_map_of_mem (f := Prod.fst) (Table.mem_of_get? found)) notKey
  backed k P found s listed := by
    rw [(unlinked _ (Table.mem_of_get? found)).noSubclasses] at listed
    cases listed

/-- A turn that leaves the table as it is, under a key whose model has its parents linked. -/
theorem Linking.next (linking : Linking start table (key :: rest))
    (done : ∀ m, table.get? key = some m → ParentsFound table m) : Linking start table rest where
  relinks := linking.relinks
  pending := (List.nodup_cons.mp linking.pending).2
  found k m found notRest := by
    by_cases here : k = key
    · subst here
      exact done m found
    · exact linking.found k m found (by simp [here, notRest])
  backed k P found s listed := by
    obtain ⟨S, foundS, named, notPending, parent⟩ := linking.backed k P found s listed
    exact ⟨S, foundS, named, fun later => notPending (List.mem_cons_of_mem key later), parent⟩

/-- At the end of the turn of an object, the models done have their parents linked: the
object names the parents met, each of which now lists it, and the models done before name
parents that still list them. -/
theorem Linking.finish_found (linking : Linking start table (key :: rest)) {m : Model}
    (found : table.get? key = some m) {mid : Table Model} {linked : List String}
    (growing : Growing table m.className mid linked) :
    ∀ k x, (mid.modify key fun x => { x with parents := linked }).get? k = some x → k ∉ rest →
      ParentsFound (mid.modify key fun x => { x with parents := linked }) x := by
  obtain ⟨z, foundZ, grownZ⟩ := growing.image found
  intro k x'' found'' notRest
  rw [Table.get?_modify_map] at found''
  obtain ⟨y, foundY, rfl⟩ := Option.map_eq_some_iff.mp found''
  obtain ⟨x, foundX, grown⟩ := growing.grown k y foundY
  have atEnd : ∀ {p P}, mid.get? (Naming.modelKey p) = some P →
      (mid.modify key fun x => { x with parents := linked }).get? (Naming.modelKey p) =
        some (if key = Naming.modelKey p then { P with parents := linked } else P) := by
    intro p P foundP
    rw [Table.get?_modify_map, foundP]
    rfl
  split
  · next same =>
    subst same
    intro p member
    obtain ⟨P, foundP, named, listing⟩ := growing.found p member
    refine ⟨_, atEnd foundP, by split <;> exact named, ?_⟩
    rw [foundY, Option.some.injEq] at foundZ
    subst foundZ
    rw [grownZ.className]
    split <;> exact listing
  · next other =>
    have before : k ∉ key :: rest := by simp [Ne.symm other, notRest]
    intro p member
    rw [grown.parents] at member
    obtain ⟨P, foundP, named, listing⟩ := linking.found k x foundX before p member
    obtain ⟨P', foundP', grownP⟩ := growing.image foundP
    refine ⟨_, atEnd foundP', by split <;> exact grownP.className.trans named, ?_⟩
    rw [grown.className]
    split <;> exact grownP.keeps listing

/-- At the end of the turn of an object, every subclass a model lists is a model done that
names it as a parent: one listed before, or the object itself. -/
theorem Linking.finish_backed (keyed : Keyed table) (linking : Linking start table (key :: rest))
    {m : Model} (found : table.get? key = some m) {mid : Table Model} {linked : List String}
    (growing : Growing table m.className mid linked) :
    ∀ k P, (mid.modify key fun x => { x with parents := linked }).get? k = some P →
      ∀ s ∈ P.subclasses, ∃ S,
        (mid.modify key fun x => { x with parents := linked }).get? (Naming.modelKey s) = some S ∧
          S.className = s ∧ Naming.modelKey s ∉ rest ∧ P.className ∈ S.parents := by
  have ownKey : key = Naming.modelKey m.className := keyed.key_of_get? found
  have fresh : key ∉ rest := (List.nodup_cons.mp linking.pending).1
  obtain ⟨z, foundZ, grownZ⟩ := growing.image found
  intro k P'' found'' s listed
  rw [Table.get?_modify_map] at found''
  obtain ⟨y, foundY, rfl⟩ := Option.map_eq_some_iff.mp found''
  obtain ⟨x, foundX, grown⟩ := growing.grown k y foundY
  have sameClass : (if key = k then { y with parents := linked } else y).className = x.className :=
    by split <;> exact grown.className
  have listedY : s ∈ y.subclasses := by split at listed <;> exact listed
  rw [sameClass]
  rcases grown.only s listedY with old | new
  · obtain ⟨S, foundS, named, notPending, parent⟩ := linking.backed k x foundX s old
    obtain ⟨S', foundS', grownS⟩ := growing.image foundS
    have other : key ≠ Naming.modelKey s := fun same => notPending (same ▸ List.mem_cons_self)
    refine ⟨S', ?_, grownS.className.trans named,
      fun later => notPending (List.mem_cons_of_mem key later), grownS.parents ▸ parent⟩
    rw [Table.get?_modify_map, foundS', Option.map_some, if_neg other]
  · subst new
    refine ⟨{ z with parents := linked }, ?_, grownZ.className, ownKey ▸ fresh, ?_⟩
    · rw [← ownKey, Table.get?_modify_of_get? foundZ, if_pos rfl]
    · rw [← grown.className]
      exact growing.listed k y foundY listedY

/-- The turn of an object: with the parents of its model `m` linked into `mid`, naming them by
their class names links the model. -/
theorem Linking.finish (keyed : Keyed table) (linking : Linking start table (key :: rest))
    {m : Model} (found : table.get? key = some m) {mid : Table Model} {linked : List String}
    (growing : Growing table m.className mid linked)
    (relinks : Relinks table (mid.modify key fun x => { x with parents := linked })) :
    Linking start (mid.modify key fun x => { x with parents := linked }) rest :=
  ⟨linking.relinks.trans relinks, (List.nodup_cons.mp linking.pending).2,
    linking.finish_found found growing, linking.finish_backed keyed found growing⟩

end Linking

/-- One turn of `link` keeps `Linking`, the key of the turn done. No model lists the object of the
turn yet, since it is not done. -/
theorem linkOne_linking {start table table' : Table Model} {key : String} {rest : List String}
    (formed : Formed start) (unlinked : ∀ e ∈ start, Unlinked e.2)
    (linking : Linking start table (key :: rest)) (turn : linkOne table key = .ok table') :
    Linking start table' rest := by
  have keyed : Keyed table := (formed.relinks linking.relinks).keyed
  have relinks := linkOne_relinks keyed.distinct turn
  unfold linkOne at turn
  split at turn
  · next m found =>
    split at turn
    · next skipped =>
      cases turn
      refine linking.next fun m' found' => ?_
      rw [found, Option.some.injEq] at found'
      subst found'
      have noParents : m.parents = [] := by
        obtain ⟨e, inStart, _, relinked⟩ :=
          linking.relinks.entries (key, m) (Table.mem_of_get? found)
        simp only [Bool.or_eq_true, decide_eq_true_eq, List.isEmpty_iff] at skipped
        rcases skipped with notObject | none
        · exact (relinked.objectParents (unlinked e inStart)).resolve_right notObject
        · exact none
      intro p member
      rw [noParents] at member
      cases member
    · obtain ⟨⟨mid, linked⟩, loop, finish⟩ := except_bind_ok turn
      have unlisted : ∀ k x, table.get? k = some x → m.className ∉ x.subclasses := by
        intro k x foundX listing
        obtain ⟨S, _, _, notPending, _⟩ := linking.backed k x foundX _ listing
        exact notPending (keyed.key_of_get? found ▸ List.mem_cons_self)
      have growing : Growing table m.className mid linked := by
        refine foldlM_invariant m.parents _ (table, [])
          (fun acc => Growing table m.className acc.1 acc.2) (growing_start unlisted) ?_ loop
        rintro ⟨t, l⟩ parentName ⟨t', l'⟩ _ grows step
        dsimp only at step grows ⊢
        split at step
        · next parent foundParent =>
          cases step
          exact grows.link keyed foundParent
        · cases step
      cases finish
      exact linking.finish keyed found growing relinks
  · next absent =>
    cases turn
    exact linking.next fun m found => (absent m found).elim

/-- Linking a collected table links it both ways, and leaves parents to objects. -/
theorem link_links_hierarchy {start table : Table Model} (formed : Formed start)
    (unlinked : ∀ e ∈ start, Unlinked e.2) (linked : link start = .ok table) :
    ParentsLinked table ∧ SubclassesLinked table ∧
      ∀ e ∈ table, e.2.parents = [] ∨ e.2.kind = .object := by
  unfold link at linked
  have done := foldlM_invariant_rest start.keys linkOne start (Linking start)
    (linking_start formed unlinked)
    (fun _ _ _ _ linking turn => linkOne_linking formed unlinked linking turn) linked
  have keyed : Keyed table := (formed.relinks done.relinks).keyed
  refine ⟨?_, ?_, ?_⟩
  · intro m member p listed
    obtain ⟨P, foundP, named, listing⟩ :=
      done.found m.1 m.2 (keyed.get?_of_mem member) (fun none => nomatch none) p listed
    exact ⟨_, Table.mem_of_get? foundP, named, listing⟩
  · intro P member s listed
    obtain ⟨S, foundS, named, _, parent⟩ := done.backed P.1 P.2 (keyed.get?_of_mem member) s listed
    exact ⟨_, Table.mem_of_get? foundS, named, parent⟩
  · intro e member
    obtain ⟨e0, inStart, _, relinked⟩ := done.relinks.entries e member
    exact relinked.objectParents (unlinked e0 inStart)

/-! ## Tables showing the same links -/

/-- The class of a model and its links to other classes. -/
def links (m : Model) : String × List String × List String := (m.className, m.parents, m.subclasses)

/-- The links of each model of a table, in order. -/
def linksOf (t : Table Model) : List (String × List String × List String) :=
  t.map fun e => links e.2

theorem exists_links_of_mem {t t' : Table Model} (same : linksOf t' = linksOf t)
    {e' : String × Model} (member : e' ∈ t') :
    ∃ e ∈ t, e.2.className = e'.2.className ∧ e.2.parents = e'.2.parents ∧
      e.2.subclasses = e'.2.subclasses := by
  have shown : links e'.2 ∈ linksOf t := same ▸ List.mem_map_of_mem member
  obtain ⟨e, inT, sameLinks⟩ := List.mem_map.mp shown
  simp only [links, Prod.mk.injEq] at sameLinks
  exact ⟨e, inT, sameLinks⟩

theorem ParentsLinked.of_links {t t' : Table Model} (same : linksOf t' = linksOf t)
    (linked : ParentsLinked t) : ParentsLinked t' := by
  intro m' member p listed
  obtain ⟨m, inT, sameName, sameParents, _⟩ := exists_links_of_mem same member
  obtain ⟨P, inTP, named, listing⟩ := linked m inT p (sameParents ▸ listed)
  obtain ⟨P', member', sameNameP, _, sameSubclasses⟩ := exists_links_of_mem same.symm inTP
  exact ⟨P', member', sameNameP.trans named, sameSubclasses ▸ sameName ▸ listing⟩

theorem SubclassesLinked.of_links {t t' : Table Model} (same : linksOf t' = linksOf t)
    (linked : SubclassesLinked t) : SubclassesLinked t' := by
  intro P' member s listed
  obtain ⟨P, inT, sameName, _, sameSubclasses⟩ := exists_links_of_mem same member
  obtain ⟨S, inTS, named, parent⟩ := linked P inT s (sameSubclasses ▸ listed)
  obtain ⟨S', member', sameNameS, sameParents, _⟩ := exists_links_of_mem same.symm inTS
  exact ⟨S', member', sameNameS.trans named, sameParents ▸ sameName ▸ parent⟩

/-! ## The built table -/

/-- The model table of a document's definitions is linked both ways, and only objects name parents.
Giving each model its dependencies leaves the links as they are. -/
theorem build_links_hierarchy (config : Config) (definitions : Value) :
    Logged.Ensures (build config definitions) fun built =>
      ParentsLinked built ∧ SubclassesLinked built ∧
        ∀ e ∈ built, e.2.parents = [] ∨ e.2.kind = .object := by
  refine (build_collects config definitions).mono ?_
  rintro built ⟨entries, table, linked, -, collected, ok, rfl⟩
  obtain ⟨parents, subclasses, objects⟩ := link_links_hierarchy
    ((collect_formed config entries).gives collected)
    ((collect_unlinked config entries).gives collected) ok
  have same : linksOf (linked.map fun e => (e.1, { e.2 with
      dependencies := ofModel linked e.2 })) = linksOf linked := by
    simp [linksOf, links]
  refine ⟨parents.of_links same, subclasses.of_links same, ?_⟩
  intro e member
  obtain ⟨e0, inLinked, rfl⟩ := List.mem_map.mp member
  exact objects e0 inLinked

/-! ## The compiled table -/

/-- A class name is the plain name of its class: stripping wrappers changes nothing. -/
theorem stripWrappers_wordName {name : String} (word : Naming.WordName name) :
    stripWrappers name false = name :=
  Naming.stripWrappers_of_plain name fun c member wrapper => by
    have notWord := (Naming.wrapperChars_spec wrapper).2.2
    rw [word c member] at notWord
    cases notWord

/-- The filter keeps the parents of every model it keeps: a model depends on the models it
extends, unless it extends itself. -/
theorem keptModels_parentsLinked (f : Filter) {built : Table Model} (keyed : Keyed built)
    (words : ∀ e ∈ built, Naming.WordName e.2.className)
    (covers : ∀ e ∈ built, plainAlias e.2 = false → ∀ name ∈ shownNames e.2,
      Covers built (ownerKey e.2.className) e.2.dependencies name)
    (linked : ParentsLinked built) (objects : ∀ e ∈ built, e.2.parents = [] ∨ e.2.kind = .object)
    (services : Table Service) : ParentsLinked (f.keptModels built services) := by
  intro m kept p listed
  have inBuilt := Api.mem_keptModels kept
  obtain ⟨P, inBuiltP, named, listing⟩ := linked m inBuilt p listed
  by_cases own : P.2.className = m.2.className
  · rw [keyed.eq_of_className inBuiltP inBuilt own] at named listing
    exact ⟨m, kept, named, listing⟩
  · have isObject : m.2.kind = .object :=
      (objects m inBuilt).resolve_left fun none => by rw [none] at listed; cases listed
    have notPlain : plainAlias m.2 = false := by simp [plainAlias, isObject]
    have shown : p ∈ shownNames m.2 := by simp [shownNames, listed]
    have found : built.get? (Naming.modelKey (stripWrappers p false)) = some P.2 := by
      rw [← named, stripWrappers_wordName (words P inBuiltP)]
      exact Operations.Keyed.get?_className keyed inBuiltP
    have dependency : P.2.className ∈ m.2.dependencies :=
      covers m inBuilt notPlain p shown P.2 found (Api.ownerKey_ne keyed inBuilt inBuiltP own)
    have keptP := keptModels_closed f keyed services kept dependency
      (Operations.Keyed.get?_className keyed inBuiltP)
    exact ⟨_, Table.mem_of_get? keptP, named, listing⟩

theorem linksOf_of_viewed {t t' : Table Model} (same : Api.viewed Model.core t' =
    Api.viewed Model.core t) : linksOf t' = linksOf t := by
  have shown := congrArg (List.map fun e => links e.2) same
  simpa [Api.viewed, linksOf, links, Model.core, Function.comp_def] using shown

/-- Whenever a document compiles, the parents of every compiled model are compiled models that
list it among their subclasses. A subclass that a compiled model lists is a model, built from
the definitions, that names it as a parent, and so does every compiled model of that class; the
tag filter may have dropped that model, since subclasses are no dependencies, but never when
unused models are kept, and then the compiled table is linked both ways. -/
theorem compile_links_hierarchy (config : Config) (doc : Value) :
    Logged.Ensures (Api.compile config doc) fun api =>
      ParentsLinked api.models ∧
      (∀ built, Logged.Gives (build config ((doc.field "definitions").getD .null)) built →
        ∀ P ∈ api.models, ∀ s ∈ P.2.subclasses,
          ∃ S ∈ built, S.2.className = s ∧ P.2.className ∈ S.2.parents) ∧
      (∀ P ∈ api.models, ∀ s ∈ P.2.subclasses, ∀ S ∈ api.models, S.2.className = s →
        P.2.className ∈ S.2.parents) ∧
      (config.ignoreUnusedModels = false → SubclassesLinked api.models) := by
  refine (Api.compile_tables config doc).mono ?_
  rintro api ⟨built, services, builtGiven, -, models, -⟩
  obtain ⟨keyed, words, covers⟩ := (build_covers config _).gives builtGiven
  obtain ⟨parents, subclasses, objects⟩ := (build_links_hierarchy config _).gives builtGiven
  have shown : linksOf api.models = linksOf ((Api.filterOf config).keptModels built services) :=
    linksOf_of_viewed models
  have backed : ∀ P ∈ api.models, ∀ s ∈ P.2.subclasses,
      ∃ S ∈ built, S.2.className = s ∧ P.2.className ∈ S.2.parents := by
    intro P member s listed
    obtain ⟨P0, kept, sameName, _, sameSubclasses⟩ := exists_links_of_mem shown member
    obtain ⟨S, inBuilt, named, parent⟩ :=
      subclasses P0 (Api.mem_keptModels kept) s (sameSubclasses ▸ listed)
    exact ⟨S, inBuilt, named, sameName ▸ parent⟩
  refine ⟨(keptModels_parentsLinked _ keyed words covers parents objects services).of_links shown,
    ?_, ?_, ?_⟩
  · intro built' given'
    obtain ⟨logs, after, ran⟩ := given'
    rw [← (build_oblivious config _).gives_eq builtGiven ran]
    exact backed
  · intro P member s listed S memberS named
    obtain ⟨S0, inBuilt, named0, parent⟩ := backed P member s listed
    obtain ⟨S1, kept, sameName, sameParents, _⟩ := exists_links_of_mem shown memberS
    have same := keyed.eq_of_className (Api.mem_keptModels kept) inBuilt
      (sameName.trans (named.trans named0.symm))
    rw [← sameParents, same]
    exact parent
  · intro keepAll
    have everything : (Api.filterOf config).keptModels built services = built := by
      simp [Api.filterOf, Filter.keptModels, Filter.ofTags, keepAll]
    rw [everything] at shown
    exact subclasses.of_links shown

/-- An object `Pet` extending `Animal`, and an operation that returns an `Animal`. -/
def prunedSubclassDocument : Value := .object [
  ("swagger", .str "2.0"),
  ("definitions", .object [
    ("Animal", .object [("type", .str "object")]),
    ("Pet", .object [("allOf", .list [.object [("$ref", .str "#/definitions/Animal")]])])]),
  ("paths", .object [("/a", .object [("get", .object [
    ("operationId", .str "getAnimal"),
    ("responses", .object [("200", .object [("description", .str "ok"),
      ("schema", .object [("$ref", .str "#/definitions/Animal")])])])])])])]

/-- Subclass links do not survive the tag filter: it drops `Pet`, which no operation uses, and
keeps `Animal`, which still lists `Pet` among its subclasses. -/
theorem compile_keeps_pruned_subclass :
    (((Api.compile Config.default prunedSubclassDocument).runFrom #[]).1.toOption.map fun api =>
      (api.models.map fun e => (e.2.className, e.2.subclasses),
        decide (SubclassesLinked api.models))) =
      some ([("Animal", ["Pet"])], false) := by
  decide +kernel

end ClientGen.Models
