import ClientGen.Schema.Resolve
import ClientGen.Proofs.Hierarchy

/-!
# The references a type keeps among its names

`SchemaNode.resolve` writes the text of a type and, for a compound type, the names of the types
it is built from; the models a type depends on are found from those names alone, never from
the text. A reference shown in the text is never lost on the way: every reference that the
text renders (`RendersRef`: through a nullable wrapper, the variants of a union or an
intersection, the items of an array, the members of an object and its type for other keys, and
the first `M` members of a tuple bounded by `M`, its type for further items counted last)
names a class that is, once stripped of wrappers, one of the type's dependency names
(`schemaType_keeps_rendered_refs`).

The argument is an induction over `RendersRef`, carried by `TypeExpr.Names`: a name the type
contributes to a compound strips to the class. Compounds merge the names of their parts
(`TypeExpr.names_compound`), a nullable wrapper puts `null | ` in front of a scalar's text,
which stripping removes (`stripWrappers_nullable`), and a class name strips to itself.
-/
namespace ClientGen

namespace TypeExpr

/-- The type contributes to a compound built on it a name that strips to `c`. -/
def Names (t : TypeExpr) (c : String) : Prop := ∃ x ∈ t.ownNames, stripWrappers x false = c

theorem mem_addNew_of_mem_left {acc : List String} (names : List String) {n : String}
    (member : n ∈ acc) : n ∈ addNew acc names := by
  induction names generalizing acc with
  | nil => exact member
  | cons name rest ih =>
    apply ih
    split
    · exact member
    · exact List.mem_append_left _ member

theorem mem_addNew_of_mem_right (acc : List String) {names : List String} {n : String}
    (member : n ∈ names) : n ∈ addNew acc names := by
  induction names generalizing acc with
  | nil => cases member
  | cons name rest ih =>
    unfold addNew
    rcases List.mem_cons.mp member with rfl | later
    · apply mem_addNew_of_mem_left
      split
      · next present => exact List.contains_iff_mem.mp present
      · exact List.mem_append_right _ (List.mem_singleton_self _)
    · exact ih _ later

/-- Merging keeps every name of every type merged. -/
theorem mem_mergeNames_of_mem {ts : List TypeExpr} {t : TypeExpr} (part : t ∈ ts) {n : String}
    (member : n ∈ t.ownNames) : n ∈ mergeNames ts := by
  unfold mergeNames
  have kept : ∀ (acc : List String) (us : List TypeExpr),
      n ∈ acc → n ∈ us.foldl (fun acc u => addNew acc u.ownNames) acc := by
    intro acc us
    induction us generalizing acc with
    | nil => exact id
    | cons u rest ih => exact fun present => ih _ (mem_addNew_of_mem_left _ present)
  have merged : ∀ (acc : List String) (us : List TypeExpr), t ∈ us →
      n ∈ us.foldl (fun acc u => addNew acc u.ownNames) acc := by
    intro acc us
    induction us generalizing acc with
    | nil => exact fun absent => absurd absent List.not_mem_nil
    | cons u rest ih =>
      intro inUs
      rcases List.mem_cons.mp inUs with rfl | later
      · exact kept _ rest (mem_addNew_of_mem_right acc member)
      · exact ih _ later
  exact merged [] ts part

/-- A compound names what any of its parts names. -/
theorem names_compound (text : String) {ts : List TypeExpr} {t : TypeExpr} (part : t ∈ ts)
    {c : String} (named : t.Names c) : (compound text ts).Names c := by
  obtain ⟨x, member, stripped⟩ := named
  exact ⟨x, mem_mergeNames_of_mem part member, stripped⟩

end TypeExpr

/-- Stripping removes a nullable marker written in front of a type's text. -/
theorem stripWrappers_nullable (s : String) (nullableOnly : Bool) :
    stripWrappers ("null | " ++ s) nullableOnly = stripWrappers s nullableOnly := by
  have marked : ("null | " ++ s).toList.filter (· ≠ ' ') =
      'n' :: 'u' :: 'l' :: 'l' :: '|' :: s.toList.filter (· ≠ ' ') := by
    simp [String.toList_append]
  simp only [stripWrappers, marked, TypeExpr.dropNullMarkers]

namespace SchemaNode

/-! ## The references a type's text renders -/

/-- The references whose class the text of a tree's type shows: a reference itself, and those
below it through the children `resolve` writes out. A tuple bounded by `M` writes its first
`M` members, its declared items followed by the type of further items. -/
inductive RendersRef (target : Value) : SchemaNode → Prop
  | ref (info : NodeInfo) : RendersRef target (.ref info target)
  | nullable {info : NodeInfo} {inner : SchemaNode} :
      RendersRef target inner → RendersRef target (.nullable info inner)
  | union {info : NodeInfo} {kind : UnionKind} {variants : List SchemaNode} {v : SchemaNode} :
      v ∈ variants → RendersRef target v → RendersRef target (.union info kind variants)
  | intersection {info : NodeInfo} {variants : List SchemaNode} {v : SchemaNode} :
      v ∈ variants → RendersRef target v → RendersRef target (.intersection info variants)
  | array {info : NodeInfo} {items : SchemaNode} :
      RendersRef target items → RendersRef target (.array info items)
  | tupleItem {info : NodeInfo} {items : List SchemaNode} {lo hi : Value}
      {extra : Option SchemaNode} {bound : Int} {i : Nat} {v : SchemaNode} :
      asCount hi = some bound → (i : Int) < bound → items[i]? = some v → RendersRef target v →
        RendersRef target (.tuple info items lo hi extra)
  | tupleExtra {info : NodeInfo} {items : List SchemaNode} {lo hi : Value} {bound : Int}
      {v : SchemaNode} :
      asCount hi = some bound → (items.length : Int) < bound → RendersRef target v →
        RendersRef target (.tuple info items lo hi (some v))
  | member {info : NodeInfo} {props : List Property} {required : List Value}
      {extra : Option SchemaNode} {name : Value} {isRequired : Bool} {v : SchemaNode} :
      Property.mk name isRequired v ∈ props → RendersRef target v →
        RendersRef target (.object info props required extra)
  | additional {info : NodeInfo} {props : List Property} {required : List Value}
      {v : SchemaNode} :
      RendersRef target v → RendersRef target (.object info props required (some v))

/-! ## What resolving a node is made of -/

/-- Resolving `v :: rest` resolves `v`, then `rest`. -/
theorem resolveList_cons_ok {v : SchemaNode} {rest : List SchemaNode} {ts : List TypeExpr}
    (resolved : resolveList (v :: rest) = .ok ts) :
    ∃ t others, v.resolve = .ok t ∧ resolveList rest = .ok others ∧ ts = t :: others := by
  simp only [resolveList] at resolved
  obtain ⟨t, first, resolved⟩ := except_bind_ok resolved
  obtain ⟨others, more, resolved⟩ := except_bind_ok resolved
  cases resolved
  exact ⟨t, others, first, more, rfl⟩

theorem resolveList_mem {vs : List SchemaNode} {ts : List TypeExpr}
    (resolved : resolveList vs = .ok ts) {v : SchemaNode} (member : v ∈ vs) :
    ∃ t ∈ ts, v.resolve = .ok t := by
  induction vs generalizing ts with
  | nil => cases member
  | cons w rest ih =>
    obtain ⟨t, others, first, more, rfl⟩ := resolveList_cons_ok resolved
    rcases List.mem_cons.mp member with rfl | later
    · exact ⟨t, List.mem_cons_self, first⟩
    · obtain ⟨u, inOthers, found⟩ := ih more later
      exact ⟨u, List.mem_cons_of_mem t inOthers, found⟩

theorem resolveList_getElem? {vs : List SchemaNode} {ts : List TypeExpr}
    (resolved : resolveList vs = .ok ts) {i : Nat} {v : SchemaNode} (at_i : vs[i]? = some v) :
    ∃ t, ts[i]? = some t ∧ v.resolve = .ok t := by
  induction vs generalizing ts i with
  | nil => cases at_i
  | cons w rest ih =>
    obtain ⟨t, others, first, more, rfl⟩ := resolveList_cons_ok resolved
    cases i with
    | zero =>
      cases at_i
      exact ⟨t, rfl, first⟩
    | succ j => exact ih more at_i

theorem resolveList_length {vs : List SchemaNode} {ts : List TypeExpr}
    (resolved : resolveList vs = .ok ts) : ts.length = vs.length := by
  induction vs generalizing ts with
  | nil =>
    cases resolved
    rfl
  | cons w rest ih =>
    obtain ⟨t, others, -, more, rfl⟩ := resolveList_cons_ok resolved
    simp [ih more]

theorem resolveProperties_mem {props : List Property} {members : List (String × TypeExpr)}
    (resolved : resolveProperties props = .ok members) {name : Value} {isRequired : Bool}
    {v : SchemaNode} (member : Property.mk name isRequired v ∈ props) :
    ∃ t ∈ members.map (·.2), v.resolve = .ok t := by
  induction props generalizing members with
  | nil => cases member
  | cons p rest ih =>
    obtain ⟨name', isRequired', w⟩ := p
    simp only [resolveProperties] at resolved
    obtain ⟨t, first, resolved⟩ := except_bind_ok resolved
    obtain ⟨key, -, resolved⟩ := except_bind_ok resolved
    obtain ⟨others, more, resolved⟩ := except_bind_ok resolved
    cases resolved
    rcases List.mem_cons.mp member with same | later
    · cases same
      exact ⟨t, List.mem_cons_self, first⟩
    · obtain ⟨u, inOthers, found⟩ := ih more later
      exact ⟨u, List.mem_cons_of_mem _ inOthers, found⟩

/-! Each wrapper and container resolves its children and builds its type from theirs. -/

theorem resolve_nullable {info : NodeInfo} {inner : SchemaNode} {t : TypeExpr}
    (resolved : (nullable info inner).resolve = .ok t) :
    ∃ u, inner.resolve = .ok u ∧ t = ⟨"null | " ++ u.text, u.parts⟩ := by
  simp only [resolve] at resolved
  obtain ⟨u, found, resolved⟩ := except_bind_ok resolved
  cases resolved
  exact ⟨u, found, rfl⟩

theorem resolve_union {info : NodeInfo} {kind : UnionKind} {vs : List SchemaNode}
    {t : TypeExpr} (resolved : (union info kind vs).resolve = .ok t) :
    ∃ ts, resolveList vs = .ok ts ∧ t = .join " | " ts := by
  simp only [resolve] at resolved
  obtain ⟨ts, listed, resolved⟩ := except_bind_ok resolved
  cases resolved
  exact ⟨ts, listed, rfl⟩

theorem resolve_intersection {info : NodeInfo} {vs : List SchemaNode} {t : TypeExpr}
    (resolved : (intersection info vs).resolve = .ok t) :
    ∃ ts, resolveList vs = .ok ts ∧ t = .join " & " ts := by
  simp only [resolve] at resolved
  obtain ⟨ts, listed, resolved⟩ := except_bind_ok resolved
  cases resolved
  exact ⟨ts, listed, rfl⟩

theorem resolve_array {info : NodeInfo} {items : SchemaNode} {t : TypeExpr}
    (resolved : (array info items).resolve = .ok t) :
    ∃ u, items.resolve = .ok u ∧ t = .compound ("Array<" ++ u.text ++ ">") [u] := by
  simp only [resolve] at resolved
  obtain ⟨u, found, resolved⟩ := except_bind_ok resolved
  cases resolved
  exact ⟨u, found, rfl⟩

theorem resolve_object {info : NodeInfo} {props : List Property} {required : List Value}
    {extra : Option SchemaNode} {t : TypeExpr}
    (resolved : (object info props required extra).resolve = .ok t) :
    ∃ members extraType, resolveProperties props = .ok members ∧
      resolveOption extra = .ok extraType ∧ t = objectType members extraType := by
  simp only [resolve] at resolved
  obtain ⟨members, listed, resolved⟩ := except_bind_ok resolved
  obtain ⟨extraType, optional, resolved⟩ := except_bind_ok resolved
  cases resolved
  exact ⟨members, extraType, listed, optional, rfl⟩

/-- A bound that counts some positive number is a true value. -/
theorem truthy_of_asCount {hi : Value} {bound : Int} (counted : asCount hi = some bound)
    (positive : 0 < bound) : hi.truthy = true := by
  cases hi with
  | int n =>
    cases counted
    simp [Value.truthy]
    omega
  | bool b =>
    cases b
    · cases counted
      cases positive
    · rfl
  | _ => cases counted

/-- A tuple bounded by a count is a compound over its first members, the type of further
items counted last. -/
theorem resolve_tuple {info : NodeInfo} {items : List SchemaNode} {lo hi : Value}
    {extra : Option SchemaNode} {bound : Int} (counted : asCount hi = some bound)
    (positive : 0 < bound) {t : TypeExpr} (resolved : (tuple info items lo hi extra).resolve = .ok t) :
    ∃ itemTypes extraType text, resolveList items = .ok itemTypes ∧
      resolveOption extra = .ok extraType ∧
      t = .compound text (takeFront (itemTypes ++ [extraType.getD (.scalar "any")]) bound) := by
  simp only [resolve, truthy_of_asCount counted positive, Bool.not_true, Bool.false_eq_true,
    if_false] at resolved
  obtain ⟨itemTypes, listed, resolved⟩ := except_bind_ok resolved
  obtain ⟨extraType, optional, resolved⟩ := except_bind_ok resolved
  unfold tupleType at resolved
  simp only [counted] at resolved
  split at resolved
  · next a b _ counts =>
    cases counts
    cases resolved
    exact ⟨itemTypes, extraType, _, listed, optional, rfl⟩
  · cases resolved

/-- The first `k` members of a list hold its member at an index below `k`. -/
theorem mem_takeFront {α : Type} {xs : List α} {k : Int} {i : Nat} (below : (i : Int) < k)
    {x : α} (at_i : xs[i]? = some x) : x ∈ takeFront xs k := by
  have nonneg : 0 ≤ k := by omega
  have fits : i < k.toNat := by omega
  rw [takeFront, if_pos nonneg]
  exact List.mem_of_getElem? (by rw [List.getElem?_take, if_pos fits, at_i])

/-- The class a reference names is made of word characters. -/
theorem refClassNameOf_wordName {target : Value} {c : String}
    (named : Naming.refClassNameOf target = .ok (some c)) : Naming.WordName c := by
  unfold Naming.refClassNameOf at named
  split at named
  · cases named
  · split at named
    · unfold Naming.refClassName at named
      split at named
      · cases named
      · obtain rfl := Option.some.inj (Except.ok.inj named)
        exact Naming.className_wordName _
    · cases named

/-- A reference names the class of its target. -/
theorem names_ref {info : NodeInfo} {target : Value} {c : String}
    (named : Naming.refClassNameOf target = .ok (some c)) (nonempty : c ≠ "") {t : TypeExpr}
    (resolved : (ref info target).resolve = .ok t) : t.Names c := by
  simp only [resolve, named] at resolved
  cases resolved
  refine ⟨c, by simp [TypeExpr.ownNames, TypeExpr.scalar, nonempty], ?_⟩
  exact Models.stripWrappers_wordName (refClassNameOf_wordName named)

/-! ## Every rendered reference is named -/

/-- The type of a tree names the class of every reference its text renders. A compound keeps its
parts; a scalar's text gets the marker that stripping removes. -/
theorem names_rendered_ref {n : SchemaNode} {target : Value} (renders : RendersRef target n)
    {c : String} (named : Naming.refClassNameOf target = .ok (some c)) (nonempty : c ≠ "") :
    ∀ {t : TypeExpr}, n.resolve = .ok t → t.Names c := by
  induction renders with
  | ref info => exact names_ref named nonempty
  | nullable _ ih =>
    intro t resolved
    obtain ⟨inner, first, rfl⟩ := resolve_nullable resolved
    obtain ⟨x, member, stripped⟩ := ih first
    cases parts : inner.parts with
    | some ps =>
      exact ⟨x, by simpa [TypeExpr.ownNames, parts] using member, stripped⟩
    | none =>
      simp only [TypeExpr.ownNames, parts, Option.getD_none, List.mem_singleton] at member
      subst member
      exact ⟨"null | " ++ inner.text, by simp [TypeExpr.ownNames],
        by rw [stripWrappers_nullable, stripped]⟩
  | union member _ ih =>
    intro t resolved
    obtain ⟨ts, listed, rfl⟩ := resolve_union resolved
    obtain ⟨u, inTypes, found⟩ := resolveList_mem listed member
    exact TypeExpr.names_compound _ inTypes (ih found)
  | intersection member _ ih =>
    intro t resolved
    obtain ⟨ts, listed, rfl⟩ := resolve_intersection resolved
    obtain ⟨u, inTypes, found⟩ := resolveList_mem listed member
    exact TypeExpr.names_compound _ inTypes (ih found)
  | array _ ih =>
    intro t resolved
    obtain ⟨u, found, rfl⟩ := resolve_array resolved
    exact TypeExpr.names_compound _ List.mem_cons_self (ih found)
  | @tupleItem info items lo hi extra bound i v counted below at_i _ ih =>
    intro t resolved
    obtain ⟨itemTypes, extraType, text, listed, -, rfl⟩ :=
      resolve_tuple counted (by omega) resolved
    obtain ⟨u, typeAt, found⟩ := resolveList_getElem? listed at_i
    have inItems : i < itemTypes.length := (List.getElem?_eq_some_iff.mp typeAt).1
    have kept : u ∈ takeFront (itemTypes ++ [extraType.getD (.scalar "any")]) bound :=
      mem_takeFront below (by rw [List.getElem?_append_left inItems, typeAt])
    exact TypeExpr.names_compound _ kept (ih found)
  | @tupleExtra info items lo hi bound v counted below _ ih =>
    intro t resolved
    obtain ⟨itemTypes, extraType, text, listed, optional, rfl⟩ :=
      resolve_tuple counted (by omega) resolved
    simp only [resolveOption] at optional
    obtain ⟨u, found, rfl⟩ := except_map_ok optional
    have lengths := resolveList_length listed
    have longer : (itemTypes.length : Int) < bound := by omega
    have kept : u ∈ takeFront (itemTypes ++ [(some u).getD (.scalar "any")]) bound :=
      mem_takeFront longer (by simp)
    exact TypeExpr.names_compound _ kept (ih found)
  | member inProps _ ih =>
    intro t resolved
    obtain ⟨members, extraType, listed, -, rfl⟩ := resolve_object resolved
    obtain ⟨u, inMembers, found⟩ := resolveProperties_mem listed inProps
    exact TypeExpr.names_compound _ (List.mem_append_left _ inMembers) (ih found)
  | additional _ ih =>
    intro t resolved
    obtain ⟨members, extraType, -, optional, rfl⟩ := resolve_object resolved
    simp only [resolveOption] at optional
    obtain ⟨u, found, rfl⟩ := except_map_ok optional
    exact TypeExpr.names_compound _ (List.mem_append_right _ (by simp)) (ih found)

/-- Every reference a tree's type renders, when it names a class, is among the type's dependency
names once stripped. A scalar lists its stripped text, which is the class, and a class strips to
itself. -/
theorem resolve_keeps_rendered_refs {n : SchemaNode} {t : TypeExpr} (resolved : n.resolve = .ok t)
    {target : Value} (renders : RendersRef target n) {c : String}
    (named : Naming.refClassNameOf target = .ok (some c)) (nonempty : c ≠ "") :
    ∃ x ∈ t.dependencyNames, stripWrappers x false = c := by
  obtain ⟨x, member, stripped⟩ := names_rendered_ref renders named nonempty resolved
  cases parts : t.parts with
  | some ps =>
    refine ⟨x, ?_, stripped⟩
    simpa [TypeExpr.dependencyNames, TypeExpr.ownNames, parts] using member
  | none =>
    simp only [TypeExpr.ownNames, parts, Option.getD_none, List.mem_singleton] at member
    subst member
    refine ⟨c, by simp [TypeExpr.dependencyNames, parts, stripped], ?_⟩
    exact Models.stripWrappers_wordName (refClassNameOf_wordName named)

/-- The type of a schema lists, among its dependency names, the class of every reference its
text renders. -/
theorem schemaType_keeps_rendered_refs {schema : Value} {path : String} {n : SchemaNode}
    {t : TypeExpr} (parsed : parse schema path = .ok n) (typed : schema.schemaType path = .ok t)
    {target : Value} (renders : RendersRef target n) {c : String}
    (named : Naming.refClassNameOf target = .ok (some c)) (nonempty : c ≠ "") :
    ∃ x ∈ t.dependencyNames, stripWrappers x false = c := by
  rw [Value.schemaType, parsed] at typed
  exact resolve_keeps_rendered_refs typed renders named nonempty

/-- An array of a union of a reference and a string. -/
def catsSchema : Value := .object [("type", .str "array"), ("items", .object [("anyOf", .list [
  .object [("$ref", .str "#/definitions/Cat")], .object [("type", .str "string")]])])]

theorem schemaType_keeps_rendered_refs_cats :
    ∃ n t, parse catsSchema "#" = .ok n ∧ catsSchema.schemaType "#" = .ok t ∧
      RendersRef (.str "#/definitions/Cat") n ∧
      Naming.refClassNameOf (.str "#/definitions/Cat") = .ok (some "Cat") ∧ "Cat" ≠ "" ∧
      ∃ x ∈ t.dependencyNames, stripWrappers x false = "Cat" := by
  let cat : SchemaNode := .ref ⟨"#/items/anyOf/0", .null⟩ (.str "#/definitions/Cat")
  let variants := [cat, .primitive ⟨"#/items/anyOf/1", .null⟩ "string" none .null]
  let tree : SchemaNode := .array ⟨"#", .null⟩ (.union ⟨"#/items", .null⟩ .anyOf variants)
  have parsed : parse catsSchema "#" = .ok tree := by with_unfolding_all rfl
  have typed : catsSchema.schemaType "#" = .ok ⟨"Array<Cat | string>", some ["Cat", "string"]⟩ := by
    with_unfolding_all rfl
  have inVariants : cat ∈ variants := List.mem_cons_self
  have renders : RendersRef (.str "#/definitions/Cat") tree := .array (.union inVariants (.ref _))
  have named : Naming.refClassNameOf (.str "#/definitions/Cat") = .ok (some "Cat") := by
    with_unfolding_all rfl
  exact ⟨tree, _, parsed, typed, renders, named, by decide,
    schemaType_keeps_rendered_refs parsed typed renders named (by decide)⟩

end SchemaNode

end ClientGen
