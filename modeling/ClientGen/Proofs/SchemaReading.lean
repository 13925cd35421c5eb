import ClientGen.Proofs.AliasTypes

/-!
# Reading a schema ends

`SchemaNode.parse` reads a schema one level at a time (`parseLevel`), reading the schemas below
it with the same reader. Two of those readings are not of parts of the schema: a list of types
reads the whole schema again with the list replaced by each member, and a true `x-nullable`
reads the whole schema again without that key. Every reading is still of a lighter schema, in
the weight the reader sees (`Value.schemaWeight`): the values in the mapping, with the entries
under `type` after the first left out, since replacing the list of types replaces those too.
It is at most the weight of the value (`schemaWeight_le_weight`).

So one level reads alike with two readers that agree on lighter schemas (`parseLevel_congr`),
any two fuels above the schema weight give one result (`parseWith_congr`), and the weight and
one more, the fuel `parse` gives, is enough: `parse` satisfies the recursion equation of the
reader, and is the one function that does (`parse_terminates`). The type of a schema is then
computed from its tree by structural recursion.
-/
namespace ClientGen

/-! ## The weight a reader sees -/

namespace Value

/-- The weight of a schema as its reader sees it: the weight of its mapping with only the first
entry under `type` kept. Any other value weighs as it is. -/
def schemaWeight (schema : Value) : Nat :=
  (SchemaNode.withoutKey schema "type").weight +
    match schema.field "type" with
    | some t => t.weight + 1
    | none => 0

theorem mem_of_entryOf_same {entries : List (Value × Value)} {key x : Value}
    (found : entryOf entries key = some x) : ∃ k, (k, x) ∈ entries ∧ k.same key = true := by
  obtain ⟨e, first, rfl⟩ := Option.map_eq_some_iff.mp found
  exact ⟨e.1, List.mem_of_find?_eq_some first,
    List.find?_some (p := fun entry : Value × Value => entry.1.same key) first⟩

theorem schemaWeight_of_typed {schema t : Value} (typed : schema.field "type" = some t) :
    schema.schemaWeight = (SchemaNode.withoutKey schema "type").weight + t.weight + 1 := by
  simp only [schemaWeight, typed]
  rfl

/-- The entries a test keeps and those it drops weigh together what all of them weigh. -/
theorem weightEntries_filter_split (entries : List (Value × Value)) (p : Value × Value → Bool) :
    weightEntries (entries.filter p) + weightEntries (entries.filter fun e => !p e) =
      weightEntries entries := by
  induction entries with
  | nil => rfl
  | cons e rest ih =>
    obtain ⟨k, x⟩ := e
    by_cases kept : p (k, x) = true
    · simp only [List.filter_cons, kept, if_true, Bool.not_true, Bool.false_eq_true, if_false,
        weightEntries]
      omega
    · simp only [List.filter_cons, kept, Bool.false_eq_true, if_false, Bool.not_false, if_true,
        weightEntries]
      omega

theorem weightEntries_filter_le (entries : List (Value × Value)) (p : Value × Value → Bool) :
    weightEntries (entries.filter p) ≤ weightEntries entries := by
  have split := weightEntries_filter_split entries p
  omega

/-- Leaving an entry out of a list of entries takes off at least its weight. -/
theorem weightEntries_filter_add {entries : List (Value × Value)} {p : Value × Value → Bool}
    {k x : Value} (member : (k, x) ∈ entries) (dropped : p (k, x) = false) :
    weightEntries (entries.filter p) + k.weight + x.weight ≤ weightEntries entries := by
  have split := weightEntries_filter_split entries p
  have left : (k, x) ∈ entries.filter fun e => !p e :=
    List.mem_filter.mpr ⟨member, by simp [dropped]⟩
  have := weight_le_weightEntries left
  omega

/-- The weight a reader sees is at most the weight: the entries left out weigh something. -/
theorem schemaWeight_le_weight (v : Value) : v.schemaWeight ≤ v.weight := by
  cases v with
  | map entries =>
    unfold schemaWeight
    cases typed : (Value.map entries).field "type" with
    | none =>
      have below := weightEntries_filter_le entries fun e => !e.1.same (.str "type")
      simp only [SchemaNode.withoutKey, weight]
      omega
    | some t =>
      obtain ⟨k, member, same⟩ := mem_of_entryOf_same typed
      have dropped := weightEntries_filter_add (p := fun e => !e.1.same (.str "type")) member
        (by simp [same])
      have keyWeight := one_le_weight k
      simp only [SchemaNode.withoutKey, weight]
      omega
  | _ => simp [schemaWeight, SchemaNode.withoutKey, field]

/-- A value under a key of a schema weighs at least two less than the schema, as its reader
sees it. -/
theorem weight_add_two_le_schemaWeight {schema x : Value} {key : String}
    (found : schema.field key = some x) : x.weight + 2 ≤ schema.schemaWeight := by
  cases schema with
  | map entries =>
    by_cases typeKey : key = "type"
    · subst typeKey
      rw [schemaWeight_of_typed found]
      have := one_le_weight (SchemaNode.withoutKey (.map entries) "type")
      omega
    · unfold schemaWeight
      obtain ⟨k, member, same⟩ := mem_of_entryOf_same found
      rw [same_str_iff] at same
      subst same
      have kept : ((Value.str key, x) ∈ entries.filter fun e => !e.1.same (.str "type")) :=
        List.mem_filter.mpr ⟨member, by simpa [same] using typeKey⟩
      have := weight_le_weightEntries kept
      have := one_le_weight (Value.str key)
      simp only [SchemaNode.withoutKey, weight]
      omega
  | _ => cases found

/-- A value walked out of a value under a key of a schema is lighter than the schema. -/
theorem schemaWeight_lt_of_members {schema x v : Value} {key : String} {vs : List Value}
    (found : schema.field key = some x) (walked : x.members = .ok vs) (member : v ∈ vs) :
    v.schemaWeight < schema.schemaWeight := by
  have below := weight_le_of_members walked member
  have above := weight_add_two_le_schemaWeight found
  have := schemaWeight_le_weight v
  omega

/-- A value under a key of a schema is lighter than the schema. -/
theorem schemaWeight_lt_of_field {schema x : Value} {key : String}
    (found : schema.field key = some x) : x.schemaWeight < schema.schemaWeight := by
  have above := weight_add_two_le_schemaWeight found
  have := schemaWeight_le_weight x
  omega

/-- Leaving out entries under other keys leaves the value under a key as it was. -/
theorem entryOf_filter_of_keeps {entries : List (Value × Value)} {key : Value}
    {p : Value × Value → Bool} (keeps : ∀ e ∈ entries, e.1.same key = true → p e = true) :
    entryOf (entries.filter p) key = entryOf entries key := by
  induction entries with
  | nil => rfl
  | cons e rest ih =>
    have restKeeps : ∀ e' ∈ rest, e'.1.same key = true → p e' = true :=
      fun e' member => keeps e' (List.mem_cons_of_mem e member)
    by_cases here : e.1.same key = true
    · have kept := keeps e List.mem_cons_self here
      simp [List.filter_cons_of_pos kept, entryOf, here]
    · by_cases kept : p e = true
      · simp only [List.filter_cons_of_pos kept, entryOf, List.find?_cons, here] at ih ⊢
        exact ih restKeeps
      · simp only [List.filter_cons_of_neg kept, entryOf, List.find?_cons, here] at ih ⊢
        exact ih restKeeps

theorem same_str_str (a b : String) : (Value.str a).same (.str b) = (a == b) := by
  simp [same]

/-- Replacing the values under a key and then leaving that key out leaves it out. -/
theorem withoutKey_replaceUnder (v : Value) (key : String) (f : Value → Value) :
    SchemaNode.withoutKey (Reference.replaceUnder key f v) key = SchemaNode.withoutKey v key := by
  cases v with
  | map entries =>
    simp only [SchemaNode.withoutKey, Reference.replaceUnder, map.injEq]
    induction entries with
    | nil => rfl
    | cons e rest ih =>
      by_cases here : e.1.same (.str key) = true
      · simp [here, ih]
      · simp [here, ih]
  | _ => rfl

/-- Reading a schema again without a true `x-nullable` flag reads a lighter schema. The flag is no
`type` entry: the first of those stays, and the flag's weight goes. -/
theorem schemaWeight_withoutKey_lt {schema : Value}
    (nullable : SchemaNode.flag schema "x-nullable" = true) :
    (SchemaNode.withoutKey schema "x-nullable").schemaWeight < schema.schemaWeight := by
  cases schema with
  | map entries =>
    obtain ⟨x, found, -⟩ : ∃ x, (Value.map entries).field "x-nullable" = some x ∧
        x.truthy = true := by
      simpa [SchemaNode.flag, Option.any_eq_true] using nullable
    obtain ⟨k, member, same⟩ := mem_of_entryOf_same found
    rw [same_str_iff] at same
    subst same
    have typeKept : (SchemaNode.withoutKey (.map entries) "x-nullable").field "type" =
        (Value.map entries).field "type" :=
      entryOf_filter_of_keeps fun e _ typeKey => by
        rw [same_str_iff] at typeKey
        simp [typeKey, same_str_str]
    have flagListed : ((Value.str "x-nullable", x) ∈
        entries.filter fun e => !e.1.same (.str "type")) :=
      List.mem_filter.mpr ⟨member, by simp [same_str_str]⟩
    have dropped := weightEntries_filter_add (p := fun e => !e.1.same (.str "x-nullable"))
      flagListed (by simp [same_str_str])
    have commuted : ((entries.filter fun e => !e.1.same (.str "x-nullable")).filter
          fun e => !e.1.same (.str "type")) =
        (entries.filter fun e => !e.1.same (.str "type")).filter
          fun e => !e.1.same (.str "x-nullable") := by
      simp only [List.filter_filter, Bool.and_comm]
    have flagWeight := one_le_weight (Value.str "x-nullable")
    unfold schemaWeight
    rw [typeKept]
    simp only [SchemaNode.withoutKey, weight, commuted]
    omega
  | _ => simp [SchemaNode.flag, field] at nullable

/-- Reading a schema again with its list of types replaced by a member reads a lighter schema. The
entries under `type` all take the member; the first of them is what the reader sees. -/
theorem schemaWeight_withKey_lt {schema t : Value} {types : List Value}
    (typed : schema.field "type" = some (.list types)) (member : t ∈ types) :
    (SchemaNode.withKey schema "type" t).schemaWeight < schema.schemaWeight := by
  cases schema with
  | map entries =>
    obtain ⟨k, listed, same⟩ := mem_of_entryOf_same typed
    have present : (entries.any fun entry => entry.1.same (.str "type")) = true :=
      List.any_eq_true.mpr ⟨_, listed, same⟩
    have replaced : SchemaNode.withKey (.map entries) "type" t =
        Reference.replaceUnder "type" (fun _ => t) (.map entries) := by
      simp only [SchemaNode.withKey, insertEntry, present, if_true, Reference.replaceUnder]
    have newType : (Reference.replaceUnder "type" (fun _ => t) (.map entries)).field "type" =
        some t := by
      have before : entryOf entries (.str "type") = some (.list types) := typed
      have replacedType := @Reference.entryOf_replaced_self "type" (fun _ => t) entries
      rw [before] at replacedType
      exact replacedType
    have lighter := weight_le_weightList member
    rw [replaced, schemaWeight_of_typed newType, schemaWeight_of_typed typed,
      withoutKey_replaceUnder]
    simp only [weight]
    omega
  | _ => cases typed

end Value

namespace SchemaNode

/-- A declared property of an object schema is lighter than the schema. -/
theorem schemaWeight_lt_of_declared {schema : Value} {declared : List (Value × Value)}
    (read : declaredProperties schema = .ok declared) {p : Value × Value}
    (member : p ∈ declared) :
    p.2.schemaWeight < schema.schemaWeight := by
  unfold declaredProperties at read
  cases found : schema.field "properties" with
  | none =>
    rw [found] at read
    cases read
    cases member
  | some props =>
    rw [found] at read
    cases props with
    | map fields =>
      cases read
      have listed : (p.1, p.2) ∈ declared := member
      have below := Value.weight_le_weightEntries listed
      have above := Value.weight_add_two_le_schemaWeight found
      have := Value.schemaWeight_le_weight p.2
      simp only [Value.weight] at above
      omega
    | _ =>
      dsimp only at read
      split at read
      · cases read
      · cases read
        cases member

/-! ## Every reading is of a lighter schema -/

section Congruence

variable {α β δ : Type}

theorem bind_congr_ok {x : Except Fault α} {k k' : α → Except Fault β}
    (same : ∀ a, x = .ok a → k a = k' a) : (x >>= k) = (x >>= k') := by
  cases x with
  | error fault => rfl
  | ok a => exact same a rfl

theorem mapM_congr_mem {f g : δ → Except Fault β} :
    ∀ (xs : List δ), (∀ x ∈ xs, f x = g x) → xs.mapM f = xs.mapM g
  | [], _ => rfl
  | x :: rest, same => by
    rw [List.mapM_cons, List.mapM_cons, same x List.mem_cons_self,
      mapM_congr_mem rest fun y member => same y (List.mem_cons_of_mem x member)]

variable {f g : Value → String → Except Fault SchemaNode} {schema : Value}
  (agree : ∀ v q, v.schemaWeight < schema.schemaWeight → f v q = g v q)

include agree

/-- Reading the members walked out of the value under a key reads lighter schemas. -/
theorem members_congr (key : String) {vs : List Value}
    (walked : ((schema.field key).getD .null).members = .ok vs) {δ : Type} (xs : List δ)
    (pick : δ → Value) (q : δ → String) (within : ∀ x ∈ xs, pick x ∈ vs) :
    xs.mapM (fun x => f (pick x) (q x)) = xs.mapM (fun x => g (pick x) (q x)) := by
  cases found : schema.field key with
  | none =>
    rw [found] at walked
    cases walked
  | some x =>
    rw [found, Option.getD_some] at walked
    exact mapM_congr_mem xs fun y member =>
      agree _ _ (Value.schemaWeight_lt_of_members found walked (within y member))

/-- An object reads alike with two readers that agree on lighter schemas: each declared property is
read from the mapping under `properties`, and the type of other keys, when it is a mapping, from
there. -/
theorem parseObject_congr {info : NodeInfo} :
    parseObject f schema info = parseObject g schema info := by
  unfold parseObject
  dsimp only
  refine bind_congr_ok fun declared read => ?_
  rw [mapM_congr_mem declared fun p member => by
    rw [agree _ _ (schemaWeight_lt_of_declared read member)]]
  refine bind_congr_ok fun properties _ => ?_
  split
  · next found => rw [agree _ _ (Value.schemaWeight_lt_of_field found)]
  · rfl
  · rfl

/-- One level of reading reads alike with two readers that agree on every schema lighter than
the one read: every reading of one level is of a lighter schema. -/
theorem parseLevel_congr {path : String} : parseLevel f schema path = parseLevel g schema path := by
  cases schema with
  | map entries =>
    simp only [parseLevel]
    split
    · rfl
    split
    · rfl
    split
    · rfl
    split
    · next nullable => rw [agree _ _ (Value.schemaWeight_withoutKey_lt nullable)]
    split
    · split
      · split <;> exact bind_congr_ok fun vs walked =>
          congrArg (· >>= _) (members_congr agree _ walked _ _ _ fun x member =>
            List.fst_mem_of_mem_zipIdx member)
      split
      · exact bind_congr_ok fun vs walked =>
          congrArg (· >>= _) (members_congr agree _ walked _ _ _ fun x member =>
            List.fst_mem_of_mem_zipIdx (List.mem_filter.mp member).1)
      split
      · exact parseObject_congr agree
      · rfl
    · next types typed =>
      exact congrArg (· >>= _) (mapM_congr_mem _ fun x member =>
        agree _ _ (Value.schemaWeight_withKey_lt typed (List.fst_mem_of_mem_zipIdx member)))
    · split
      · split
        · next items found =>
          have walked : (((Value.map entries).field "items").getD .null).members = .ok items := by
            rw [found]
            rfl
          rw [members_congr agree _ walked _ _ _ fun x member => List.fst_mem_of_mem_zipIdx member]
          refine bind_congr_ok fun nodes _ => ?_
          split
          · next found' => rw [agree _ _ (Value.schemaWeight_lt_of_field found')]
          · rfl
        · rfl
        · rfl
        · next items _ _ found => rw [agree _ _ (Value.schemaWeight_lt_of_field found)]
      split
      · exact parseObject_congr agree
      · rfl
  | _ => rfl

end Congruence

/-! ## Fuel enough for any schema -/

/-- Any two fuels above the weight the reader sees give one reading: one level at a time, the
readings below it being of lighter schemas. -/
theorem parseWith_congr : ∀ (fuel fuel' : Nat) (schema : Value) (path : String),
    schema.schemaWeight < fuel → schema.schemaWeight < fuel' →
      parseWith fuel schema path = parseWith fuel' schema path
  | 0, _, _, _, enough, _ => absurd enough (Nat.not_lt_zero _)
  | _ + 1, 0, _, _, _, enough' => absurd enough' (Nat.not_lt_zero _)
  | fuel + 1, fuel' + 1, schema, path, enough, enough' => by
    simp only [parseWith]
    exact parseLevel_congr fun v q lighter =>
      parseWith_congr fuel fuel' v q (by omega) (by omega)

/-- Reading with more fuel than the schema weighs gives what `parse` gives. -/
theorem parseWith_eq_parse {fuel : Nat} {schema : Value} (enough : schema.weight < fuel)
    (path : String) : parseWith fuel schema path = parse schema path := by
  have seen := Value.schemaWeight_le_weight schema
  exact parseWith_congr _ _ _ _ (by omega) (by omega)

/-- `parse` satisfies the recursion equation of the reader: the fuel it gives never runs out. -/
theorem parse_eq_parseLevel (schema : Value) (path : String) :
    parse schema path = parseLevel parse schema path := by
  show parseWith (schema.weight + 1) schema path = _
  rw [parseWith]
  have seen := Value.schemaWeight_le_weight schema
  exact parseLevel_congr fun v q lighter => by
    have seenBelow := Value.schemaWeight_le_weight v
    exact parseWith_congr _ _ _ _ (by omega) (by omega)

/-- A reader that satisfies the recursion equation reads as `parse` does: induction on a bound
of the weight the reader sees. -/
theorem eq_parse_of_fixed {F : Value → String → Except Fault SchemaNode}
    (fixed : ∀ v q, F v q = parseLevel F v q) :
    ∀ (bound : Nat) (schema : Value) (path : String), schema.schemaWeight < bound →
      F schema path = parse schema path
  | 0, _, _, below => absurd below (Nat.not_lt_zero _)
  | bound + 1, schema, path, below => by
    rw [fixed, parse_eq_parseLevel]
    exact parseLevel_congr fun v q lighter => eq_parse_of_fixed fixed bound v q (by omega)

/-- Reading a schema ends, whatever keys it combines. One level of reading reads only schemas
lighter than the one read, as the reader sees them, and that weight is at most the schema's
weight; so any fuel above the weight gives what `parse` gives, `parse` satisfies the recursion
equation of the reader, and it is the one reader that does. -/
theorem parse_terminates (schema : Value) (path : String) :
    (∀ f g : Value → String → Except Fault SchemaNode,
        (∀ v q, v.schemaWeight < schema.schemaWeight → f v q = g v q) →
          parseLevel f schema path = parseLevel g schema path) ∧
      schema.schemaWeight ≤ schema.weight ∧
      (∀ fuel, schema.weight < fuel → parseWith fuel schema path = parse schema path) ∧
      parse schema path = parseLevel parse schema path ∧
      ∀ F : Value → String → Except Fault SchemaNode, (∀ v q, F v q = parseLevel F v q) →
        F schema path = parse schema path :=
  ⟨fun _ _ agree => parseLevel_congr agree, Value.schemaWeight_le_weight schema,
    fun _ enough => parseWith_eq_parse enough path, parse_eq_parseLevel schema path,
    fun _ fixed => eq_parse_of_fixed fixed _ schema path (Nat.lt_succ_self _)⟩

/-- A list of types inside a list of types, under a true `x-nullable`, is read to the end. -/
example : (parse (.object [("type", .list [.list [.str "string"], .str "null"]),
    ("x-nullable", .bool true)]) "#").toBool = true := by
  with_unfolding_all rfl

end SchemaNode

end ClientGen
