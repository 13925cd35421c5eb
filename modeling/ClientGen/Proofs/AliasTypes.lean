import ClientGen.Api.Models
import ClientGen.Proofs.ReferenceFrame

/-!
# The alias a model shows and the type of its definition

A definition that is no composition and becomes an array, a union or a simple model names a
type, which its model file shows: the element type of an array, the aliased type otherwise.
For an array and a simple model that type is the type of the whole definition, read as any
schema is read. A union is built from its variants alone and joined by ` |` and a line
break; it shows the type of the whole definition, up to white space and with the same
constituents, exactly when nothing the schema reader looks at first is present: a reference,
an `x-type` override or a true `x-nullable` flag (`ofDefinition_alias_matches_schemaType`).
A nullable union shows no `null` (`ofDefinition_union_drops_nullable`).

Comparing the two readings needs the reader's fuel. The whole definition reads its variants
with its own weight as fuel, a variant read alone gets its own weight and one more, and
reading with more fuel gives what reading with less gave (`parseWith_mono`): one level of
reading succeeds alike with a reader of the members that succeeds wherever the first one does
(`parseLevel_mono`).
-/
namespace ClientGen

/-! ## Weights of the values below a mapping -/

namespace Value

/-- The values a value is walked into weigh no more than it. -/
theorem weight_le_of_members {x : Value} {vs : List Value} (walked : x.members = .ok vs)
    {v : Value} (member : v ∈ vs) : v.weight ≤ x.weight := by
  cases x with
  | str s =>
    cases walked
    obtain ⟨c, -, rfl⟩ := List.mem_map.mp member
    simp [weight]
  | list items =>
    cases walked
    have := weight_le_weightList member
    simp only [weight]
    omega
  | map entries =>
    cases walked
    obtain ⟨⟨k, y⟩, inEntries, rfl⟩ := List.mem_map.mp member
    have := weight_le_weightEntries inEntries
    simp only [weight]
    omega
  | set members =>
    cases walked
    have := weight_le_weightList member
    simp only [weight]
    omega
  | bytes data =>
    cases walked
    obtain ⟨b, -, rfl⟩ := List.mem_map.mp member
    simp [weight]
  | _ => cases walked

/-- A value under a key of a mapping weighs at least two less than the mapping. -/
theorem weight_add_two_le_of_field {schema x : Value} {key : String}
    (found : schema.field key = some x) : x.weight + 2 ≤ schema.weight := by
  cases schema with
  | map entries =>
    obtain ⟨k, member⟩ := mem_of_entryOf found
    have := weight_le_weightEntries member
    have := one_le_weight k
    simp only [weight]
    omega
  | _ => cases found

end Value

namespace SchemaNode

/-! ## Reading with more fuel -/

section Monotone

variable {f g : Value → String → Except Fault SchemaNode}
  (agree : ∀ v p r, f v p = .ok r → g v p = .ok r)

include agree

theorem map_ok_of_imp {α : Type} (wrap : SchemaNode → α) (v : Value) (p : String) {r : α}
    (success : (wrap <$> f v p) = .ok r) : (wrap <$> g v p) = .ok r := by
  obtain ⟨a, first, rfl⟩ := except_map_ok success
  rw [agree v p a first]
  rfl

/-- Reading several members succeeds alike with a reader that succeeds where the first does. -/
theorem mapM_reads_mono {δ : Type} (xs : List δ) (k : δ → Value) (q : δ → String)
    {ns : List SchemaNode} (success : xs.mapM (fun x => f (k x) (q x)) = .ok ns) :
    xs.mapM (fun x => g (k x) (q x)) = .ok ns :=
  mapM_ok_of_imp xs (fun x _ y => agree (k x) (q x) y) success

theorem parseObject_mono {schema : Value} {info : NodeInfo} {r : SchemaNode} :
    parseObject f schema info = .ok r → parseObject g schema info = .ok r := by
  unfold parseObject
  dsimp only
  refine bind_ok_of_imp (fun _ => id) fun declared b => ?_
  refine bind_ok_of_imp (fun _ => mapM_ok_of_imp _ fun _ _ _ =>
    bind_ok_of_imp (fun _ => agree _ _ _) fun _ _ => id) fun properties b => ?_
  split
  · exact bind_ok_of_imp (fun _ => map_ok_of_imp agree _ _ _) fun _ _ => id
  · exact id
  · exact id

/-- One level of reading succeeds alike with a reader of the members that succeeds, and alike,
wherever the first one does. The two readings take the same branches, since the branches look
at the schema alone. -/
theorem parseLevel_mono {schema : Value} {path : String} {r : SchemaNode}
    (success : parseLevel f schema path = .ok r) : parseLevel g schema path = .ok r := by
  cases schema with
  | map entries =>
    revert success
    simp only [parseLevel]
    split
    · exact id
    split
    · exact id
    split
    · exact id
    split
    · exact map_ok_of_imp agree _ _ _
    split
    · split
      · split <;> exact bind_ok_of_imp (fun _ => id) fun _ _ =>
          bind_ok_of_imp (fun _ => mapM_reads_mono agree _ _ _) fun _ _ => id
      split
      · exact bind_ok_of_imp (fun _ => id) fun _ _ =>
          bind_ok_of_imp (fun _ => mapM_reads_mono agree _ _ _) fun _ _ => id
      split
      · exact parseObject_mono agree
      · exact id
    · exact bind_ok_of_imp (fun _ => mapM_reads_mono agree _ _ _) fun _ _ => id
    · split
      · split
        · refine bind_ok_of_imp (fun _ => mapM_reads_mono agree _ _ _) fun nodes b => ?_
          split
          · exact bind_ok_of_imp (fun _ => map_ok_of_imp agree _ _ _) fun _ _ => id
          · exact id
        · exact id
        · exact id
        · exact map_ok_of_imp agree _ _ _
      split
      · exact parseObject_mono agree
      · exact id
  | _ => exact success

end Monotone

theorem parseWith_succ {fuel : Nat} :
    ∀ {schema : Value} {path : String} {r : SchemaNode},
      parseWith fuel schema path = .ok r → parseWith (fuel + 1) schema path = .ok r := by
  induction fuel with
  | zero => exact fun failed => nomatch failed
  | succ fuel ih => exact parseLevel_mono fun _ _ _ => ih

/-- Reading with more fuel gives what reading with less gave. -/
theorem parseWith_mono {fuel more : Nat} (enough : fuel ≤ more) {schema : Value} {path : String}
    {r : SchemaNode} (success : parseWith fuel schema path = .ok r) :
    parseWith more schema path = .ok r := by
  obtain ⟨extra, rfl⟩ := Nat.exists_eq_add_of_le enough
  induction extra with
  | zero => exact success
  | succ extra ih => exact parseWith_succ (ih (Nat.le_add_right _ _))

/-! ## The type of a union schema -/

/-- Typing members one by one, each read alone, is reading them with fuel at least their
weight and one more and then typing the trees. -/
theorem mapM_schemaType_split {xs : List (Value × Nat)} {q : Value × Nat → String}
    {types : List TypeExpr} (typed : xs.mapM (fun x => x.1.schemaType (q x)) = .ok types)
    {fuel : Nat} (enough : ∀ x ∈ xs, x.1.weight + 1 ≤ fuel) :
    ∃ nodes, xs.mapM (fun x => parseWith fuel x.1 (q x)) = .ok nodes ∧
      resolveList nodes = .ok types := by
  induction xs generalizing types with
  | nil =>
    cases typed
    exact ⟨[], rfl, rfl⟩
  | cons x rest ih =>
    obtain ⟨t, ts, first, others, rfl⟩ := mapM_cons_ok typed
    obtain ⟨n, parsed, resolved⟩ := except_bind_ok first
    obtain ⟨ns, more, listed⟩ :=
      ih others fun y member => enough y (List.mem_cons_of_mem x member)
    have fueled := parseWith_mono (enough x List.mem_cons_self) parsed
    refine ⟨n :: ns, ?_, ?_⟩
    · rw [List.mapM_cons, fueled, more]
      rfl
    · simp only [resolveList, resolved, listed]
      rfl

/-- A mapping without a type, a reference, an override or a true nullable flag, that has `anyOf` or
`oneOf`, has the union of its variants' types as its type, each variant read alone. The variants
weigh less than the mapping that holds them, and are read under the key the union was written with,
as the model reads them. -/
theorem schemaType_union {schema : Value} {path key : String} (untyped : schema.field "type" = none)
    (noRef : schema.fieldNotNull "$ref" = none) (noOverride : schema.fieldNotNull "x-type" = none)
    (notNullable : flag schema "x-nullable" = false)
    (keyed : (flag schema "anyOf" || flag schema "oneOf") = true)
    (chosen : key = if flag schema "anyOf" then "anyOf" else "oneOf") {vs : List Value}
    (read : ((schema.field key).getD .null).members = .ok vs) {types : List TypeExpr}
    (typed : vs.zipIdx.mapM (fun x => x.1.schemaType s!"{path}/{key}/{x.2}") = .ok types) :
    schema.schemaType path = .ok (.union types) := by
  cases schema with
  | map entries =>
    have enough : ∀ x ∈ vs.zipIdx, x.1.weight + 1 ≤ (Value.map entries).weight := by
      intro x member
      have inVs := List.fst_mem_of_mem_zipIdx member
      cases found : (Value.map entries).field key with
      | none =>
        rw [found] at read
        cases read
      | some y =>
        rw [found, Option.getD_some] at read
        have below := Value.weight_le_of_members read inVs
        have above := Value.weight_add_two_le_of_field found
        omega
    obtain ⟨nodes, parsed, listed⟩ := mapM_schemaType_split typed enough
    simp only [Value.schemaType, parse, parseWith, parseLevel, untyped, noRef, noOverride,
      notNullable, keyed]
    by_cases anyOf : flag (.map entries) "anyOf" = true
    · simp only [anyOf, if_true] at chosen ⊢
      subst chosen
      simp only [Bool.false_eq_true, if_false, read, parsed, bind, Except.bind, pure,
        Except.pure, resolve, listed]
    · simp only [anyOf, Bool.false_eq_true, if_false] at chosen ⊢
      subst chosen
      simp only [if_true, read, parsed, bind, Except.bind, pure, Except.pure, resolve, listed]
  | _ => simp [flag, Value.field] at keyed

end SchemaNode

/-! ## The models of definitions that name a type -/

namespace Models

/-- What a definition that is no composition gives: an array or a simple model that names
the type of the whole definition, a union of its variants' types, or an object. -/
theorem ofDefinition_alias_cases {config : Config} {name schema : Value} {m : Model}
    (built : ofDefinition config name schema = .ok m)
    (uncomposed : SchemaNode.flag schema "allOf" = false) :
    (∃ t, schema.schemaType s!"#/definitions/{name.display}" = .ok t ∧
      (m.kind = .array ∧ m.elementType = some t ∨ m.kind = .simple ∧ m.aliasType = some t)) ∨
    (m.kind = .union ∧ schema.field "type" = none ∧
      (SchemaNode.flag schema "anyOf" || SchemaNode.flag schema "oneOf") = true ∧
      ∃ (key : String) (vs : List Value) (types : List TypeExpr),
        key = (if SchemaNode.flag schema "anyOf" then "anyOf" else "oneOf") ∧
        ((schema.field key).getD .null).members = .ok vs ∧
        vs.zipIdx.mapM (fun x => x.1.schemaType s!"#/definitions/{name.display}/{key}/{x.2}") =
          .ok types ∧
        m.aliasType = some (.join " |\n  " types)) ∨
    m.kind = .object := by
  unfold ofDefinition at built
  obtain ⟨cls, -, built⟩ := except_bind_ok built
  dsimp only at built
  rw [if_neg (by simpa [SchemaNode.flag] using uncomposed)] at built
  split at built
  · obtain ⟨element, typed, built⟩ := except_bind_ok built
    cases built
    exact .inl ⟨element, typed, .inl ⟨rfl, rfl⟩⟩
  split at built
  · next keyed =>
    obtain ⟨vs, read, built⟩ := except_bind_ok built
    obtain ⟨types, typed, built⟩ := except_bind_ok built
    cases built
    simp only [Bool.and_eq_true, Bool.not_eq_true', Value.hasField,
      Option.isSome_eq_false_iff, Option.isNone_iff_eq_none] at keyed
    exact .inr (.inl ⟨rfl, keyed.1, by simpa [SchemaNode.flag] using keyed.2, _, vs, types,
      rfl, read, typed, rfl⟩)
  split at built
  · split at built
    · obtain ⟨declared, _, built⟩ := except_bind_ok built
      obtain ⟨ms, _, built⟩ := except_bind_ok built
      obtain ⟨additional, _, built⟩ := except_bind_ok built
      cases built
      exact .inr (.inr rfl)
    · split at built
      · cases built
      · obtain ⟨declared, _, built⟩ := except_bind_ok built
        obtain ⟨ms, _, built⟩ := except_bind_ok built
        obtain ⟨additional, _, built⟩ := except_bind_ok built
        cases built
        exact .inr (.inr rfl)
  · obtain ⟨aliased, typed, built⟩ := except_bind_ok built
    cases built
    exact .inl ⟨aliased, typed, .inr ⟨rfl, rfl⟩⟩

end Models

/-! ## Texts up to white space -/

/-- A text with its white space removed. -/
def withoutBlanks (s : String) : List Char := s.toList.filter fun c => !Text.isBlank c

/-- Joining with separators that agree up to the kept characters gives texts that agree so. -/
theorem filter_intercalate_congr (p : Char → Bool) {sep sep' : List Char}
    (same : sep.filter p = sep'.filter p) (xs : List (List Char)) :
    (sep.intercalate xs).filter p = (sep'.intercalate xs).filter p := by
  match xs with
  | [] => rfl
  | [x] => simp
  | x :: y :: rest =>
    simp only [List.intercalate_cons_cons, List.filter_append, same,
      filter_intercalate_congr p same (y :: rest)]

/-- Joining types with separators that agree up to white space gives the same constituents and
texts that agree up to white space. -/
theorem join_matches {sep sep' : String} (same : withoutBlanks sep = withoutBlanks sep')
    (ts : List TypeExpr) :
    (TypeExpr.join sep ts).parts = (TypeExpr.join sep' ts).parts ∧
      withoutBlanks (TypeExpr.join sep ts).text = withoutBlanks (TypeExpr.join sep' ts).text := by
  refine ⟨rfl, ?_⟩
  simp only [withoutBlanks, TypeExpr.join, TypeExpr.compound, String.toList_intercalate]
  exact filter_intercalate_congr _ same _

/-! ## The alias against the type of the definition -/

namespace Models

/-- A definition that is no composition and becomes an array, a union or a simple model shows
the type of the whole definition: the same constituents, and the same text up to white space.
For a union this needs the schema to have no reference, no `x-type` override and no true
`x-nullable` flag, which the schema reader looks at before the variants. -/
theorem ofDefinition_alias_matches_schemaType {config : Config} {name schema : Value} {m : Model}
    (built : ofDefinition config name schema = .ok m)
    (uncomposed : SchemaNode.flag schema "allOf" = false)
    (isAlias : m.kind = .array ∨ m.kind = .union ∨ m.kind = .simple)
    (plainUnion : m.kind = .union → schema.fieldNotNull "$ref" = none ∧
      schema.fieldNotNull "x-type" = none ∧ SchemaNode.flag schema "x-nullable" = false) :
    ∃ a t, (if m.kind = .array then m.elementType else m.aliasType) = some a ∧
      schema.schemaType s!"#/definitions/{name.display}" = .ok t ∧
      a.parts = t.parts ∧ withoutBlanks a.text = withoutBlanks t.text := by
  rcases ofDefinition_alias_cases built uncomposed with
    ⟨t, typed, ⟨isArray, element⟩ | ⟨isSimple, aliased⟩⟩ |
      ⟨isUnion, untyped, keyed, key, vs, types, chosen, read, typed, aliased⟩ | isObject
  · exact ⟨t, t, by simp [isArray, element], typed, rfl, rfl⟩
  · exact ⟨t, t, by simp [isSimple, aliased], typed, rfl, rfl⟩
  · obtain ⟨noRef, noOverride, notNullable⟩ := plainUnion isUnion
    have whole := SchemaNode.schemaType_union untyped noRef noOverride notNullable keyed chosen
      read typed
    have separators : withoutBlanks " |\n  " = withoutBlanks " | " := by decide +kernel
    exact ⟨_, _, by simp [isUnion, aliased], whole, join_matches separators types⟩
  · rcases isAlias with isArray | isUnion | isSimple <;> simp_all

/-- A union of two references. -/
def animalSchema : Value := .object [("anyOf", .list [
  .object [("$ref", .str "#/definitions/Cat")], .object [("$ref", .str "#/definitions/Dog")]])]

theorem ofDefinition_alias_matches_schemaType_animal :
    ∃ m, ofDefinition Config.default (.str "Animal") animalSchema = .ok m ∧
      SchemaNode.flag animalSchema "allOf" = false ∧ m.kind = .union ∧
      (animalSchema.fieldNotNull "$ref" = none ∧ animalSchema.fieldNotNull "x-type" = none ∧
        SchemaNode.flag animalSchema "x-nullable" = false) ∧
      ∃ a t, (if m.kind = .array then m.elementType else m.aliasType) = some a ∧
        animalSchema.schemaType "#/definitions/Animal" = .ok t ∧
        a.parts = t.parts ∧ withoutBlanks a.text = withoutBlanks t.text := by
  obtain ⟨m, built⟩ := exists_ok_of_isOk
    (by decide +kernel : (ofDefinition Config.default (.str "Animal") animalSchema).isOk = true)
  have kinds : ((ofDefinition Config.default (.str "Animal") animalSchema).toOption.map
      (·.kind)) = some .union := by
    decide +kernel
  have isUnion : m.kind = .union := by
    simpa [built, Except.toOption] using kinds
  have uncomposed : SchemaNode.flag animalSchema "allOf" = false := by decide +kernel
  have plain : animalSchema.fieldNotNull "$ref" = none ∧
      animalSchema.fieldNotNull "x-type" = none ∧
      SchemaNode.flag animalSchema "x-nullable" = false := by
    refine ⟨?_, ?_, ?_⟩ <;> decide +kernel
  exact ⟨m, built, uncomposed, isUnion, plain,
    ofDefinition_alias_matches_schemaType built uncomposed (.inr (.inl isUnion)) fun _ => plain⟩

/-- A union of one string variant, marked nullable. -/
def nullableUnionSchema : Value := .object [("oneOf", .list [.object [("type", .str "string")]]),
  ("x-nullable", .bool true)]

/-- A nullable union shows its variants alone: the model's alias is `string` where the type of
the definition is `null | string`. -/
theorem ofDefinition_union_drops_nullable :
    ((ofDefinition Config.default (.str "Maybe") nullableUnionSchema).toOption.map fun m =>
        (m.kind, m.aliasType)) = some (.union, some ⟨"string", some ["string"]⟩) ∧
      (nullableUnionSchema.schemaType "#/definitions/Maybe").toOption =
        some ⟨"null | string", some ["string"]⟩ ∧
      withoutBlanks "string" ≠ withoutBlanks "null | string" := by
  refine ⟨?_, ?_, ?_⟩ <;> decide +kernel

end Models

end ClientGen
