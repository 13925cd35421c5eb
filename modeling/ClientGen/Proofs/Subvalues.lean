import ClientGen.Proofs.ModelTable
import ClientGen.Proofs.AliasTypes

/-!
# Values within a document

`Within x v` says that `x` is `v` or is held by it at any depth, through the values of its
mappings and the items of its lists. These are the places a reference can point to and an
expansion can reach. Keys and set members are not entered: a document holds no mapping or list
there, since they must be keys (`Value.isKey`).

Each step along a reference lands on a lighter value within the node it leaves, so a reference
resolves to a value within its document, or to the empty mapping that stands for the document
itself (`Reference.resolve_within`). The example of every model built from the definitions is
empty or lies within them (`Models.build_samples_within`). So what holds of everything within a
document, such as avoiding a key (`Reference.avoids_of_within`), holds of the targets of its
references and of the examples of its models.
-/
namespace ClientGen

/-- `Within x v`: `x` is `v`, or is held at any depth by a value of one of its mappings or an
item of one of its lists. -/
inductive Within : Value → Value → Prop
  | refl (v : Value) : Within v v
  | value {x k y : Value} {entries : List (Value × Value)} :
      (k, y) ∈ entries → Within x y → Within x (.map entries)
  | item {x y : Value} {items : List Value} : y ∈ items → Within x y → Within x (.list items)

namespace Within

theorem trans {x y v : Value} (inner : Within x y) (outer : Within y v) : Within x v := by
  induction outer with
  | refl => exact inner
  | value member _ ih => exact .value member ih
  | item member _ ih => exact .item member ih

theorem weight_le {x v : Value} (within : Within x v) : x.weight ≤ v.weight := by
  induction within with
  | refl => exact Nat.le_refl _
  | value member _ ih =>
    have := Value.weight_le_weightEntries member
    simp only [Value.weight]
    omega
  | item member _ ih =>
    have := Value.weight_le_weightList member
    simp only [Value.weight]
    omega

theorem of_field {v x : Value} {key : String} (found : v.field key = some x) : Within x v := by
  cases v with
  | map entries =>
    obtain ⟨k, member⟩ := Value.mem_of_entryOf found
    exact .value member (.refl x)
  | _ => cases found

/-- Only the value itself is within a value that is neither a mapping nor a list. -/
theorem eq_of_flat {x v : Value} (within : Within x v) (notMap : ∀ entries, v ≠ .map entries)
    (notList : ∀ items, v ≠ .list items) : x = v := by
  cases within with
  | refl => rfl
  | value => exact absurd rfl (notMap _)
  | item => exact absurd rfl (notList _)

theorem eq_null {x : Value} (within : Within x .null) : x = .null :=
  within.eq_of_flat (fun _ same => by cases same) (fun _ same => by cases same)

end Within

theorem Value.weight_lt_of_mem_values {entries : List (Value × Value)} {k x : Value}
    (member : (k, x) ∈ entries) : x.weight < (Value.map entries).weight := by
  have := Value.weight_le_weightEntries member
  simp only [Value.weight]
  omega

theorem Value.weight_lt_of_mem_items {items : List Value} {x : Value} (member : x ∈ items) :
    x.weight < (Value.list items).weight := by
  have := Value.weight_le_weightList member
  simp only [Value.weight]
  omega

namespace Reference

/-- A step into a member lands within the node. -/
theorem stepInto_within {node : Value} {part : String} {next : Value}
    (stepped : stepInto node part = .ok (some next)) : Within next node := by
  cases node with
  | map entries =>
    simp only [stepInto, Except.ok.injEq] at stepped
    exact @Within.of_field (.map entries) next part stepped
  | list items =>
    simp only [stepInto] at stepped
    split at stepped
    · split at stepped
      · simp only [Except.ok.injEq] at stepped
        split at stepped
        · exact .item (List.mem_of_getElem? stepped) (.refl next)
        · cases stepped
      · cases stepped
    · cases stepped
  | _ => cases stepped

theorem walk_within (ref : String) :
    ∀ {node : Value} (parts : List String) {target : Value},
      walk ref node parts = .ok target → Within target node
  | node, [], target, walked => by
    cases walked
    exact .refl node
  | node, part :: rest, target, walked => by
    obtain ⟨found, stepped, walked⟩ := except_bind_ok walked
    cases found with
    | none => cases walked
    | some next => exact (walk_within ref rest walked).trans (stepInto_within stepped)

/-- A reference resolves to a value within its document, or to the empty mapping that stands
for the document itself. -/
theorem resolve_within {doc : Value} {ref : String} {target : Value}
    (resolved : resolve doc ref = .ok target) : target = .map [] ∨ Within target doc := by
  rcases resolve_eq_ok resolved with rfl | walked
  · exact .inl rfl
  · exact .inr (walk_within ref _ walked)

/-- What lies within a value that avoids a key avoids it too. -/
theorem avoids_of_within {key : String} {x v : Value} (within : Within x v)
    (clear : avoids key v = true) : avoids key x = true := by
  induction within with
  | refl => exact clear
  | value member _ ih =>
    simp only [avoids, Bool.and_eq_true] at clear
    exact ih (avoids_of_mem_entries clear.2 member).2
  | item member _ ih => exact ih (avoids_of_mem_items clear member)

end Reference

namespace Models

/-- The example of a model a definition gives is empty or lies within the definition. -/
theorem ofDefinition_sample_within {config : Config} {name schema : Value} {m : Model}
    (built : ofDefinition config name schema = .ok m) :
    m.sample = .null ∨ Within m.sample schema := by
  rw [ofDefinition_sample built]
  cases found : schema.field "example" with
  | none => exact .inl rfl
  | some x => exact .inr (Within.of_field found)

/-- Every example of a built model is empty or lies within the definitions: linking and
collecting the dependencies change no example. -/
theorem build_samples_within (config : Config) (definitions : Value) :
    Logged.Ensures (build config definitions) fun built =>
      ∀ e ∈ built, e.2.sample = .null ∨ Within e.2.sample definitions := by
  refine (build_models config definitions).mono fun built made e member => ?_
  obtain ⟨es, d, m, m', rfl, listed, given, relinked, same⟩ := made e member
  have sample : e.2.sample = m.sample := by
    rw [same]
    exact relinked.sample
  rw [sample]
  exact (ofDefinition_sample_within given).imp_right fun within => .value listed within

end Models

end ClientGen
