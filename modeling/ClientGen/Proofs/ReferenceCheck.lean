import ClientGen.Api.Compile
import ClientGen.Proofs.Logged
import ClientGen.Proofs.ReferenceFrame

/-!
# Checking the references of a document

Before anything is built, compiling resolves the references of the document, walking it
with a stack. The walk enters the items of lists and the values of mappings, except a
value stored under the key `$ref`; it enters neither sets nor keys. A reference inside a
mapping that is itself stored under a `$ref` key is therefore never resolved.

`checkedRefs` lists the references the walk resolves, in its order, as a recursion on the
document, and `Reached` says which values the walk enters. `checkAll_eq` shows that the
walk resolves exactly these references, its fuel always being enough, and
`compile_raises_first_rejected_reference` that compiling fails with the fault of the
first one that does not resolve.
-/
namespace ClientGen.Reference

mutual
/-- The references the check resolves inside a value, in the order it resolves them: the
value's own reference, then those inside the values it holds, last one first. -/
def checkedRefs : Value → List String
  | .map entries => (refOf (.map entries)).toList ++ checkedEntries entries
  | .list items => checkedItems items
  | _ => []
/-- The references the check resolves inside the items of a list, last item first. -/
def checkedItems : List Value → List String
  | [] => []
  | x :: rest => checkedItems rest ++ checkedRefs x
/-- The references the check resolves inside the values of a mapping, last entry first,
passing over the value under `$ref`. -/
def checkedEntries : List (Value × Value) → List String
  | [] => []
  | (k, v) :: rest =>
    checkedEntries rest ++ if k.same (.str "$ref") then [] else checkedRefs v
end

/-- The values the check pushes after it takes `v`. -/
def children : Value → List Value
  | .map entries => (entries.filter fun entry => !entry.1.same (.str "$ref")).map (·.2)
  | .list items => items
  | _ => []

/-- The values the check enters from `v`: `v` itself and, from each child, what it
enters from there. -/
inductive Reached : Value → Value → Prop
  | refl (v : Value) : Reached v v
  | child {v x node : Value} : x ∈ children v → Reached x node → Reached v node

/-- One reference resolved and counted. -/
def tally (doc : Value) (count : Nat) (ref : String) : Except Fault Nat := do
  let _ ← resolve doc ref
  pure (count + 1)

/-! ## The references in the check's order -/

theorem checkedItems_eq (items : List Value) :
    checkedItems items = items.reverse.flatMap checkedRefs := by
  induction items with
  | nil => rfl
  | cons x rest ih => simp [checkedItems, ih]

theorem checkedEntries_eq (entries : List (Value × Value)) :
    checkedEntries entries = (children (.map entries)).reverse.flatMap checkedRefs := by
  induction entries with
  | nil => rfl
  | cons entry rest ih =>
    obtain ⟨k, v⟩ := entry
    simp only [children] at ih
    cases key : k.same (.str "$ref") <;> simp [checkedEntries, children, key, ih]

/-- A value's references are its own, then those of its children, last child first. -/
theorem checkedRefs_eq (v : Value) :
    checkedRefs v = (refOf v).toList ++ (children v).reverse.flatMap checkedRefs := by
  cases v with
  | map entries => rw [checkedRefs, checkedEntries_eq]
  | list items => rw [checkedRefs, checkedItems_eq]; rfl
  | _ => rfl

/-! ## Weights -/

theorem weightList_append (xs ys : List Value) :
    Value.weightList (xs ++ ys) = Value.weightList xs + Value.weightList ys := by
  induction xs with
  | nil => simp [Value.weightList]
  | cons x rest ih =>
    simp only [List.cons_append, Value.weightList, ih]
    omega

theorem weightList_reverse (xs : List Value) :
    Value.weightList xs.reverse = Value.weightList xs := by
  induction xs with
  | nil => rfl
  | cons x rest ih =>
    rw [List.reverse_cons, weightList_append, ih]
    simp only [Value.weightList]
    omega

theorem weightList_values_le (entries : List (Value × Value)) (p : Value × Value → Bool) :
    Value.weightList ((entries.filter p).map (·.2)) ≤ Value.weightEntries entries := by
  induction entries with
  | nil => simp [Value.weightList]
  | cons entry rest ih =>
    obtain ⟨k, v⟩ := entry
    by_cases kept : p (k, v) = true
    · simp only [List.filter_cons, kept, if_true, List.map_cons, Value.weightList,
        Value.weightEntries]
      omega
    · simp only [List.filter_cons, kept, Bool.false_eq_true, if_false, Value.weightEntries]
      omega

/-- The children of a value weigh less than the value. -/
theorem weightList_children_lt (v : Value) : Value.weightList (children v) < v.weight := by
  cases v with
  | map entries =>
    have := weightList_values_le entries fun entry => !entry.1.same (.str "$ref")
    simp only [children, Value.weight]
    omega
  | list items => simp [children, Value.weight]
  | set members => simp only [children, Value.weight, Value.weightList]; omega
  | _ => simp [children, Value.weightList, Value.weight]

theorem weight_lt_of_mem_children {x v : Value} (child : x ∈ children v) :
    x.weight < v.weight :=
  Nat.lt_of_le_of_lt (Value.weight_le_weightList child) (weightList_children_lt v)

/-- The check resolves the references of exactly the mappings it enters. The induction is on the
weight of `v`, which each child lacks. -/
theorem mem_checkedRefs_iff (v : Value) (ref : String) :
    ref ∈ checkedRefs v ↔ ∃ node, Reached v node ∧ refOf node = some ref := by
  constructor
  · intro member
    induction weighs : v.weight using Nat.strongRecOn generalizing v with
    | ind n ih =>
      rw [checkedRefs_eq, List.mem_append] at member
      rcases member with own | inChild
      · exact ⟨v, .refl v, Option.mem_toList.mp own⟩
      · obtain ⟨x, xReversed, inside⟩ := List.mem_flatMap.mp inChild
        have xChild := List.mem_reverse.mp xReversed
        have lighter : x.weight < n := weighs ▸ weight_lt_of_mem_children xChild
        obtain ⟨node, reached, own⟩ := ih x.weight lighter x inside rfl
        exact ⟨node, .child xChild reached, own⟩
  · rintro ⟨node, reached, own⟩
    induction reached with
    | refl v =>
      rw [checkedRefs_eq]
      simp [own]
    | child xChild _ ih =>
      rw [checkedRefs_eq]
      exact List.mem_append_right _ (List.mem_flatMap.mpr ⟨_, List.mem_reverse.mpr xChild, ih own⟩)

/-! ## The walk -/

/-- One turn of the walk: the value on top is taken, its reference resolved and its
children pushed. -/
theorem checkStack_cons (doc node : Value) (fuel : Nat) (stack : List Value) (count : Nat) :
    checkStack doc (fuel + 1) (node :: stack) count = (do
      let count ← (refOf node).toList.foldlM (tally doc) count
      checkStack doc fuel ((children node).reverse ++ stack) count) := by
  cases node with
  | map entries =>
    simp only [checkStack, children]
    cases refOf (.map entries) with
    | none => rfl
    | some ref => simp [tally]
  | _ => rfl

/-- With fuel above the weight of the stack, the walk resolves the references of the stacked values
in order and counts them. The children pushed in place of a value weigh less than it. -/
theorem checkStack_eq (doc : Value) (fuel : Nat) (stack : List Value) (count : Nat)
    (enough : Value.weightList stack < fuel) :
    checkStack doc fuel stack count = (stack.flatMap checkedRefs).foldlM (tally doc) count := by
  induction fuel generalizing stack count with
  | zero => omega
  | succ fuel ih =>
    cases stack with
    | nil => rfl
    | cons node stack =>
      have lighter : Value.weightList ((children node).reverse ++ stack) < fuel := by
        have := weightList_children_lt node
        rw [weightList_append, weightList_reverse]
        simp only [Value.weightList] at enough
        omega
      rw [checkStack_cons, List.flatMap_cons, checkedRefs_eq, List.append_assoc,
        List.foldlM_append, ← List.flatMap_append]
      simp only [ih _ _ lighter]

theorem checkAll_eq (doc : Value) : checkAll doc = (checkedRefs doc).foldlM (tally doc) 0 := by
  have enough : Value.weightList [doc] < doc.weight + 2 := by
    simp only [Value.weightList]
    omega
  rw [checkAll, checkStack_eq doc _ [doc] 0 enough, List.flatMap_cons, List.flatMap_nil,
    List.append_nil]

/-- Counting stops at the first reference that does not resolve, with its fault. -/
theorem foldlM_tally_error (doc : Value) {before after : List String} {ref : String}
    {fault : Fault} (resolved : ∀ r ∈ before, ∃ target, resolve doc r = .ok target)
    (rejected : resolve doc ref = .error fault) (count : Nat) :
    (before ++ ref :: after).foldlM (tally doc) count = .error fault := by
  induction before generalizing count with
  | nil =>
    rw [List.nil_append, List.foldlM_cons, tally, rejected]
    rfl
  | cons r rest ih =>
    obtain ⟨target, found⟩ := resolved r (by simp)
    have next : tally doc count r = .ok (count + 1) := by
      rw [tally, found]
      rfl
    rw [List.cons_append, List.foldlM_cons, next]
    exact ih (fun r' member => resolved r' (List.mem_cons_of_mem r member)) (count + 1)

/-! ## What a rejected reference raises -/

theorem stepInto_fault {node : Value} {part : String} {fault : Fault}
    (failed : stepInto node part = .error fault) : fault = .badValue := by
  unfold stepInto at failed
  split at failed
  · cases failed
  · split at failed
    · split at failed
      · cases failed
      · cases failed
        rfl
    · cases failed
  · cases failed

theorem walk_fault (ref : String) {fault : Fault} :
    ∀ (node : Value) (parts : List String), walk ref node parts = .error fault →
      fault = .badValue ∨ fault = Fault.unresolved ref
  | _, [], failed => by cases failed
  | node, part :: rest, failed => by
    unfold walk at failed
    cases stepped : stepInto node part with
    | error e =>
      rw [stepped] at failed
      cases failed
      exact .inl (stepInto_fault stepped)
    | ok next =>
      rw [stepped] at failed
      cases next with
      | none =>
        cases failed
        exact .inr rfl
      | some next => exact walk_fault ref next rest failed

/-- A reference is rejected as unresolved, or for counting into a list with digits that
are not decimal digits. -/
theorem resolve_fault {doc : Value} {ref : String} {fault : Fault}
    (rejected : resolve doc ref = .error fault) :
    fault = .badValue ∨ ∃ message, fault = .unresolvedReference message := by
  rcases resolve_eq_error rejected with rfl | walked
  · exact .inr ⟨_, rfl⟩
  · rcases walk_fault ref doc _ walked with bad | unresolved
    · exact .inl bad
    · exact .inr ⟨_, unresolved⟩

end ClientGen.Reference

namespace ClientGen.Api

theorem getD_of_field {v : Value} {key : String} {found : Value} (default : Value)
    (present : v.field key = some found) : v.getD key default = .ok found := by
  cases v with
  | map entries =>
    simp only [Value.field] at present
    simp only [Value.getD, Value.get, present]
    rfl
  | _ => cases present

/-- Compiling a Swagger 2.0 document fails with the fault of its reference check. -/
theorem compile_raises_of_checkAll (config : Config) {doc : Value}
    (version : doc.field "swagger" = some (.str supportedVersion)) {fault : Fault}
    (failed : Reference.checkAll doc = .error fault) : Logged.Raises (compile config doc) fault := by
  have current : (Value.str supportedVersion).same (.str supportedVersion) = true := by
    simp [Value.same]
  unfold compile
  rw [getD_of_field _ version]
  refine Logged.Returns.bind_raises Logged.returns_lift ?_
  simp only [current, Bool.not_true, Bool.false_eq_true, if_false]
  rw [failed]
  exact Logged.Raises.bind Logged.raises_lift

/-- Compiling a Swagger 2.0 document fails with the fault of the first reference, in the
order of the check, that does not resolve. -/
theorem compile_raises_first_rejected_reference (config : Config) (doc : Value)
    (version : doc.field "swagger" = some (.str supportedVersion))
    {before after : List String} {ref : String} {fault : Fault}
    (order : Reference.checkedRefs doc = before ++ ref :: after)
    (resolved : ∀ r ∈ before, ∃ target, Reference.resolve doc r = .ok target)
    (rejected : Reference.resolve doc ref = .error fault) :
    Logged.Raises (compile config doc) fault := by
  apply compile_raises_of_checkAll config version
  rw [Reference.checkAll_eq, order]
  exact Reference.foldlM_tally_error doc resolved rejected 0

/-- A document whose parameter refers to a definition and whose response refers to none. -/
def danglingDocument : Value := .object [
  ("swagger", .str "2.0"),
  ("definitions", .object [("Pet", .object [("type", .str "object")])]),
  ("paths", .object [("/pets", .object [("get", .object [
    ("responses", .object [("200", .object [("description", .str "ok"),
      ("schema", .object [("$ref", .str "#/definitions/Missing")])])]),
    ("parameters", .list [.object [("$ref", .str "#/definitions/Pet")]])])])])]

theorem compile_raises_first_rejected_reference_dangling :
    danglingDocument.field "swagger" = some (.str supportedVersion) ∧
      Reference.checkedRefs danglingDocument =
        ["#/definitions/Pet"] ++ "#/definitions/Missing" :: [] ∧
      (∀ r ∈ ["#/definitions/Pet"], ∃ target, Reference.resolve danglingDocument r = .ok target) ∧
      Reference.resolve danglingDocument "#/definitions/Missing" =
        .error (Fault.unresolved "#/definitions/Missing") ∧
      Logged.Raises (compile Config.default danglingDocument)
        (Fault.unresolved "#/definitions/Missing") := by
  have version : danglingDocument.field "swagger" = some (.str supportedVersion) := by
    with_unfolding_all rfl
  have order : Reference.checkedRefs danglingDocument =
      ["#/definitions/Pet"] ++ "#/definitions/Missing" :: [] := by
    decide +kernel
  have resolved : ∀ r ∈ ["#/definitions/Pet"],
      ∃ target, Reference.resolve danglingDocument r = .ok target := by
    intro r member
    rw [List.mem_singleton.mp member]
    exact ⟨_, by with_unfolding_all rfl⟩
  have rejected : Reference.resolve danglingDocument "#/definitions/Missing" =
      .error (Fault.unresolved "#/definitions/Missing") := by
    with_unfolding_all rfl
  exact ⟨version, order, resolved, rejected,
    compile_raises_first_rejected_reference Config.default danglingDocument version order
      resolved rejected⟩

/-- A definition with a property named `$ref`, whose schema refers to no definition. -/
def refPropertyDocument : Value := .object [
  ("swagger", .str "2.0"),
  ("definitions", .object [("Pet", .object [("type", .str "object"),
    ("properties", .object [("$ref", .object [("$ref", .str "#/definitions/Missing")])])])])]

/-- A reference that counts into a list with a superscript digit. -/
def superscriptIndexDocument : Value := .object [
  ("swagger", .str "2.0"),
  ("schemes", .list [.str "http"]),
  ("x-a", .object [("$ref", .str "#/schemes/²")])]

/-- Not every reference that does not resolve is refused as unresolved. One inside the
schema of a property named `$ref` is never checked, and the document compiles; one that
counts into a list with a superscript digit is refused as a bad number. -/
theorem compile_misses_unresolved_references :
    Reference.resolve refPropertyDocument "#/definitions/Missing" =
        .error (Fault.unresolved "#/definitions/Missing") ∧
      ((compile { Config.default with ignoreUnusedModels := false } refPropertyDocument).runFrom
        #[]).1.isOk = true ∧
      Logged.Raises (compile Config.default superscriptIndexDocument) .badValue := by
  refine ⟨by with_unfolding_all rfl, by decide +kernel, ?_⟩
  apply compile_raises_of_checkAll Config.default (by with_unfolding_all rfl)
  with_unfolding_all rfl

end ClientGen.Api
