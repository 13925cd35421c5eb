import ClientGen.Reference
import ClientGen.Proofs.Loops

/-!
# References that stay out of one key

A local reference names a path from the root of its document. A reference whose first segment
is not `key` never passes through the value under `key`, so a document changed only there
resolves it as before (`resolve_replaceUnder`). When every reference a value makes, at any depth,
avoids `key` (`avoids`, a check that computes), then following it and expanding it reach only
such references: two documents that resolve those references alike follow and expand the value
alike, whatever fuel each is given (`followWith_alike`, `expandWith_alike`).
-/
namespace ClientGen

theorem Value.same_str_iff (k : Value) (s : String) : k.same (.str s) = true ↔ k = .str s := by
  cases k with
  | str a => simp [Value.same]
  | _ => simp [Value.same, Value.isNumber]

theorem Value.mem_of_entryOf {entries : List (Value × Value)} {key x : Value}
    (found : Value.entryOf entries key = some x) : ∃ k, (k, x) ∈ entries := by
  obtain ⟨e, first, rfl⟩ := Option.map_eq_some_iff.mp found
  exact ⟨e.1, List.mem_of_find?_eq_some first⟩

namespace Value

theorem one_le_weight (v : Value) : 1 ≤ v.weight := by
  cases v <;> simp only [weight] <;> omega

theorem weight_le_weightList {items : List Value} {v : Value} (member : v ∈ items) :
    v.weight ≤ weightList items := by
  induction items with
  | nil => cases member
  | cons x rest ih =>
    simp only [weightList]
    rcases List.mem_cons.mp member with rfl | later
    · omega
    · have := ih later
      omega

theorem weight_le_weightEntries {entries : List (Value × Value)} {k x : Value}
    (member : (k, x) ∈ entries) : k.weight + x.weight ≤ weightEntries entries := by
  induction entries with
  | nil => cases member
  | cons e rest ih =>
    obtain ⟨k', x'⟩ := e
    simp only [weightEntries]
    rcases List.mem_cons.mp member with same | later
    · cases same
      omega
    · have := ih later
      omega

end Value

namespace Reference

/-! ## Resolving a reference -/

/-- A reference resolves to the empty mapping that stands for the document, or to the value
its segments walk to. -/
theorem resolve_eq_ok {doc : Value} {ref : String} {v : Value}
    (resolved : resolve doc ref = .ok v) : v = .map [] ∨ walk ref doc (segments ref) = .ok v := by
  unfold resolve at resolved
  split at resolved
  · cases resolved
  · split at resolved
    · cases resolved
      exact .inl rfl
    · exact .inr resolved

/-- A reference is refused as no local one, or by the walk along its segments. -/
theorem resolve_eq_error {doc : Value} {ref : String} {fault : Fault}
    (rejected : resolve doc ref = .error fault) :
    fault = notLocal ref ∨ walk ref doc (segments ref) = .error fault := by
  unfold resolve at rejected
  split at rejected
  · cases rejected
    exact .inl rfl
  · split at rejected
    · cases rejected
    · exact .inr rejected

/-! ## Values whose references avoid a key -/

section Avoids

variable (key : String)

mutual
/-- Whether every reference made inside a value, by it or by any key, value, item or member
below it, starts with a segment other than `key`. -/
def avoids : Value → Bool
  | .map entries =>
    ((refOf (.map entries)).all fun ref => (segments ref).head? != some key) &&
      entriesAvoid entries
  | .list items => itemsAvoid items
  | .set members => itemsAvoid members
  | _ => true
/-- Whether every value of a list avoids `key`. -/
def itemsAvoid : List Value → Bool
  | [] => true
  | x :: rest => avoids x && itemsAvoid rest
/-- Whether every key and value of a list of entries avoids `key`. -/
def entriesAvoid : List (Value × Value) → Bool
  | [] => true
  | (k, v) :: rest => avoids k && avoids v && entriesAvoid rest
end

variable {key}

theorem avoids_of_mem_items {items : List Value} (clear : itemsAvoid key items = true)
    {x : Value} (member : x ∈ items) : avoids key x = true := by
  induction items with
  | nil => cases member
  | cons y rest ih =>
    simp only [itemsAvoid, Bool.and_eq_true] at clear
    rcases List.mem_cons.mp member with rfl | later
    · exact clear.1
    · exact ih clear.2 later

theorem avoids_of_mem_entries {entries : List (Value × Value)}
    (clear : entriesAvoid key entries = true) {k v : Value} (member : (k, v) ∈ entries) :
    avoids key k = true ∧ avoids key v = true := by
  induction entries with
  | nil => cases member
  | cons e rest ih =>
    obtain ⟨k', v'⟩ := e
    simp only [entriesAvoid, Bool.and_eq_true] at clear
    rcases List.mem_cons.mp member with same | later
    · cases same
      exact clear.1
    · exact ih clear.2 later

/-- The reference a value makes avoids `key` when the value does. -/
theorem avoids_refOf {v : Value} (clear : avoids key v = true) {ref : String}
    (made : refOf v = some ref) : (segments ref).head? ≠ some key := by
  cases v with
  | map entries =>
    simp only [avoids, Bool.and_eq_true, made, Option.all_some, bne_iff_ne, ne_eq] at clear
    exact clear.1
  | _ => cases made

theorem avoids_field {v : Value} (clear : avoids key v = true) {name : String} {x : Value}
    (found : v.field name = some x) : avoids key x = true := by
  cases v with
  | map entries =>
    simp only [avoids, Bool.and_eq_true] at clear
    obtain ⟨k, member⟩ := Value.mem_of_entryOf found
    exact (avoids_of_mem_entries clear.2 member).2
  | _ => cases found

theorem avoids_fieldD {v : Value} (clear : avoids key v = true) (name : String) :
    avoids key ((v.field name).getD .null) = true := by
  cases found : v.field name with
  | none => rfl
  | some x => exact avoids_field clear found

/-- Walking a value yields values that avoid `key` when the value does. -/
theorem avoids_of_members {v : Value} (clear : avoids key v = true) {xs : List Value}
    (walked : v.members = .ok xs) {x : Value} (member : x ∈ xs) : avoids key x = true := by
  cases v with
  | str s =>
    cases walked
    obtain ⟨c, -, rfl⟩ := List.mem_map.mp member
    rfl
  | list items =>
    cases walked
    exact avoids_of_mem_items clear member
  | map entries =>
    cases walked
    simp only [avoids, Bool.and_eq_true] at clear
    obtain ⟨e, inEntries, rfl⟩ := List.mem_map.mp member
    exact (avoids_of_mem_entries clear.2 inEntries).1
  | set members =>
    cases walked
    exact avoids_of_mem_items clear member
  | bytes data =>
    cases walked
    obtain ⟨b, -, rfl⟩ := List.mem_map.mp member
    rfl
  | _ => cases walked

theorem avoids_stepInto {node : Value} (clear : avoids key node = true) {part : String}
    {next : Value} (stepped : stepInto node part = .ok (some next)) : avoids key next = true := by
  cases node with
  | map entries =>
    simp only [stepInto, Except.ok.injEq] at stepped
    exact avoids_field clear stepped
  | list items =>
    simp only [stepInto] at stepped
    split at stepped
    · split at stepped
      · simp only [Except.ok.injEq] at stepped
        split at stepped
        · exact avoids_of_mem_items clear (List.mem_of_getElem? stepped)
        · cases stepped
      · cases stepped
    · cases stepped
  | _ => cases stepped

theorem avoids_walk (ref : String) :
    ∀ {node : Value} (parts : List String) {v : Value}, avoids key node = true →
      walk ref node parts = .ok v → avoids key v = true
  | node, [], v, clear, walked => by
    cases walked
    exact clear
  | node, part :: rest, v, clear, walked => by
    obtain ⟨found, stepped, walked⟩ := except_bind_ok walked
    cases found with
    | none => cases walked
    | some next => exact avoids_walk ref rest (avoids_stepInto clear stepped) walked

/-- What a reference resolves to in a document whose references avoid `key` avoids it too. -/
theorem avoids_resolve {doc : Value} (clear : avoids key doc = true) {ref : String} {v : Value}
    (resolved : resolve doc ref = .ok v) : avoids key v = true := by
  rcases resolve_eq_ok resolved with rfl | walked
  · rfl
  · exact avoids_walk ref _ clear walked

end Avoids

/-! ## A document changed under one key -/

/-- The document with the value under every root entry keyed `key` replaced by `f` of it. -/
def replaceUnder (key : String) (f : Value → Value) : Value → Value
  | .map entries =>
    .map (entries.map fun e => if e.1.same (.str key) then (e.1, f e.2) else e)
  | v => v

section Replace

variable {key : String} {f : Value → Value}

theorem entryOf_replaced (entries : List (Value × Value)) {name : String} (other : name ≠ key) :
    Value.entryOf (entries.map fun e => if e.1.same (.str key) then (e.1, f e.2) else e)
      (.str name) = Value.entryOf entries (.str name) := by
  have sameKey : ∀ e : Value × Value,
      (if e.1.same (.str key) then (e.1, f e.2) else e).1 = e.1 := by
    intro e
    split <;> rfl
  simp only [Value.entryOf, List.find?_map, Function.comp_def, sameKey]
  cases found : entries.find? fun e => e.1.same (.str name) with
  | none => rfl
  | some e =>
    have hit := List.find?_some found
    have named : e.1 = .str name := (Value.same_str_iff _ _).mp hit
    have kept : e.1.same (.str key) = false := by
      rw [named]
      simpa [Value.same] using other
    simp [kept]

theorem entryOf_replaced_self (entries : List (Value × Value)) :
    Value.entryOf (entries.map fun e => if e.1.same (.str key) then (e.1, f e.2) else e)
      (.str key) = (Value.entryOf entries (.str key)).map f := by
  have sameKey : ∀ e : Value × Value,
      (if e.1.same (.str key) then (e.1, f e.2) else e).1 = e.1 := by
    intro e
    split <;> rfl
  simp only [Value.entryOf, List.find?_map, Function.comp_def, sameKey, Option.map_map]
  cases found : entries.find? fun e => e.1.same (.str key) with
  | none => rfl
  | some e => simp [List.find?_some found]

theorem field_replaceUnder (v : Value) {name : String} (other : name ≠ key) :
    (replaceUnder key f v).field name = v.field name := by
  cases v with
  | map entries => exact entryOf_replaced entries other
  | _ => rfl

theorem getD_replaceUnder (v : Value) {name : String} (other : name ≠ key) (default : Value) :
    (replaceUnder key f v).getD name default = v.getD name default := by
  cases v with
  | map entries =>
    simp only [replaceUnder, Value.getD, Value.get]
    rw [entryOf_replaced entries other]
  | _ => rfl

/-- The value read under `key` is replaced, when `f` keeps the default. -/
theorem getD_replaceUnder_self {v : Value} {default x : Value} (fixed : f default = default)
    (read : v.getD key default = .ok x) : (replaceUnder key f v).getD key default = .ok (f x) := by
  cases v with
  | map entries =>
    simp only [Value.getD, Value.get] at read
    simp only [replaceUnder, Value.getD, Value.get, entryOf_replaced_self]
    cases found : Value.entryOf entries (.str key) with
    | none =>
      rw [found] at read
      cases read
      rw [Option.map_none, Option.getD_none, fixed]
      rfl
    | some y =>
      rw [found] at read
      cases read
      rfl
  | _ => cases read

theorem stepInto_replaceUnder (v : Value) {part : String} (other : part ≠ key) :
    stepInto (replaceUnder key f v) part = stepInto v part := by
  cases v with
  | map entries => simp only [replaceUnder, stepInto, entryOf_replaced entries other]
  | _ => rfl

/-- A reference that does not start with `key` resolves alike in a document changed under
`key`. -/
theorem resolve_replaceUnder (doc : Value) {ref : String}
    (avoiding : (segments ref).head? ≠ some key) :
    resolve (replaceUnder key f doc) ref = resolve doc ref := by
  unfold resolve
  cases parts : segments ref with
  | nil => rfl
  | cons part rest =>
    have other : part ≠ key := fun same => avoiding (by rw [parts, same]; rfl)
    simp only [walk, stepInto_replaceUnder doc other]

end Replace

/-! ## Following and expanding alike -/

/-- Two documents resolve alike every reference that does not start with `key`. -/
def ResolveAlike (key : String) (doc doc' : Value) : Prop :=
  ∀ ref, (segments ref).head? ≠ some key → resolve doc' ref = resolve doc ref

theorem resolveAlike_replaceUnder (key : String) (f : Value → Value) (doc : Value) :
    ResolveAlike key doc (replaceUnder key f doc) :=
  fun _ avoiding => resolve_replaceUnder doc avoiding

section Alike

variable {key : String} {doc doc' : Value}

/-- Following a value whose references avoid `key` ends alike in two documents that resolve such
references alike, whenever both follows end, whatever their fuel. A reference met again fails in
both; a new one resolves to one target in both. -/
theorem followWith_alike (alike : ResolveAlike key doc doc') (clear : avoids key doc = true) :
    ∀ (n m : Nat) {seen : List String} {node a b : Value}, avoids key node = true →
      followWith doc n seen node = .ok a → followWith doc' m seen node = .ok b → b = a
  | 0, _, _, _, _, _, _, first, _ => by cases first
  | _ + 1, 0, _, _, _, _, _, _, second => by cases second
  | n + 1, m + 1, seen, node, a, b, nodeClear, first, second => by
    simp only [followWith] at first second
    cases made : refOf node with
    | none =>
      simp only [made] at first second
      cases first
      cases second
      rfl
    | some ref =>
      simp only [made] at first second
      split at first
      · cases first
      · rw [if_neg ‹_›, alike ref (avoids_refOf nodeClear made)] at second
        obtain ⟨target, resolved, first, second⟩ := except_bind_ok_both first second
        exact followWith_alike alike clear n m (avoids_resolve clear resolved) first second

theorem follow_alike (alike : ResolveAlike key doc doc') (clear : avoids key doc = true)
    {node a b : Value} (nodeClear : avoids key node = true) (first : follow doc node = .ok a)
    (second : follow doc' node = .ok b) : b = a :=
  followWith_alike alike clear _ _ nodeClear first second

/-- Expanding a value whose references avoid `key` gives alike in two documents that resolve
such references alike, whenever both expansions end, whatever their fuel. -/
theorem expandWith_alike (alike : ResolveAlike key doc doc') (clear : avoids key doc = true) :
    ∀ (n m : Nat) {seen : List String} {value a b : Value}, avoids key value = true →
      expandWith doc n seen value = .ok a → expandWith doc' m seen value = .ok b → b = a
  | 0, _, _, _, _, _, _, first, _ => by cases first
  | _ + 1, 0, _, _, _, _, _, _, second => by cases second
  | n + 1, m + 1, seen, value, a, b, valueClear, first, second => by
    cases value with
    | map entries =>
      simp only [expandWith] at first second
      cases made : refOf (.map entries) with
      | some ref =>
        simp only [made] at first second
        split at first
        · cases first
        · rw [if_neg ‹_›, alike ref (avoids_refOf valueClear made)] at second
          obtain ⟨target, resolved, first, second⟩ := except_bind_ok_both first second
          exact expandWith_alike alike clear n m (avoids_resolve clear resolved) first second
      | none =>
        simp only [made] at first second
        obtain ⟨expanded, mapped, rfl⟩ := except_map_ok first
        obtain ⟨expanded', mapped', rfl⟩ := except_map_ok second
        simp only [avoids, Bool.and_eq_true] at valueClear
        have each : ∀ e ∈ entries, ∀ x y,
            (do pure (e.1, ← expandWith doc n seen e.2) : Except Fault (Value × Value)) = .ok x →
            (do pure (e.1, ← expandWith doc' m seen e.2) : Except Fault (Value × Value)) = .ok y →
            y = x := by
          intro e member x y one two
          obtain ⟨v, expandedV, one⟩ := except_bind_ok one
          obtain ⟨v', expandedV', two⟩ := except_bind_ok two
          cases one
          cases two
          have entryClear := (avoids_of_mem_entries valueClear.2 member).2
          rw [expandWith_alike alike clear n m entryClear expandedV expandedV']
        rw [mapM_agree entries each mapped mapped']
    | list items =>
      simp only [expandWith] at first second
      obtain ⟨expanded, mapped, rfl⟩ := except_map_ok first
      obtain ⟨expanded', mapped', rfl⟩ := except_map_ok second
      have each : ∀ x ∈ items, ∀ a b, expandWith doc n seen x = .ok a →
          expandWith doc' m seen x = .ok b → b = a :=
        fun x member a b one two =>
          expandWith_alike alike clear n m (avoids_of_mem_items valueClear member) one two
      rw [mapM_agree items each mapped mapped']
    | _ =>
      simp only [expandWith] at first second
      cases first
      cases second
      rfl

theorem expand_alike (alike : ResolveAlike key doc doc') (clear : avoids key doc = true)
    {value a b : Value} (valueClear : avoids key value = true) (first : expand doc value = .ok a)
    (second : expand doc' value = .ok b) : b = a :=
  expandWith_alike alike clear _ _ valueClear first second

end Alike

end Reference

end ClientGen
