import ClientGen.Proofs.ReferenceExpansion

/-!
# Following a chain of references

A parameter or a response may be given by reference. `Reference.follow doc node` reads it:
while the value is a mapping whose `$ref` is text, it resolves that reference and goes on from
the target, and it refuses a reference it has already passed.

`Chain doc seen node result` says what following gives, without fuel: a value that makes no
reference is the result; a reference already passed is refused as circular; one that does not
resolve stops the chain with the fault of `resolve`; any other goes on from its target, the
reference passed. `follow` gives exactly the outcome of the chain (`follow_eq_iff`), so it
always finishes: every reference after the first is made within the document, and each is
passed once, so the fuel `follow` gives is never used up (`followWith_chain`). A chain is
refused as an unresolved reference, or as a bad value only for a reference on the way that
counts into a list with digits that are not decimal digits (`Chain.fault`).
-/
namespace ClientGen.Reference

/-- `Chain doc seen node result`: following references from `node` in `doc`, the references
of `seen` passed already, gives `result`. -/
inductive Chain (doc : Value) : List String → Value → Except Fault Value → Prop
  /-- A value that makes no reference ends the chain. -/
  | plain {seen : List String} {node : Value} : refOf node = none → Chain doc seen node (.ok node)
  /-- A reference passed before is refused. -/
  | again {seen : List String} {node : Value} {ref : String} :
      refOf node = some ref → ref ∈ seen → Chain doc seen node (.error (circular ref))
  /-- A reference that does not resolve stops the chain with its fault. -/
  | broken {seen : List String} {node : Value} {ref : String} {fault : Fault} :
      refOf node = some ref → ref ∉ seen → resolve doc ref = .error fault →
        Chain doc seen node (.error fault)
  /-- Any other reference goes on from its target. -/
  | next {seen : List String} {node target : Value} {ref : String}
      {result : Except Fault Value} :
      refOf node = some ref → ref ∉ seen → resolve doc ref = .ok target →
        Chain doc (ref :: seen) target result → Chain doc seen node result

section Steps

variable {doc node : Value} {fuel : Nat} {seen : List String} {ref : String}

theorem followWith_plain (made : refOf node = none) :
    followWith doc (fuel + 1) seen node = .ok node := by
  simp [followWith, made]

theorem followWith_again (made : refOf node = some ref) (again : ref ∈ seen) :
    followWith doc (fuel + 1) seen node = .error (circular ref) := by
  simp [followWith, made, again]

theorem followWith_next (made : refOf node = some ref) (fresh : ref ∉ seen) :
    followWith doc (fuel + 1) seen node = resolve doc ref >>= followWith doc fuel (ref :: seen) := by
  simp [followWith, made, fresh]

end Steps

/-! ## The fuel is enough -/

/-- The target of a reference makes only references of its document. -/
theorem refOf_target {doc target : Value} {ref r : String} (resolved : resolve doc ref = .ok target)
    (made : refOf target = some r) : r ∈ refsIn doc :=
  (resolve_refs resolved).1 ((mem_refsIn_iff target r).mpr ⟨target, .refl _, made⟩)

/-- With more fuel than the references of `refs` not yet passed, following a value whose own
reference is among `refs` gives the outcome of its chain. The induction is on the fuel: each
reference followed is one of `refs` not passed before, and its target makes only references of
the document. -/
theorem followWith_chain {doc : Value} {refs : Finset String}
    (docRefs : ∀ ref ∈ refsIn doc, ref ∈ refs) :
    ∀ (fuel : Nat) (seen : List String) (node : Value),
      (∀ ref, refOf node = some ref → ref ∈ refs) → (refs \ seen.toFinset).card < fuel →
        Chain doc seen node (followWith doc fuel seen node)
  | 0, _, _, _, enough => absurd enough (Nat.not_lt_zero _)
  | fuel + 1, seen, node, nodeRef, enough => by
    cases made : refOf node with
    | none =>
      rw [followWith_plain made]
      exact .plain made
    | some ref =>
      by_cases again : ref ∈ seen
      · rw [followWith_again made again]
        exact .again made again
      rw [followWith_next made again]
      cases resolved : resolve doc ref with
      | error fault => exact .broken made again resolved
      | ok target =>
        have fewer := card_unseen_cons (nodeRef ref made) again
        exact .next made again resolved (followWith_chain docRefs fuel (ref :: seen) target
          (fun r made' => docRefs r (refOf_target resolved made')) (by omega))

/-- `follow` gives the outcome of the chain from the value. -/
theorem follow_chain (doc node : Value) : Chain doc [] node (follow doc node) := by
  let refs := ((refOf node).toList ++ refsIn doc).toFinset
  have few : refs.card ≤ doc.weight + 1 :=
    calc refs.card ≤ ((refOf node).toList ++ refsIn doc).length := List.toFinset_card_le _
      _ = (refOf node).toList.length + (refsIn doc).length := List.length_append
      _ ≤ 1 + doc.weight := by
        refine Nat.add_le_add ?_ (refsIn_length_le doc)
        cases refOf node <;> simp
      _ = doc.weight + 1 := Nat.add_comm 1 doc.weight
  refine @followWith_chain doc refs
    (fun ref member => List.mem_toFinset.mpr (List.mem_append_right _ member)) _ [] node
    (fun ref made => List.mem_toFinset.mpr (List.mem_append_left _ (by simp [made]))) ?_
  rw [List.toFinset_nil, Finset.sdiff_empty]
  exact Nat.lt_succ_of_le few

/-! ## A chain has one outcome -/

/-- An outcome reached with one more unit of fuel than some least amount is reached with any
amount from one more than it on. -/
theorem exists_fuel_of_succ {doc : Value} {seen : List String} {node : Value}
    {result : Except Fault Value} (least : Nat)
    (followed : ∀ fuel, least ≤ fuel → followWith doc (fuel + 1) seen node = result) :
    ∃ least, ∀ fuel, least ≤ fuel → followWith doc fuel seen node = result := by
  refine ⟨least + 1, fun fuel enough => ?_⟩
  obtain ⟨fuel, rfl⟩ : ∃ k, fuel = k + 1 := ⟨fuel - 1, by omega⟩
  exact followed fuel (by omega)

/-- A chain is followed to its outcome by enough fuel. -/
theorem Chain.exists_fuel {doc : Value} {seen : List String} {node : Value}
    {result : Except Fault Value} (chain : Chain doc seen node result) :
    ∃ least, ∀ fuel, least ≤ fuel → followWith doc fuel seen node = result := by
  induction chain with
  | plain made => exact exists_fuel_of_succ 0 fun fuel _ => followWith_plain made
  | again made seen' => exact exists_fuel_of_succ 0 fun fuel _ => followWith_again made seen'
  | broken made fresh failed =>
    refine exists_fuel_of_succ 0 fun fuel _ => ?_
    rw [followWith_next made fresh, failed]
    rfl
  | next made fresh resolved _ ih =>
    obtain ⟨least, followed⟩ := ih
    refine exists_fuel_of_succ least fun fuel enough => ?_
    rw [followWith_next made fresh, resolved]
    exact followed fuel enough

theorem Chain.unique {doc : Value} {seen : List String} {node : Value}
    {result result' : Except Fault Value} (chain : Chain doc seen node result)
    (chain' : Chain doc seen node result') : result = result' := by
  obtain ⟨least, followed⟩ := chain.exists_fuel
  obtain ⟨least', followed'⟩ := chain'.exists_fuel
  rw [← followed (max least least') (Nat.le_max_left _ _),
    followed' (max least least') (Nat.le_max_right _ _)]

/-- `follow` gives exactly the outcome of the chain from the value. -/
theorem follow_eq_iff (doc node : Value) (result : Except Fault Value) :
    follow doc node = result ↔ Chain doc [] node result := by
  constructor
  · rintro rfl
    exact follow_chain doc node
  · exact (follow_chain doc node).unique

/-! ## What a chain ends with -/

/-- A chain that ends with a value ends with one that makes no reference. -/
theorem Chain.plain_of_ok {doc : Value} {seen : List String} {node : Value}
    {result : Except Fault Value} (chain : Chain doc seen node result) :
    ∀ v, result = .ok v → refOf v = none := by
  induction chain with
  | plain made =>
    intro v ended
    cases ended
    exact made
  | again | broken => exact fun v ended => by cases ended
  | next _ _ _ _ ih => exact ih

/-- A chain is refused as an unresolved reference, or as a bad value for a reference on the way,
the value's own or one made within the document, with a segment that cannot be counted. -/
theorem Chain.fault {doc : Value} {seen : List String} {node : Value}
    {result : Except Fault Value} (chain : Chain doc seen node result) :
    ∀ fault, result = .error fault →
      (∃ message, fault = .unresolvedReference message) ∨
        fault = .badValue ∧
          ∃ ref ∈ (refOf node).toList ++ refsIn doc, ∃ part ∈ segments ref, Uncountable part := by
  induction chain with
  | plain => exact fun fault ended => by cases ended
  | again =>
    intro fault ended
    cases ended
    exact .inl ⟨_, rfl⟩
  | @broken seen node ref fault made fresh failed =>
    intro fault' ended
    cases ended
    rcases resolve_fault failed with rfl | unresolved
    · exact .inr ⟨rfl, ref, by simp [made], resolve_uncountable failed⟩
    · exact .inl unresolved
  | @next seen node target ref result made fresh resolved _ ih =>
    intro fault ended
    refine (ih fault ended).imp_right fun ⟨bad, ref', onChain, uncountable⟩ =>
      ⟨bad, ref', List.mem_append_right _ ?_, uncountable⟩
    rcases List.mem_append.mp onChain with own | inDoc
    · exact refOf_target resolved (Option.mem_toList.mp own)
    · exact inDoc

/-- Following references from a value always finishes, with the outcome of its chain: the first
value along the chain that makes no reference, each step resolving the reference of the one
before; or a refusal, when the chain comes back to a reference it passed or reaches one that
does not resolve. A refusal is an unresolved reference, or a bad value for a reference on the
way that counts into a list with a segment written in digits that are not decimal digits. -/
theorem follow_spec (doc node : Value) :
    follow doc node ≠ .error .nestingTooDeep ∧
      (∀ result, follow doc node = result ↔ Chain doc [] node result) ∧
      (∀ v, follow doc node = .ok v → refOf v = none) ∧
      ∀ fault, follow doc node = .error fault →
        (∃ message, fault = .unresolvedReference message) ∨
          fault = .badValue ∧
            ∃ ref ∈ (refOf node).toList ++ refsIn doc, ∃ part ∈ segments ref, Uncountable part := by
  have chain := follow_chain doc node
  refine ⟨fun ran => ?_, follow_eq_iff doc node, chain.plain_of_ok, chain.fault⟩
  rcases chain.fault _ ran with ⟨message, unresolved⟩ | ⟨bad, _⟩
  · cases unresolved
  · cases bad

/-- A reference counting into a list with a superscript two does not resolve, and following it
fails as a bad value, not as an unresolved reference. -/
theorem follow_superscript_index_fails_as_bad_value :
    follow (.object [("a", .list [.int 1])]) (.object [("$ref", .str "#/a/²")]) =
      .error .badValue := by
  with_unfolding_all rfl

end ClientGen.Reference
