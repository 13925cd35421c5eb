import ClientGen.Api.Dependencies
import ClientGen.Proofs.Selection
import ClientGen.Proofs.Loops

/-!
# Collecting dependencies

A candidate name counts when, with wrappers stripped and case ignored, it keys a model. In a
keyed table every model a candidate keys ends up among the collected class names, unless it
is the owner itself (`foldl_addName_covers`). So the dependencies of a model cover every name
its declaration shows (`ofModel_covers`), and those of a service cover the names of its
parameter types and of the types of its successful responses (`ofOperations_covers`).
-/
namespace ClientGen.Dependencies

open Selection

variable {models : Table Model} {owner : Option String}

/-- Every key met so far keys a model whose class name is collected. -/
def Tracked (models : Table Model) (c : Collected) : Prop :=
  ∀ key ∈ c.seen, ∀ m, models.get? key = some m → m.className ∈ c.names

/-- A name is covered by class names when the model it keys is among them, unless that
model is the owner. -/
def Covers (models : Table Model) (owner : Option String) (names : List String)
    (name : String) : Prop :=
  ∀ m, models.get? (Naming.modelKey (stripWrappers name false)) = some m →
    owner ≠ some (Naming.modelKey m.className) → m.className ∈ names

theorem Covers.mono {names more : List String} {name : String}
    (covered : Covers models owner names name) (grown : names ⊆ more) :
    Covers models owner more name :=
  fun m found notOwner => grown (covered m found notOwner)

theorem tracked_empty : Tracked models Collected.empty := by
  simp [Tracked, Collected.empty]

theorem addName_names (c : Collected) (name : String) :
    c.names ⊆ (addName models owner c name).names := by
  dsimp only [addName]
  split
  · exact List.Subset.refl _
  · split
    · exact List.Subset.refl _
    · split
      · exact List.Subset.refl _
      · exact List.subset_append_left _ _

theorem addName_tracked (keyed : Keyed models) {c : Collected} (tracked : Tracked models c)
    (name : String) : Tracked models (addName models owner c name) := by
  dsimp only [addName]
  split
  · exact tracked
  · split
    · exact tracked
    next m found =>
      split
      · exact tracked
      · intro key member m' found'
        rcases List.mem_append.mp member with old | new
        · exact List.mem_append_left _ (tracked key old m' found')
        · have sameKey := keyed.key_of_get? found
          have both : key = Naming.modelKey (stripWrappers name false) := by
            simp only [List.mem_cons, List.not_mem_nil, or_false] at new
            rcases new with rfl | rfl
            · rfl
            · exact sameKey.symm
          rw [both, found] at found'
          cases found'
          exact List.mem_append_right _ (List.mem_singleton_self _)

theorem addName_covers (keyed : Keyed models) {c : Collected} (tracked : Tracked models c)
    (name : String) : Covers models owner (addName models owner c name).names name := by
  intro m found notOwner
  have sameKey := keyed.key_of_get? found
  rw [sameKey] at found
  dsimp only [addName]
  rw [sameKey]
  by_cases mine : owner = some (Naming.modelKey m.className)
  · exact absurd mine notOwner
  by_cases met : c.seen.contains (Naming.modelKey m.className)
  · simp only [mine, met, decide_false, Bool.false_or, if_true]
    exact tracked _ (by simpa using met) m found
  · simp only [mine, met, decide_false, Bool.or_self, Bool.false_eq_true, if_false, found]
    exact List.mem_append_right _ (List.mem_singleton_self _)

/-- Candidate names taken one by one: the collection stays tracked, keeps what it had, and
covers each name taken. -/
theorem foldl_addName_covers (keyed : Keyed models) (names : List String) {c : Collected}
    (tracked : Tracked models c) :
    Tracked models (names.foldl (addName models owner) c) ∧
      c.names ⊆ (names.foldl (addName models owner) c).names ∧
      ∀ name ∈ names, Covers models owner (names.foldl (addName models owner) c).names name := by
  induction names generalizing c with
  | nil => exact ⟨tracked, List.Subset.refl _, by simp⟩
  | cons name rest ih =>
    obtain ⟨tracked', grown, covered⟩ := ih (addName_tracked keyed tracked name)
    refine ⟨tracked', List.Subset.trans (addName_names c name) grown, ?_⟩
    intro n member
    rcases List.mem_cons.mp member with rfl | later
    · exact (addName_covers keyed tracked n).mono grown
    · exact covered n later

/-- The names of an optional type. -/
def optionNames : Option TypeExpr → List String
  | some t => t.dependencyNames
  | none => []

/-- The names a model's declaration shows in type positions: the classes it extends and the
constituent names of its member, element, alias and additional-property types. -/
def shownNames (m : Model) : List String :=
  m.parents ++ m.members.flatMap (·.type.dependencyNames) ++ optionNames m.elementType ++
    optionNames m.aliasType ++ optionNames m.additionalType

/-- A simple model naming a type that is not compound; such models get no dependencies. -/
def plainAlias (m : Model) : Bool :=
  m.kind = .simple && !(m.aliasType.any TypeExpr.isCompound)

theorem foldl_addType {β : Type} (typeOf : β → TypeExpr) (xs : List β) (c : Collected) :
    xs.foldl (fun c x => addType models owner c (typeOf x)) c =
      (xs.flatMap fun x => (typeOf x).dependencyNames).foldl (addName models owner) c := by
  induction xs generalizing c with
  | nil => rfl
  | cons x rest ih => simp only [List.foldl_cons, List.flatMap_cons, List.foldl_append, ih]; rfl

theorem addOption_eq (c : Collected) (t : Option TypeExpr) :
    addOption models owner c t = (optionNames t).foldl (addName models owner) c := by
  cases t <;> rfl

/-- Outside enums and plain aliases, the dependencies of a model are what its shown names
give, taken in order. -/
theorem ofModel_eq (m : Model) (notEnum : m.kind ≠ .enum) (notPlain : plainAlias m = false) :
    ofModel models m =
      ((shownNames m).foldl (addName models (ownerKey m.className)) Collected.empty).names := by
  have skipped : (m.kind = .enum || (m.kind = .simple && !(m.aliasType.any TypeExpr.isCompound)))
      = false := by
    simpa [plainAlias, notEnum] using notPlain
  simp only [ofModel, skipped, Bool.false_eq_true, if_false, foldl_addType,
    addOption_eq, shownNames, List.foldl_append]

/-- The dependencies of a model other than an enum or a plain alias cover every name its
declaration shows, the model itself apart. -/
theorem ofModel_covers (keyed : Keyed models) (m : Model) (notEnum : m.kind ≠ .enum)
    (notPlain : plainAlias m = false) :
    ∀ name ∈ shownNames m, Covers models (ownerKey m.className) (ofModel models m) name := by
  rw [ofModel_eq m notEnum notPlain]
  exact (foldl_addName_covers keyed (shownNames m) tracked_empty).2.2

/-- Whether a response code is a 2xx status. -/
def successful (code : String) : Bool :=
  Text.allDigits code && (successCode code).toOption == some true

/-- One response's turn in `ofOperations`: its type goes with the successes or with the
errors, and a code that is not a number is left out. -/
def takeResponse (models : Table Model) (acc : Collected × Collected) (r : String × Response) :
    Collected × Collected :=
  if Text.allDigits r.1 then
    match successCode r.1 with
    | .ok true => (addType models none acc.1 r.2.type, acc.2)
    | _ => (acc.1, addType models none acc.2 r.2.type)
  else acc

/-- One operation's turn in `ofOperations`: its responses, then its parameters. -/
def takeOperation (models : Table Model) (acc : Collected × Collected) (op : Operation) :
    Collected × Collected :=
  let acc := op.responses.foldl (takeResponse models) acc
  (op.parameters.foldl (fun c p => addType models none c p.type) acc.1, acc.2)

/-- The types whose names the dependencies of a service take: for each operation, the types
of its successful responses, then those of its parameters. -/
def okTypes (ops : List Operation) : List TypeExpr :=
  ops.flatMap fun op =>
    (op.responses.filter fun r => successful r.1).map (·.2.type) ++ op.parameters.map (·.type)

theorem ofOperations_eq (ops : List Operation) {a b : List String}
    (success : ofOperations models ops = .ok (a, b)) :
    a = (ops.foldl (takeOperation models) (Collected.empty, Collected.empty)).1.names ∧
      b = (ops.foldl (takeOperation models) (Collected.empty, Collected.empty)).2.names := by
  unfold ofOperations at success
  obtain ⟨r, loop, finish⟩ := except_bind_ok success
  have turns := forIn_eq_foldl ops _ _ (takeOperation models) ?_ loop
  · cases finish
    subst turns
    exact ⟨rfl, rfl⟩
  intro op acc step ran
  obtain ⟨afterResponses, responses, rest⟩ := except_bind_ok ran
  obtain ⟨afterParameters, parameters, finish⟩ := except_bind_ok rest
  have byResponse := forIn_eq_foldl op.responses _ _ (takeResponse models) ?_ responses
  · have byParameter := forIn_eq_foldl op.parameters _ _
      (fun c p => addType models none c p.type) (fun _ _ _ turn => by cases turn; rfl) parameters
    cases finish
    rw [byParameter, byResponse]
    rfl
  rintro ⟨code, response⟩ ⟨ok, failed⟩ next turn
  by_cases digits : Text.allDigits code
  · simp only [digits, if_true] at turn
    cases verdict : successCode code with
    | error fault => rw [verdict] at turn; cases turn
    | ok isSuccess =>
      rw [verdict] at turn
      cases isSuccess <;> cases turn <;> simp [takeResponse, digits, verdict]
  · simp only [digits, Bool.false_eq_true, if_false] at turn
    cases turn
    simp [takeResponse, digits]

theorem foldl_takeResponse_fst (rs : Table Response) (acc : Collected × Collected) :
    (rs.foldl (takeResponse models) acc).1 =
      (rs.filter fun r => successful r.1).foldl (fun c r => addType models none c r.2.type)
        acc.1 := by
  induction rs generalizing acc with
  | nil => rfl
  | cons r rest ih =>
    rw [List.foldl_cons, ih, List.filter_cons]
    by_cases digits : Text.allDigits r.1
    · cases verdict : successCode r.1 with
      | error fault => simp [takeResponse, successful, digits, verdict, Except.toOption]
      | ok isSuccess =>
        cases isSuccess <;> simp [takeResponse, successful, digits, verdict, Except.toOption]
    · simp [takeResponse, successful, digits]

theorem foldl_takeOperation_fst (ops : List Operation) (acc : Collected × Collected) :
    (ops.foldl (takeOperation models) acc).1 =
      (okTypes ops).foldl (addType models none) acc.1 := by
  induction ops generalizing acc with
  | nil => rfl
  | cons op rest ih =>
    rw [List.foldl_cons, ih]
    simp only [okTypes, List.flatMap_cons, List.foldl_append, takeOperation,
      foldl_takeResponse_fst, List.foldl_map]

/-- The dependencies of a service cover the names of its parameter types and of the types of
its successful responses. -/
theorem ofOperations_covers (keyed : Keyed models) (ops : List Operation) {a b : List String}
    (success : ofOperations models ops = .ok (a, b)) :
    ∀ op ∈ ops, (∀ r ∈ op.responses, successful r.1 = true →
        ∀ name ∈ r.2.type.dependencyNames, Covers models none a name) ∧
      ∀ p ∈ op.parameters, ∀ name ∈ p.type.dependencyNames, Covers models none a name := by
  have collected : a = (((okTypes ops).flatMap TypeExpr.dependencyNames).foldl
      (addName models none) Collected.empty).names := by
    rw [(ofOperations_eq ops success).1, foldl_takeOperation_fst]
    exact congrArg Collected.names (foldl_addType id (okTypes ops) Collected.empty)
  have covers : ∀ name ∈ (okTypes ops).flatMap TypeExpr.dependencyNames,
      Covers models none a name := by
    rw [collected]
    exact (foldl_addName_covers keyed _ tracked_empty).2.2
  intro op member
  refine ⟨fun r listed ok name named => covers name ?_, fun p listed name named => covers name ?_⟩
  · exact List.mem_flatMap.mpr ⟨r.2.type, List.mem_flatMap.mpr ⟨op, member,
      List.mem_append_left _ (List.mem_map_of_mem (List.mem_filter.mpr ⟨listed, ok⟩))⟩, named⟩
  · exact List.mem_flatMap.mpr ⟨p.type, List.mem_flatMap.mpr ⟨op, member,
      List.mem_append_right _ (List.mem_map_of_mem listed)⟩, named⟩

end ClientGen.Dependencies
