import ClientGen.Proofs.ServiceTable
import ClientGen.Render.Services
import Mathlib.Data.List.Forall2

/-!
# Operation names within a service

Each operation of a service is built from a name that no earlier operation of the service
took: the declared `operationId`, or one built from the method and the path, followed by
the first free numbered suffix `_1`, `_2`, … when it is taken. The operation's name, and
the class of its parameters when it has one, come from that name by changing the case of
its first letter. Names are told apart exactly, case included, so two names that differ
only in the case of their first letter give alike path constants, and alike operation
names in camel case.

`firstFree_fresh` shows that the suffixes tried always hold a free one, and
`build_operations_from_distinct_names` that the operations of every built service come one
for one from pairwise distinct names.
-/
namespace ClientGen.Operations

/-- The name of an operation built from the unique name `id`: with its first letter in lower
case when names are in camel case. -/
def operationName (config : Config) (id : String) : String :=
  if config.camelCase then Text.lower (Text.takeChars id 1) ++ Text.dropChars id 1 else id

/-- The class of the parameters of an operation built from the unique name `id`. -/
def paramsClassName (id : String) : String :=
  Text.upper (Text.takeChars id 1) ++ Text.dropChars id 1 ++ "Params"

/-- The operation is built from the unique name `id`: its name, and its parameters class when
it has one, come from `id`. -/
def Derives (config : Config) (id : String) (op : Operation) : Prop :=
  op.name = operationName config id ∧
    (op.paramsClass = none ∨ op.paramsClass = some (paramsClassName id))

/-! ## Numbered names -/

theorem numbered_inj {base : String} {i j : Nat} (same : s!"{base}_{i}" = s!"{base}_{j}") :
    i = j := by
  have digits : Nat.toDigits 10 i = Nat.toDigits 10 j := by
    simpa [Nat.toList_repr] using congrArg String.toList same
  calc i = Nat.ofDigitChars 10 (Nat.toDigits 10 i) 0 := Nat.ofDigitChars_ten_toDigits.symm
    _ = Nat.ofDigitChars 10 (Nat.toDigits 10 j) 0 := by rw [digits]
    _ = j := Nat.ofDigitChars_ten_toDigits

/-- Among the suffixes `1` to `known.length + 1` one is free: the names they make are
distinct, so they cannot all be known. -/
theorem exists_free_suffix (known : List String) (base : String) :
    ∃ j, 1 ≤ j ∧ j < 1 + (known.length + 1) ∧ s!"{base}_{j}" ∉ known := by
  refine Classical.byContradiction fun allTaken => ?_
  let tried := (List.range (known.length + 1)).map fun j => s!"{base}_{j + 1}"
  have distinct : tried.Nodup :=
    List.Pairwise.map _ (fun i j differ same => differ (by have := numbered_inj same; omega))
      List.nodup_range
  have inKnown : tried ⊆ known := by
    intro name member
    obtain ⟨j, inRange, rfl⟩ := List.mem_map.mp member
    rw [List.mem_range] at inRange
    exact Classical.byContradiction fun free => allTaken ⟨j + 1, by omega, by omega, free⟩
  have fits := distinct.length_le_of_subset inKnown
  simp only [tried, List.length_map, List.length_range] at fits
  omega

/-- The first free numbered name from suffix `i` on is free, if one of the `fuel` suffixes
tried is. -/
theorem firstFree_not_mem (known : List String) (base : String) (fuel i : Nat)
    (free : ∃ j, i ≤ j ∧ j < i + fuel ∧ s!"{base}_{j}" ∉ known) :
    firstFree known base fuel i ∉ known := by
  induction fuel generalizing i with
  | zero =>
    obtain ⟨j, low, high, _⟩ := free
    omega
  | succ fuel ih =>
    obtain ⟨j, low, high, untaken⟩ := free
    unfold firstFree
    dsimp only
    split
    · next taken =>
      have later : i ≠ j := by
        rintro rfl
        exact untaken (by simpa using taken)
      exact ih (i + 1) ⟨j, by omega, by omega, untaken⟩
    · next untakenHere => simpa using untakenHere

theorem firstFree_fresh (known : List String) (base : String) :
    firstFree known base (known.length + 1) 1 ∉ known :=
  firstFree_not_mem known base _ 1 (exists_free_suffix known base)

/-! ## One operation -/

/-- The unique name of an operation is none of the names its service took before. A taken name is
replaced by the first free numbered one. -/
theorem operationId_fresh (given : Value) (method : String) (url : Value) (known : List String) :
    Logged.Ensures (operationId given method url known) (· ∉ known) := by
  unfold operationId
  refine Logged.Ensures.bind (Logged.ensures_true _) fun base _ => ?_
  have fresh : (if known.contains base = true then firstFree known base (known.length + 1) 1
      else base) ∉ known := by
    split
    · exact firstFree_fresh known base
    · next untaken => simpa using untaken
  dsimp only
  generalize (if known.contains base = true then firstFree known base (known.length + 1) 1
    else base) = name at fresh ⊢
  have reported : ∀ report : Logged Unit,
      Logged.Ensures (report >>= fun _ => pure name) (· ∉ known) :=
    fun report => Logged.Ensures.bind (Logged.ensures_true _) fun _ _ => Logged.ensures_pure fresh
  exact Logged.ensures_ite (reported _) (Logged.ensures_ite (reported _) (Logged.ensures_pure fresh))

theorem operation_derives (config : Config) (doc : Value) (models : Table Model)
    (serviceClass : String) (known : List String) (url : Value) (method : String)
    (definition pathItem : Value) :
    Logged.Ensures (operation config doc models serviceClass known url method definition pathItem)
      fun built => built.1 ∉ known ∧ Derives config built.1 built.2 :=
  (operation_spec config doc models serviceClass known url method definition pathItem).mono
    fun _ spec => ⟨(operationId_fresh _ method url known).gives spec.1, spec.2.name,
      spec.2.paramsClass⟩

/-! ## The services of a draft -/

theorem Draft.known_extend (config : Config) (draft : Draft) (tag id : String) (op : Operation)
    (t : String) :
    (draft.extend config tag id op).known t =
      if tag = t then draft.known tag ++ [id] else draft.known t := by
  unfold Draft.known Draft.extend
  rw [Table.get?_put]
  split
  · next same =>
    subst same
    rfl
  · rfl

theorem Draft.operations_extend (config : Config) (draft : Draft) (tag id : String)
    (op : Operation) (t : String) :
    ((draft.extend config tag id op).service config t).operations =
      if tag = t then (draft.service config tag).operations ++ [op]
      else (draft.service config t).operations := by
  unfold Draft.extend
  conv => lhs; unfold Draft.service
  rw [Table.get?_put]
  split
  · next same =>
    subst same
    rfl
  · rfl

/-- Each tag is filed once, and in the service of each tag the operations come one for one
from the names taken in it, which are distinct. -/
structure NamedDraft (config : Config) (draft : Draft) : Prop where
  keys : draft.services.keys.Nodup
  named : ∀ tag, (draft.known tag).Nodup ∧
    List.Forall₂ (Derives config) (draft.known tag) (draft.service config tag).operations

theorem namedDraft_empty (config : Config) : NamedDraft config ⟨[], []⟩ :=
  ⟨List.nodup_nil, fun tag => ⟨List.nodup_nil, by simp [Draft.known, Draft.service, newService]⟩⟩

theorem NamedDraft.extend {config : Config} {draft : Draft} (named : NamedDraft config draft)
    {tag id : String} {op : Operation} (fresh : id ∉ draft.known tag)
    (derives : Derives config id op) : NamedDraft config (draft.extend config tag id op) := by
  refine ⟨Table.nodup_keys_put named.keys _ _, fun t => ?_⟩
  rw [Draft.known_extend, Draft.operations_extend]
  split
  · next same =>
    subst same
    obtain ⟨distinct, derived⟩ := named.named tag
    refine ⟨List.nodup_append.mpr ⟨distinct, by simp, ?_⟩,
      List.rel_append derived (.cons derives .nil)⟩
    intro a old b new same
    rw [List.mem_singleton] at new
    subst new
    subst same
    exact fresh old
  · exact named.named t

theorem addMethod_named {config : Config} {doc : Value} {models : Table Model} {url : Value}
    {pathItem : Value} {entry : Value × Value} {draft : Draft} (named : NamedDraft config draft) :
    Logged.Ensures (addMethod config doc models url pathItem draft entry) (NamedDraft config) := by
  intro logs d' after added
  rcases addMethod_cases added with rfl | ⟨method, tag, id, op, _, gives, rfl⟩
  · exact named
  · obtain ⟨fresh, derives⟩ := (operation_derives config doc models _ _ url method _ _).gives gives
    exact named.extend fresh derives

/-! ## Built services -/

/-- The operations of each built service come one for one from pairwise distinct names. -/
theorem build_operations_from_distinct_names (config : Config) (doc : Value)
    (models : Table Model) :
    Logged.Ensures (build config doc models) fun services => ∀ s ∈ services,
      ∃ ids : List String, ids.Nodup ∧ List.Forall₂ (Derives config) ids s.2.operations := by
  refine (build_drafts (NamedDraft config) (namedDraft_empty config)
    fun _ _ _ _ _ named => addPath_invariant _
      (fun _ _ _ _ _ _ kept => addMethod_named kept) named).mono ?_
  rintro services ⟨draft, named, made⟩ s member
  obtain ⟨s0, inDraft, same⟩ := (made s member).1
  have filed : draft.service config s0.1 = s0.2 := by
    simp [Draft.service, Table.get?_of_mem named.keys inDraft]
  obtain ⟨distinct, derived⟩ := named.named s0.1
  rw [filed, ← same] at derived
  exact ⟨draft.known s0.1, distinct, derived⟩

/-- Operations declared as `getPets` and `GetPets` on one path. -/
def caseTwinsDocument : Value := .object [
  ("swagger", .str "2.0"),
  ("paths", .object [("/pets", .object [
    ("get", .object [("operationId", .str "getPets"), ("responses", .object [])]),
    ("post", .object [("operationId", .str "GetPets"), ("responses", .object [])])])])]

/-- Names that differ only in the case of their first letter are both kept, and give one path
constant, and one operation name in camel case. -/
theorem build_keeps_case_twins :
    (((build Config.default caseTwinsDocument []).runFrom #[]).1.toOption.map fun services =>
        services.map fun s => s.2.operations.map fun op => (op.name, Render.pathConstant op)) =
      some [[("getPets", "GetPets"), ("GetPets", "GetPets")]] ∧
    (((build { Config.default with camelCase := true } caseTwinsDocument []).runFrom
        #[]).1.toOption.map fun services =>
          services.map fun s => s.2.operations.map fun op => op.name) =
      some [["getPets", "getPets"]] := by
  refine ⟨?_, ?_⟩ <;> decide +kernel

end ClientGen.Operations
