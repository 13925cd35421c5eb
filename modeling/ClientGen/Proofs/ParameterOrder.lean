import ClientGen.Api.Operations
import ClientGen.Proofs.Loops

/-!
# The order of an operation's parameters

Parameters are sorted by name, upward for `asc` and downward for `desc`, and then split into
the required ones and the optional ones, each group keeping its order. A sort by name is a merge
sort under one comparison of the names (`sortByName_eq`): texts by their code points, numbers by
their value. So whenever sorting succeeds it returns a permutation with every required parameter
first, each group in name order, or in input order for any other setting, and parameters whose
names compare equal in their input order (`sortParameters_spec`).
-/
namespace ClientGen

namespace Value

/-- Whether the name `a` sorts no later than `b`: texts by their code points, numbers by their
value; names of other kinds, or of two kinds, do not compare. -/
def nameLe (a b : Value) : Bool :=
  match a.sortKey?, b.sortKey? with
  | some x, some y => x.le y
  | _, _ => false

/-- `SortKey.le` made total: texts before numbers. -/
def SortKey.leTotal : SortKey → SortKey → Bool
  | .text _, .number _ _ => true
  | .number _ _, .text _ => false
  | x, y => x.le y

/-- `nameLe` made total: names without a sort key first. -/
def nameLeTotal (a b : Value) : Bool :=
  match a.sortKey?, b.sortKey? with
  | some x, some y => x.leTotal y
  | none, _ => true
  | some _, none => false

/-- Numbers `n / 2^i` compare transitively. -/
theorem dyadic_le_trans {n m p : Int} {i j k : Nat}
    (first : n * Int.pow 2 j ≤ m * Int.pow 2 i) (second : m * Int.pow 2 k ≤ p * Int.pow 2 j) :
    n * Int.pow 2 k ≤ p * Int.pow 2 i := by
  have positive : ∀ e : Nat, 0 < Int.pow 2 e := fun e => Int.pow_pos (by decide)
  apply Int.le_of_mul_le_mul_right _ (positive j)
  calc n * Int.pow 2 k * Int.pow 2 j
      = n * Int.pow 2 j * Int.pow 2 k := by rw [Int.mul_right_comm]
    _ ≤ m * Int.pow 2 i * Int.pow 2 k :=
      Int.mul_le_mul_of_nonneg_right first (Int.le_of_lt (positive k))
    _ = m * Int.pow 2 k * Int.pow 2 i := by rw [Int.mul_right_comm]
    _ ≤ p * Int.pow 2 j * Int.pow 2 i :=
      Int.mul_le_mul_of_nonneg_right second (Int.le_of_lt (positive i))
    _ = p * Int.pow 2 i * Int.pow 2 j := by rw [Int.mul_right_comm]

theorem SortKey.leTotal_trans (x y z : SortKey) :
    x.leTotal y = true → y.leTotal z = true → x.leTotal z = true := by
  cases x <;> cases y <;> cases z <;>
    simp only [leTotal, SortKey.le, decide_eq_true_eq, imp_self, implies_true,
      Bool.false_eq_true, false_implies, true_implies]
  · exact String.le_trans
  · exact dyadic_le_trans

theorem SortKey.leTotal_total (x y : SortKey) : (x.leTotal y || y.leTotal x) = true := by
  cases x <;> cases y <;> simp only [leTotal, SortKey.le, Bool.or_eq_true, decide_eq_true_eq,
    Bool.or_true, Bool.true_or]
  · exact String.le_total _ _
  · exact Int.le_total _ _

theorem nameLeTotal_trans (a b c : Value) :
    a.nameLeTotal b = true → b.nameLeTotal c = true → a.nameLeTotal c = true := by
  unfold nameLeTotal
  cases a.sortKey? <;> cases b.sortKey? <;> cases c.sortKey? <;>
    simp only [Bool.false_eq_true, imp_self, implies_true, false_implies, true_implies]
  exact SortKey.leTotal_trans _ _ _

theorem nameLeTotal_total (a b : Value) : (a.nameLeTotal b || b.nameLeTotal a) = true := by
  unfold nameLeTotal
  cases a.sortKey? <;> cases b.sortKey? <;> simp only [Bool.or_true, Bool.true_or]
  exact SortKey.leTotal_total _ _

/-- Two names that compare are in the same order under the total order. -/
theorem nameLeTotal_of_nameLe {a b : Value} (le : a.nameLe b = true) :
    a.nameLeTotal b = true := by
  unfold nameLe at le
  unfold nameLeTotal
  split at le
  next x y keyA keyB =>
    rw [keyA, keyB]
    cases x <;> cases y <;> simp_all [SortKey.leTotal, SortKey.le]
  · cases le

/-- On keys of one kind the total order is the order of the keys. -/
theorem SortKey.leTotal_of_sameKind {k0 x y : SortKey} (kindX : k0.sameKind x = true)
    (kindY : k0.sameKind y = true) : x.leTotal y = x.le y := by
  cases k0 <;> cases x <;> cases y <;> simp_all [sameKind, leTotal]

/-- The order of a sort by name: upward, or downward when `descending`; names without a sort
key come first upward. -/
def byName {α : Type} (name : α → Value) (descending : Bool) (a b : α) : Bool :=
  if descending then (name b).nameLeTotal (name a) else (name a).nameLeTotal (name b)

/-- Items whose names all have sort keys of one kind. -/
def OneKind {α : Type} (name : α → Value) (xs : List α) : Prop :=
  ∃ k0 : SortKey, ∀ x ∈ xs, ∃ k, (name x).sortKey? = some k ∧ k0.sameKind k = true

/-- On items whose names are of one kind, the total order is the order of their names. -/
theorem nameLeTotal_of_oneKind {α : Type} {name : α → Value} {xs : List α}
    (oneKind : OneKind name xs) {a b : α} (memberA : a ∈ xs) (memberB : b ∈ xs) :
    (name a).nameLeTotal (name b) = (name a).nameLe (name b) := by
  obtain ⟨k0, keyed⟩ := oneKind
  obtain ⟨x, keyA, kindA⟩ := keyed a memberA
  obtain ⟨y, keyB, kindB⟩ := keyed b memberB
  simp only [nameLeTotal, nameLe, keyA, keyB]
  exact SortKey.leTotal_of_sameKind kindA kindB

end Value

/-- Keys found for each item pair up with the items. -/
theorem mapM_some_zip {α β : Type} {f : α → Option β} :
    ∀ {xs : List α} {ys : List β}, xs.mapM f = some ys →
      (xs.zip ys).map Prod.fst = xs ∧ ∀ p ∈ xs.zip ys, f p.1 = some p.2
  | [], ys, found => by
    cases found
    simp
  | x :: rest, ys, found => by
    rw [List.mapM_cons] at found
    obtain ⟨y, first, found⟩ := Option.bind_eq_some_iff.mp found
    obtain ⟨others, mapped, found⟩ := Option.bind_eq_some_iff.mp found
    cases found
    obtain ⟨fsts, keyed⟩ := mapM_some_zip mapped
    refine ⟨by simp [fsts], ?_⟩
    intro p member
    rcases List.mem_cons.mp member with rfl | later
    · exact first
    · exact keyed p later

/-- A sort by name that succeeds is a merge sort of the items by `byName`, on items whose names
are of one kind, or on at most one item. -/
theorem sortByName_eq {α : Type} {name : α → Value} {descending : Bool} {xs ys : List α}
    (sorted : sortByName name descending xs = .ok ys) :
    ys = xs.mergeSort (Value.byName name descending) ∧
      (xs.length ≤ 1 ∨ Value.OneKind name xs) := by
  unfold sortByName at sorted
  split at sorted
  · cases sorted
    simp
  · cases sorted
    simp
  next _ first rest _ =>
    split at sorted
    next keys k0 keysFound firstFound =>
      split at sorted
      next sameKinds =>
        cases sorted
        obtain ⟨fsts, keyed⟩ := mapM_some_zip keysFound
        have kinds : ∀ p ∈ (first :: rest).zip keys,
            (name p.1).sortKey? = some p.2 ∧ k0.sameKind p.2 = true :=
          fun p member => ⟨keyed p member,
            List.all_eq_true.mp sameKinds p.2 (List.of_mem_zip member).2⟩
        have oneKind : Value.OneKind name (first :: rest) := by
          refine ⟨k0, fun x member => ?_⟩
          rw [← fsts] at member
          obtain ⟨p, inZip, rfl⟩ := List.mem_map.mp member
          exact ⟨p.2, kinds p inZip⟩
        refine ⟨?_, .inr oneKind⟩
        rw [List.map_mergeSort (s := Value.byName name descending), fsts]
        intro p memberP q memberQ
        obtain ⟨keyP, kindP⟩ := kinds p memberP
        obtain ⟨keyQ, kindQ⟩ := kinds q memberQ
        simp only [Value.byName, Value.nameLeTotal, keyP, keyQ,
          Value.SortKey.leTotal_of_sameKind kindP kindQ,
          Value.SortKey.leTotal_of_sameKind kindQ kindP]
      · cases sorted
    · cases sorted

theorem byName_trans {α : Type} (name : α → Value) (descending : Bool) (a b c : α) :
    Value.byName name descending a b = true → Value.byName name descending b c = true →
      Value.byName name descending a c = true := by
  unfold Value.byName
  cases descending
  · exact Value.nameLeTotal_trans _ _ _
  · exact fun first second => Value.nameLeTotal_trans _ _ _ second first

theorem byName_total {α : Type} (name : α → Value) (descending : Bool) (a b : α) :
    (Value.byName name descending a b || Value.byName name descending b a) = true := by
  unfold Value.byName
  cases descending
  · exact Value.nameLeTotal_total _ _
  · rw [Bool.or_comm]
    exact Value.nameLeTotal_total _ _

/-- A merge sort by name orders items whose names are of one kind by `nameLe`, upward or
downward. -/
theorem pairwise_mergeSort_byName {α : Type} (name : α → Value) (descending : Bool)
    {xs : List α} (comparable : xs.length ≤ 1 ∨ Value.OneKind name xs) :
    (xs.mergeSort (Value.byName name descending)).Pairwise fun a b =>
      (if descending then (name b).nameLe (name a) else (name a).nameLe (name b)) = true := by
  have ordered := List.pairwise_mergeSort (byName_trans name descending)
    (byName_total name descending) xs
  rcases comparable with short | oneKind
  · have length : (xs.mergeSort (Value.byName name descending)).length ≤ 1 := by
      simpa using short
    match xs.mergeSort (Value.byName name descending), length with
    | [], _ => exact List.Pairwise.nil
    | [_], _ => exact List.pairwise_singleton _ _
  · refine ordered.imp_of_mem fun {a b} memberA memberB le => ?_
    rw [List.mem_mergeSort] at memberA memberB
    unfold Value.byName at le
    cases descending
    · simpa [Value.nameLeTotal_of_oneKind oneKind memberA memberB] using le
    · simpa [Value.nameLeTotal_of_oneKind oneKind memberB memberA] using le

/-- A merge sort by name keeps two items whose names compare equal in their order. -/
theorem sublist_mergeSort_byName {α : Type} (name : α → Value) (descending : Bool)
    {xs : List α} {a b : α} (le : (name a).nameLe (name b) = true)
    (ge : (name b).nameLe (name a) = true) (ordered : [a, b].Sublist xs) :
    [a, b].Sublist (xs.mergeSort (Value.byName name descending)) := by
  apply List.pair_sublist_mergeSort (byName_trans name descending)
    (byName_total name descending) _ ordered
  unfold Value.byName
  cases descending
  · exact Value.nameLeTotal_of_nameLe le
  · exact Value.nameLeTotal_of_nameLe ge

namespace Operations

/-- Parameters whose names are of one kind, or at most one parameter. -/
def Comparable (ps : List Parameter) : Prop := ps.length ≤ 1 ∨ Value.OneKind (·.name) ps

/-- A sort of parameters that succeeds splits, into its required and its optional ones, the
parameters sorted upward by name for `asc`, downward for `desc`, and as given otherwise. -/
theorem sortParameters_cases {order : String} {ps out : List Parameter}
    (sorted : sortParameters order ps = .ok out) :
    ∃ byOrder : List Parameter,
      out = byOrder.filter (·.required) ++ byOrder.filter (!·.required) ∧
      ((order = "asc" ∧ byOrder = ps.mergeSort (Value.byName (·.name) false) ∧
          Comparable ps) ∨
        (order = "desc" ∧ byOrder = ps.mergeSort (Value.byName (·.name) true) ∧
          Comparable ps) ∨
        (order ≠ "asc" ∧ order ≠ "desc" ∧ byOrder = ps)) := by
  unfold sortParameters at sorted
  by_cases upward : order = "asc"
  · simp only [upward, if_true] at sorted
    obtain ⟨byOrder, ordered, split⟩ := except_bind_ok sorted
    cases split
    exact ⟨byOrder, rfl, .inl ⟨upward, sortByName_eq ordered⟩⟩
  by_cases downward : order = "desc"
  · simp only [downward, show ("desc" : String) ≠ "asc" by decide, if_true, if_false] at sorted
    obtain ⟨byOrder, ordered, split⟩ := except_bind_ok sorted
    cases split
    exact ⟨byOrder, rfl, .inr (.inl ⟨downward, sortByName_eq ordered⟩)⟩
  · simp only [upward, downward, if_false] at sorted
    cases sorted
    exact ⟨ps, rfl, .inr (.inr ⟨upward, downward, rfl⟩)⟩

/-- The required and then the optional parameters, read back as one group, are that group. -/
theorem filter_group_split (byOrder : List Parameter) (group : Bool) :
    (byOrder.filter (·.required) ++ byOrder.filter (!·.required)).filter
        (·.required == group) =
      byOrder.filter (·.required == group) := by
  rw [List.filter_append, List.filter_filter, List.filter_filter]
  cases group
  · simp
  · simp

/-- In the required parameters followed by the optional ones, no optional parameter comes
before a required one. -/
theorem required_first (byOrder : List Parameter) :
    (byOrder.filter (·.required) ++ byOrder.filter (!·.required)).Pairwise
      fun a b => b.required = true → a.required = true := by
  have anything : ∀ l : List Parameter, l.Pairwise fun _ _ => True :=
    fun _ => List.pairwise_of_forall fun _ _ => trivial
  rw [List.pairwise_append]
  refine ⟨?_, ?_, ?_⟩
  · exact (anything _).imp_of_mem fun {a _} member _ _ _ => (List.mem_filter.mp member).2
  · refine (anything _).imp_of_mem fun {_ b} _ member _ required => ?_
    have optional := (List.mem_filter.mp member).2
    simp [required] at optional
  · intro a member _ _ _
    exact (List.mem_filter.mp member).2

/-- A group of parameters sorted by name: in name order, upward or downward, and with two
parameters of the group whose names compare equal in their input order. -/
theorem group_of_mergeSort (descending : Bool) {ps : List Parameter} (comparable : Comparable ps)
    (group : Bool) :
    ((ps.mergeSort (Value.byName (·.name) descending)).filter (·.required == group)).Pairwise
        (fun a b =>
          (if descending then b.name.nameLe a.name else a.name.nameLe b.name) = true) ∧
      ∀ a b, a.name.nameLe b.name = true → b.name.nameLe a.name = true →
        [a, b].Sublist (ps.filter (·.required == group)) →
        [a, b].Sublist ((ps.mergeSort (Value.byName (·.name) descending)).filter
          (·.required == group)) := by
  refine ⟨(pairwise_mergeSort_byName _ descending comparable).filter _, ?_⟩
  intro a b le ge inGroup
  have kept := (sublist_mergeSort_byName (·.name) descending le ge
    (inGroup.trans (List.filter_sublist))).filter (·.required == group)
  have grouped : ∀ x ∈ [a, b], (x.required == group) = true := fun x member =>
    (List.mem_filter.mp (inGroup.subset member)).2
  rwa [List.filter_eq_self.mpr grouped] at kept

/-- Whenever sorting parameters succeeds, it permutes them so that no optional parameter comes
before a required one. Within the required ones, and within the optional ones, parameters are
in ascending name order for `asc`, in descending name order for `desc`, and in input order for
any other setting; two of them whose names compare equal keep their input order. -/
theorem sortParameters_spec (order : String) (ps out : List Parameter)
    (sorted : sortParameters order ps = .ok out) :
    out.Perm ps ∧
      out.Pairwise (fun a b => b.required = true → a.required = true) ∧
      ∀ group : Bool,
        (order = "asc" →
          (out.filter (·.required == group)).Pairwise fun a b => a.name.nameLe b.name = true) ∧
        (order = "desc" →
          (out.filter (·.required == group)).Pairwise fun a b => b.name.nameLe a.name = true) ∧
        (order ≠ "asc" → order ≠ "desc" →
          out.filter (·.required == group) = ps.filter (·.required == group)) ∧
        ∀ a b, a.name.nameLe b.name = true → b.name.nameLe a.name = true →
          [a, b].Sublist (ps.filter (·.required == group)) →
          [a, b].Sublist (out.filter (·.required == group)) := by
  obtain ⟨byOrder, rfl, chosen⟩ := sortParameters_cases sorted
  have permuted : byOrder.Perm ps := by
    rcases chosen with ⟨-, rfl, -⟩ | ⟨-, rfl, -⟩ | ⟨-, -, rfl⟩
    · exact List.mergeSort_perm _ _
    · exact List.mergeSort_perm _ _
    · exact List.Perm.refl _
  refine ⟨(List.filter_append_perm _ _).trans permuted, required_first byOrder, fun group => ?_⟩
  rw [filter_group_split]
  rcases chosen with ⟨upward, rfl, comparable⟩ | ⟨downward, rfl, comparable⟩ |
    ⟨upward, downward, rfl⟩
  · obtain ⟨ordered, stable⟩ := group_of_mergeSort false comparable group
    exact ⟨fun _ => by simpa using ordered, fun downward => by simp [upward] at downward,
      fun notUpward => absurd upward notUpward, stable⟩
  · obtain ⟨ordered, stable⟩ := group_of_mergeSort true comparable group
    exact ⟨fun upward => by simp [downward] at upward, fun _ => by simpa using ordered,
      fun _ notDownward => absurd downward notDownward, stable⟩
  · exact ⟨fun up => absurd up upward, fun down => absurd down downward, fun _ _ => rfl,
      fun _ _ _ _ inGroup => inGroup⟩

/-- Parameters of a pet search: two required, three optional, two of them named `tag`. -/
def petParameters : List Parameter :=
  [{ (default : Parameter) with name := .str "limit", required := false },
    { (default : Parameter) with name := .str "petId", required := true },
    { (default : Parameter) with name := .str "tag", required := false },
    { (default : Parameter) with name := .str "api_key", required := true },
    { (default : Parameter) with name := .str "tag", required := false, isArray := true }]

theorem sortParameters_spec_pets :
    ∃ out, sortParameters "desc" petParameters = .ok out ∧
      out.Perm petParameters ∧
      out.Pairwise (fun a b => b.required = true → a.required = true) ∧
      ∀ group : Bool,
        ("desc" = "asc" →
          (out.filter (·.required == group)).Pairwise fun a b => a.name.nameLe b.name = true) ∧
        ("desc" = "desc" →
          (out.filter (·.required == group)).Pairwise fun a b => b.name.nameLe a.name = true) ∧
        ("desc" ≠ "asc" → "desc" ≠ "desc" →
          out.filter (·.required == group) = petParameters.filter (·.required == group)) ∧
        ∀ a b, a.name.nameLe b.name = true → b.name.nameLe a.name = true →
          [a, b].Sublist (petParameters.filter (·.required == group)) →
          [a, b].Sublist (out.filter (·.required == group)) := by
  obtain ⟨out, sorted⟩ := exists_ok_of_isOk
    (show (sortParameters "desc" petParameters).isOk = true by with_unfolding_all rfl)
  exact ⟨out, sorted, sortParameters_spec "desc" petParameters out sorted⟩

end Operations

end ClientGen
