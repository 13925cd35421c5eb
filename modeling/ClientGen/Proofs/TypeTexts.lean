import ClientGen.Proofs.TypeReferences
import ClientGen.Proofs.ServiceTable
import Mathlib.Tactic.SplitIfs

/-!
# When a type is written with no text

`SchemaNode.resolve` writes most types with text of their own: `null`, a class name or `null`
in its place, `Blob`, `any`, `Array<…>`, a record type in braces, a literal in quotes. Three
constructions join lists that may be empty, and write nothing when they are:

* a union or an intersection of no members, or of one member written with nothing;
* a bounded tuple whose upper bound is below its lower one, which has no lengths at all;
* an integer or a number whose only literal is the empty text, written as it is.

`SchemaNode.blank` says which trees these are, and they are exactly the trees written with no
text (`resolve_text_eq_empty_iff`). Schemas read into such trees: a list of no types, and an
`allOf` whose members are all nullable, are a union and an intersection of nothing.
-/
namespace ClientGen

/-! ## Texts of values -/

theorem Int.repr_ne_empty (n : Int) : n.repr ≠ "" := by
  cases n with
  | ofNat m => exact Nat.repr_ne_empty
  | negSucc m =>
    show "-" ++ _ ≠ ""
    simp

/-- Every layout of a decimal writes a digit or a point. Each layout writes `0.0`, a point, or an
`e` before the exponent. -/
theorem FloatLayout.layout_ne_empty (f : FloatLayout) (d : Decimal.Dec) : f.layout d ≠ "" := by
  unfold FloatLayout.layout
  split
  · simp
  · split
    dsimp only
    split_ifs <;> simp

theorem FloatLayout.write_standard_ne_empty (bits : UInt64) :
    FloatLayout.standard.write bits ≠ "" := by
  have spelled : standard.nan = "nan" ∧ standard.inf = "inf" := ⟨rfl, rfl⟩
  unfold FloatLayout.write
  dsimp only
  split_ifs <;> simp [spelled, layout_ne_empty]

theorem quoteText_ne_empty (s : String) : quoteText s ≠ "" := fun written =>
  String.singleton_ne_empty (String.append_eq_empty_iff.mp written).2

theorem quoteBytes_ne_empty (data : List UInt8) : quoteBytes data ≠ "" := fun written =>
  String.singleton_ne_empty (String.append_eq_empty_iff.mp written).2

namespace Value

/-- The quoted text of a value is never empty: text is quoted, containers are bracketed. -/
theorem quoted_ne_empty (v : Value) : v.quoted ≠ "" := by
  cases v with
  | int n => exact Int.repr_ne_empty n
  | float bits => exact FloatLayout.write_standard_ne_empty bits
  | str s => exact quoteText_ne_empty s
  | bytes data => exact quoteBytes_ne_empty data
  | set members =>
    simp only [quoted.eq_def]
    split <;> simp
  | bool b => cases b <;> simp [quoted.eq_def]
  | _ => simp [quoted.eq_def]

/-- The plain text of a value is empty only for the empty text. -/
theorem display_eq_empty_iff (v : Value) : v.display = "" ↔ v = .str "" := by
  cases v with
  | str s => simp [display]
  | date d => simp [display, Date.iso]
  | timestamp t => simp [display, Timestamp.iso]
  | _ => simp [display, quoted_ne_empty]

end Value

namespace SchemaNode

/-- A number literal is empty only for the empty text: an integral float is written as its
integer, and every other value by its plain text. -/
theorem numberLiteral_eq_empty_iff (v : Value) : numberLiteral v = "" ↔ v = .str "" := by
  cases v with
  | float bits =>
    simp only [numberLiteral]
    split
    · simp [Int.repr_ne_empty]
    · simp [Value.display_eq_empty_iff]
  | _ => simp [numberLiteral, Value.display_eq_empty_iff]

/-- A string literal is quoted, so never empty. -/
theorem stringLiteral_ne_empty (v : Value) : stringLiteral v ≠ "" := by
  simp [stringLiteral]

end SchemaNode

/-! ## Joined texts -/

/-- Texts joined by a separator that is not empty make the empty text only when there are none,
or the one text is empty. -/
theorem String.intercalate_eq_empty_iff {sep : String} (nonempty : sep ≠ "") :
    ∀ {xs : List String}, sep.intercalate xs = "" ↔ xs = [] ∨ xs = [""]
  | [] => by simp
  | [x] => by simp
  | x :: y :: rest => by simp [String.intercalate_cons_cons, nonempty]

namespace TypeExpr

theorem join_nil_text (sep : String) : (join sep []).text = "" := rfl

theorem join_singleton_text (sep : String) (t : TypeExpr) : (join sep [t]).text = t.text := by
  simp [join, compound]

theorem join_text_ne_empty {sep : String} (nonempty : sep ≠ "") (a b : TypeExpr)
    (rest : List TypeExpr) : (join sep (a :: b :: rest)).text ≠ "" := by
  show sep.intercalate (a.text :: b.text :: rest.map (·.text)) ≠ ""
  rw [Ne, String.intercalate_eq_empty_iff nonempty]
  simp

theorem addNew_nil_eq_nil {names : List String} (none : addNew [] names = []) : names = [] :=
  List.eq_nil_iff_forall_not_mem.mpr fun name member => by
    have kept := mem_addNew_of_mem_right [] member
    rw [none] at kept
    exact List.not_mem_nil kept

end TypeExpr

namespace SchemaNode

/-! ## Tuples -/

/-- A tuple has no lengths exactly when its upper bound is below its lower one: the clamped
bounds keep their order, so otherwise the lower bound is listed. -/
theorem tupleVariants_eq_nil_iff (types : List TypeExpr) (lo hi : Int) :
    tupleVariants types lo hi = [] ↔ hi < lo := by
  unfold tupleVariants
  split
  · next below => exact iff_of_true rfl below
  · next notBelow =>
    refine iff_of_false (fun none => ?_) notBelow
    have noLengths := TypeExpr.addNew_nil_eq_nil none
    simp only [List.map_eq_nil_iff, List.range_eq_nil] at noLengths
    omega

/-- Every length of a tuple is written in brackets. -/
theorem empty_not_mem_tupleVariants (types : List TypeExpr) (lo hi : Int) :
    "" ∉ tupleVariants types lo hi := by
  unfold tupleVariants
  split
  · exact List.not_mem_nil
  · intro member
    rcases Operations.mem_addNew member with none | listed
    · cases none
    · obtain ⟨k, -, written⟩ := List.mem_map.mp listed
      simp at written

/-- A bounded tuple is written with no text exactly when its upper bound counts below its
lower one, a false lower bound counting as zero. -/
theorem tupleType_text {itemTypes : List TypeExpr} {extra : TypeExpr} {lo hi : Value}
    {t : TypeExpr} (resolved : tupleType itemTypes extra lo hi = .ok t) :
    ∃ a b, asCount (if lo.truthy then lo else .int 0) = some a ∧ asCount hi = some b ∧
      (t.text = "" ↔ b < a) := by
  unfold tupleType at resolved
  dsimp only at resolved
  generalize countedLo : asCount (if lo.truthy then lo else .int 0) = lower at resolved
  generalize countedHi : asCount hi = upper at resolved
  cases lower with
  | none => cases resolved
  | some a =>
    cases upper with
    | none => cases resolved
    | some b =>
      cases resolved
      refine ⟨a, b, rfl, rfl, ?_⟩
      show " | ".intercalate _ = "" ↔ _
      rw [String.intercalate_eq_empty_iff (by decide), tupleVariants_eq_nil_iff]
      have unwritten := empty_not_mem_tupleVariants (itemTypes ++ [extra]) a b
      constructor
      · rintro (below | single)
        · exact below
        · rw [single] at unwritten
          exact absurd (List.mem_singleton_self _) unwritten
      · exact .inl

/-! ## Primitives -/

/-- Whether the only literal of a primitive is the empty text: the one member of its enum, or
its constant when the enum has no members. -/
def soleEmptyLiteral : Option (List Value) → Value → Bool
  | some [.str ""], _ => true
  | some (_ :: _), _ => false
  | _, .str "" => true
  | _, _ => false

theorem soleEmptyLiteral_members (v : Value) (vs : List Value) (const : Value) :
    soleEmptyLiteral (some (v :: vs)) const = true ↔ vs = [] ∧ v = .str "" := by
  cases vs with
  | nil =>
    cases v with
    | str s => by_cases empty : s = "" <;> simp [soleEmptyLiteral, empty]
    | _ => simp [soleEmptyLiteral]
  | cons w rest => simp [soleEmptyLiteral]

theorem soleEmptyLiteral_const {enum : Option (List Value)}
    (noMembers : ∀ v vs, enum = some (v :: vs) → False) (const : Value) :
    soleEmptyLiteral enum const = true ↔ const = .str "" := by
  have noneListed : enum = none ∨ enum = some [] := by
    match enum, noMembers with
    | none, _ => exact .inl rfl
    | some [], _ => exact .inr rfl
    | some (v :: vs), noMembers => exact absurd rfl (noMembers v vs)
  rcases noneListed with rfl | rfl <;>
  · cases const with
    | str s => by_cases empty : s = "" <;> simp [soleEmptyLiteral, empty]
    | _ => simp [soleEmptyLiteral]

/-- A primitive is written with no text exactly when it is an integer or a number whose only
literal is the empty text: string literals are quoted, and the other primitives are named. -/
theorem primitiveType_text_eq_empty_iff (name : String) (enum : Option (List Value))
    (const : Value) : (primitiveType name enum const).text = "" ↔
      ((name = "integer" || name = "number") && soleEmptyLiteral enum const) = true := by
  unfold primitiveType
  dsimp only
  by_cases string : name = "string"
  · subst string
    refine iff_of_false ?_ (by simp)
    rw [if_pos rfl]
    split
    · simp [TypeExpr.scalar, String.intercalate_eq_empty_iff, stringLiteral_ne_empty]
    · split <;> simp [TypeExpr.scalar, stringLiteral_ne_empty]
  rw [if_neg string]
  by_cases number : (name = "integer" || name = "number") = true
  · rw [if_pos number, number, Bool.true_and]
    split
    · next v vs =>
      simp only [TypeExpr.scalar]
      rw [String.intercalate_eq_empty_iff (by decide), soleEmptyLiteral_members]
      simp [numberLiteral_eq_empty_iff, and_comm]
    · next noMembers =>
      rw [soleEmptyLiteral_const noMembers]
      split
      · simp [TypeExpr.scalar]
      · exact numberLiteral_eq_empty_iff _
  · rw [if_neg number]
    refine iff_of_false ?_ (by simp [number])
    split <;> simp [TypeExpr.scalar]

/-! ## Trees written with no text -/

/-- Whether the type of a tree is written with no text: a union or an intersection of no
members, or of one such member; a tuple whose upper bound is true and counts below its lower
bound, a false lower bound counting as zero; an integer or a number whose only literal is the
empty text. -/
def blank : SchemaNode → Bool
  | .union _ _ [] | .intersection _ [] => true
  | .union _ _ [v] | .intersection _ [v] => blank v
  | .tuple _ _ lo hi _ =>
    hi.truthy && match asCount (if lo.truthy then lo else .int 0), asCount hi with
      | some a, some b => decide (b < a)
      | _, _ => false
  | .primitive _ name enum const =>
    (name = "integer" || name = "number") && soleEmptyLiteral enum const
  | _ => false

theorem resolveList_singleton {v : SchemaNode} {ts : List TypeExpr}
    (resolved : resolveList [v] = .ok ts) : ∃ t, ts = [t] ∧ v.resolve = .ok t := by
  obtain ⟨t, others, found, none, rfl⟩ := resolveList_cons_ok resolved
  cases none
  exact ⟨t, rfl, found⟩

theorem resolveList_cons_cons {v w : SchemaNode} {rest : List SchemaNode} {ts : List TypeExpr}
    (resolved : resolveList (v :: w :: rest) = .ok ts) : ∃ a b others, ts = a :: b :: others := by
  have lengths := resolveList_length resolved
  match ts, lengths with
  | [], lengths => simp at lengths
  | [_], lengths => simp at lengths
  | a :: b :: others, _ => exact ⟨a, b, others, rfl⟩

/-- The type of a tree is written with no text exactly when the tree is blank. The recursion follows
`blank`: only a union or an intersection of one member is blank through another tree. A tuple with
no upper bound is an array of anything, and a reference that names no class is written `null`. -/
theorem resolve_text_eq_empty_iff : ∀ {n : SchemaNode} {t : TypeExpr}, n.resolve = .ok t →
    (t.text = "" ↔ n.blank = true)
  | .union _ _ [], _, resolved => by
    obtain ⟨ts, listed, rfl⟩ := resolve_union resolved
    cases listed
    exact iff_of_true (TypeExpr.join_nil_text _) rfl
  | .union _ _ [v], _, resolved => by
    obtain ⟨ts, listed, rfl⟩ := resolve_union resolved
    obtain ⟨t, rfl, found⟩ := resolveList_singleton listed
    rw [TypeExpr.join_singleton_text]
    have member := resolve_text_eq_empty_iff found
    exact member
  | .union _ _ (_ :: _ :: _), _, resolved => by
    obtain ⟨ts, listed, rfl⟩ := resolve_union resolved
    obtain ⟨a, b, others, rfl⟩ := resolveList_cons_cons listed
    exact iff_of_false (TypeExpr.join_text_ne_empty (by decide) a b others) Bool.false_ne_true
  | .intersection _ [], _, resolved => by
    obtain ⟨ts, listed, rfl⟩ := resolve_intersection resolved
    cases listed
    exact iff_of_true (TypeExpr.join_nil_text _) rfl
  | .intersection _ [v], _, resolved => by
    obtain ⟨ts, listed, rfl⟩ := resolve_intersection resolved
    obtain ⟨t, rfl, found⟩ := resolveList_singleton listed
    rw [TypeExpr.join_singleton_text]
    have member := resolve_text_eq_empty_iff found
    exact member
  | .intersection _ (_ :: _ :: _), _, resolved => by
    obtain ⟨ts, listed, rfl⟩ := resolve_intersection resolved
    obtain ⟨a, b, others, rfl⟩ := resolveList_cons_cons listed
    exact iff_of_false (TypeExpr.join_text_ne_empty (by decide) a b others) Bool.false_ne_true
  | .tuple _ items lo hi extra, _, resolved => by
    cases truthy : hi.truthy with
    | false =>
      simp only [resolve, truthy, Bool.not_false, if_true] at resolved
      cases resolved
      exact iff_of_false (by decide) (by simp [blank, truthy])
    | true =>
      simp only [resolve, truthy, Bool.not_true, Bool.false_eq_true, if_false] at resolved
      obtain ⟨itemTypes, -, resolved⟩ := except_bind_ok resolved
      obtain ⟨extraType, -, resolved⟩ := except_bind_ok resolved
      obtain ⟨a, b, countedLo, countedHi, empty⟩ := tupleType_text resolved
      rw [empty]
      simp [blank, truthy, countedLo, countedHi]
  | .primitive _ name enum const, _, resolved => by
    cases resolved
    exact primitiveType_text_eq_empty_iff name enum const
  | .null _, _, resolved => by
    cases resolved
    exact iff_of_false (by decide) Bool.false_ne_true
  | .ref _ target, _, resolved => by
    simp only [resolve] at resolved
    obtain ⟨name, -, resolved⟩ := except_bind_ok resolved
    cases resolved
    refine iff_of_false ?_ Bool.false_ne_true
    simp only [TypeExpr.scalar]
    split
    · split
      · decide
      · next named => simpa using named
    · decide
  | .override _ text, _, resolved => by
    cases resolved
    refine iff_of_false ?_ Bool.false_ne_true
    simp only [TypeExpr.scalar]
    split
    · decide
    · next written => simpa using written
  | .nullable _ inner, _, resolved => by
    obtain ⟨u, -, rfl⟩ := resolve_nullable resolved
    exact iff_of_false (by simp) Bool.false_ne_true
  | .file _, _, resolved => by
    cases resolved
    exact iff_of_false (by decide) Bool.false_ne_true
  | .array _ items, _, resolved => by
    obtain ⟨u, -, rfl⟩ := resolve_array resolved
    exact iff_of_false (by simp [TypeExpr.compound]) Bool.false_ne_true
  | .object _ props _ extra, _, resolved => by
    obtain ⟨members, extraType, -, -, rfl⟩ := resolve_object resolved
    exact iff_of_false (by simp [objectType, TypeExpr.compound]) Bool.false_ne_true
  | .any _ _, _, resolved => by
    cases resolved
    exact iff_of_false (by decide) Bool.false_ne_true

/-- The type of a schema is written with no text exactly when the schema reads into a blank
tree. -/
theorem schemaType_text_eq_empty_iff {schema : Value} {path : String} {t : TypeExpr}
    (resolved : schema.schemaType path = .ok t) :
    t.text = "" ↔ ∃ n, parse schema path = .ok n ∧ n.blank = true := by
  obtain ⟨n, parsed, found⟩ := except_bind_ok resolved
  rw [resolve_text_eq_empty_iff found]
  constructor
  · exact fun blank => ⟨n, parsed, blank⟩
  · rintro ⟨m, parsedAgain, blank⟩
    rw [parsed] at parsedAgain
    cases parsedAgain
    exact blank

/-- A list of no types is a union of nothing, written with no text. -/
theorem schemaType_text_eq_empty_iff_no_types :
    Value.schemaType (.object [("type", .list [])]) "#" = .ok ⟨"", some []⟩ ∧
      (TypeExpr.text ⟨"", some []⟩ = "" ↔
        ∃ n, parse (.object [("type", .list [])]) "#" = .ok n ∧ n.blank = true) :=
  have resolved : Value.schemaType (.object [("type", .list [])]) "#" = .ok ⟨"", some []⟩ := by
    with_unfolding_all rfl
  ⟨resolved, schemaType_text_eq_empty_iff resolved⟩

/-- An `allOf` whose members are all nullable is an intersection of nothing, written with no
text. -/
theorem schemaType_nullable_allOf_is_empty :
    Value.schemaType (.object [("allOf", .list [.object [("x-nullable", .bool true)]])]) "#" =
      .ok ⟨"", some []⟩ := by
  with_unfolding_all rfl

end SchemaNode

end ClientGen
