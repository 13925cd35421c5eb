import ClientGen.Proofs.Subvalues
import ClientGen.Proofs.Imports
import ClientGen.Proofs.ReferenceCheck
import Mathlib.Data.Finset.Card

/-!
# Expanding the references of a value

`Reference.expand doc v` copies `v` with every reference replaced by its target in `doc`,
expanded in turn, and refuses a reference met again inside its own expansion. Compiling expands
the example of every model so when examples are asked for.

`Expands doc seen v out` says what the expansion is, without fuel: a mapping that makes a
reference becomes the expansion of the reference's target, the reference joining `seen`; any
other mapping keeps its keys and expands their values; a list expands its items; anything else
stays. `expand` runs on fuel, and the fuel is always enough (`expandWith_meets`): along a path
of the expansion each step moves into a lighter member, or follows a reference not yet on the
path and lands within the document, and the document and the value make few references. So
`expand` gives exactly the expansion when there is one (`expand_eq_ok_iff`), and otherwise
fails for a reference met again, a reference that does not resolve, or a list index written in
digits that are not decimal digits (`expand_error`).

An expansion makes no reference (`Expands.refFree`) as long as no value stored under `$ref`
makes one itself. Such a value is not followed: the mapping around it is copied and the value
is expanded in place, so `{"$ref": {"$ref": "#/s"}}` becomes `{"$ref": "abc"}` when `s` is the
text `abc`.
-/
namespace ClientGen

/-- What a run that can fail promises: a fault meets `failed`, a value meets `ok`. -/
def Meets {β : Type} (failed : Fault → Prop) (ok : β → Prop) : Except Fault β → Prop
  | .ok b => ok b
  | .error fault => failed fault

section Meets

variable {α β γ : Type} {failed : Fault → Prop}

theorem meets_pure {P : β → Prop} {b : β} (holds : P b) : Meets failed P (pure b) := holds

theorem Meets.mono {P Q : β → Prop} {x : Except Fault β} (holds : Meets failed P x)
    (weaker : ∀ b, P b → Q b) : Meets failed Q x := by
  cases x with
  | error fault => exact holds
  | ok b => exact weaker b holds

theorem Meets.bind {P : α → Prop} {Q : β → Prop} {x : Except Fault α}
    {f : α → Except Fault β} (first : Meets failed P x)
    (rest : ∀ a, P a → Meets failed Q (f a)) : Meets failed Q (x >>= f) := by
  cases x with
  | error fault => exact first
  | ok a => exact rest a first

theorem Meets.map {P : α → Prop} {Q : β → Prop} {x : Except Fault α} {f : α → β}
    (first : Meets failed P x) (each : ∀ a, P a → Q (f a)) : Meets failed Q (f <$> x) := by
  cases x with
  | error fault => exact first
  | ok a => exact each a first

/-- Mapping over a list meets, item by item, what each call meets. -/
theorem meets_mapM (f : γ → Except Fault β) (P : γ → β → Prop) :
    ∀ xs : List γ, (∀ x ∈ xs, Meets failed (P x) (f x)) →
      Meets failed (fun ys => ys.length = xs.length ∧ ∀ p ∈ xs.zip ys, P p.1 p.2) (xs.mapM f)
  | [], _ => meets_pure ⟨rfl, fun _ member => absurd member List.not_mem_nil⟩
  | x :: rest, each => by
    rw [List.mapM_cons]
    refine (each x List.mem_cons_self).bind fun y first => ?_
    refine (meets_mapM f P rest fun x' member => each x' (List.mem_cons_of_mem _ member)).bind
      fun ys others => meets_pure ⟨by simp [others.1], fun p member => ?_⟩
    rw [List.zip_cons_cons, List.mem_cons] at member
    rcases member with rfl | later
    · exact first
    · exact others.2 p later

end Meets

theorem exists_mem_zip_of_mem_right {α β : Type} {xs : List α} {ys : List β}
    (length : ys.length = xs.length) {y : β} (member : y ∈ ys) : ∃ p ∈ xs.zip ys, p.2 = y := by
  rw [← List.map_snd_zip (Nat.le_of_eq length)] at member
  exact List.mem_map.mp member

namespace Reference

/-! ## The references within a value -/

mutual
/-- The references made within a value: by the value itself and by every mapping it holds. -/
def refsIn : Value → List String
  | .map entries => (refOf (.map entries)).toList ++ refsInValues entries
  | .list items => refsInItems items
  | _ => []
/-- The references made within the items of a list. -/
def refsInItems : List Value → List String
  | [] => []
  | x :: rest => refsIn x ++ refsInItems rest
/-- The references made within the values of a mapping. -/
def refsInValues : List (Value × Value) → List String
  | [] => []
  | (_, x) :: rest => refsIn x ++ refsInValues rest
end

theorem refsInItems_eq (items : List Value) : refsInItems items = items.flatMap refsIn := by
  induction items with
  | nil => rfl
  | cons x rest ih => simp [refsInItems, ih]

theorem refsInValues_eq (entries : List (Value × Value)) :
    refsInValues entries = entries.flatMap fun e => refsIn e.2 := by
  induction entries with
  | nil => rfl
  | cons e rest ih =>
    obtain ⟨k, x⟩ := e
    simp [refsInValues, ih]

/-- Only a mapping makes a reference. -/
theorem refOf_flat {v : Value} (notMap : ∀ entries, v ≠ .map entries) : refOf v = none := by
  cases v with
  | map entries => exact absurd rfl (notMap entries)
  | _ => rfl

/-- The references made within a value are those of the mappings within it. The induction is on the
weight of `v`, which each of its values and items lacks. -/
theorem mem_refsIn_iff (v : Value) (ref : String) :
    ref ∈ refsIn v ↔ ∃ x, Within x v ∧ refOf x = some ref := by
  constructor
  · intro member
    induction weighs : v.weight using Nat.strongRecOn generalizing v with
    | ind n ih =>
      cases v with
      | map entries =>
        rw [refsIn, refsInValues_eq, List.mem_append] at member
        rcases member with own | inside
        · exact ⟨_, .refl _, Option.mem_toList.mp own⟩
        · obtain ⟨⟨k, y⟩, entry, inY⟩ := List.mem_flatMap.mp inside
          have lighter : y.weight < n := weighs ▸ Value.weight_lt_of_mem_values entry
          obtain ⟨x, within, made⟩ := ih y.weight lighter y inY rfl
          exact ⟨x, .value entry within, made⟩
      | list items =>
        rw [refsIn, refsInItems_eq] at member
        obtain ⟨y, item, inY⟩ := List.mem_flatMap.mp member
        have lighter : y.weight < n := weighs ▸ Value.weight_lt_of_mem_items item
        obtain ⟨x, within, made⟩ := ih y.weight lighter y inY rfl
        exact ⟨x, .item item within, made⟩
      | _ => simp [refsIn] at member
  · rintro ⟨x, within, made⟩
    induction within with
    | refl =>
      cases x with
      | map entries => simp [refsIn, made]
      | _ => cases made
    | value entry _ ih =>
      rw [refsIn, refsInValues_eq]
      exact List.mem_append_right _ (List.mem_flatMap.mpr ⟨_, entry, ih⟩)
    | item item _ ih =>
      rw [refsIn, refsInItems_eq]
      exact List.mem_flatMap.mpr ⟨_, item, ih⟩

theorem refsIn_subset_of_within {x v : Value} (within : Within x v) : refsIn x ⊆ refsIn v := by
  intro ref member
  obtain ⟨y, inside, made⟩ := (mem_refsIn_iff x ref).mp member
  exact (mem_refsIn_iff v ref).mpr ⟨y, inside.trans within, made⟩

mutual
/-- A value makes no more references than it weighs. -/
theorem refsIn_length_le : ∀ v : Value, (refsIn v).length ≤ v.weight
  | .map entries => by
    have inValues := refsInValues_length_le entries
    have own : (refOf (.map entries)).toList.length ≤ 1 := by
      cases refOf (.map entries) <;> simp
    simp only [refsIn, Value.weight, List.length_append]
    omega
  | .list items => by
    have := refsInItems_length_le items
    simp only [refsIn, Value.weight]
    omega
  | .null | .bool _ | .int _ | .float _ | .str _ | .date _ | .timestamp _ | .bytes _
  | .set _ => by simp [refsIn]
theorem refsInItems_length_le :
    ∀ items : List Value, (refsInItems items).length ≤ Value.weightList items
  | [] => by simp [refsInItems]
  | x :: rest => by
    have := refsIn_length_le x
    have := refsInItems_length_le rest
    simp only [refsInItems, Value.weightList, List.length_append]
    omega
theorem refsInValues_length_le :
    ∀ entries : List (Value × Value), (refsInValues entries).length ≤ Value.weightEntries entries
  | [] => by simp [refsInValues]
  | (k, x) :: rest => by
    have := refsIn_length_le x
    have := refsInValues_length_le rest
    simp only [refsInValues, Value.weightEntries, List.length_append]
    omega
end

/-- The target of a reference makes only references of its document, and weighs no more. -/
theorem resolve_refs {doc : Value} {ref : String} {target : Value}
    (resolved : resolve doc ref = .ok target) :
    refsIn target ⊆ refsIn doc ∧ target.weight ≤ doc.weight := by
  rcases resolve_within resolved with rfl | within
  · refine ⟨fun r member => ?_, ?_⟩
    · simp [refsIn, refsInValues, refOf, Value.field, Value.entryOf] at member
    · have := Value.one_le_weight doc
      simpa [Value.weight, Value.weightEntries] using this
  · exact ⟨refsIn_subset_of_within within, within.weight_le⟩

/-! ## What an expansion is -/

/-- `Expands doc seen v out`: `out` is `v` with every reference replaced by the expansion of its
target in `doc`, where `seen` holds the references being expanded around `v`, none of which may
come back. -/
inductive Expands (doc : Value) : List String → Value → Value → Prop
  /-- A mapping that makes a reference not yet seen becomes the expansion of its target. -/
  | ref {seen : List String} {entries : List (Value × Value)} {ref : String}
      {target out : Value} :
      refOf (.map entries) = some ref → ref ∉ seen → resolve doc ref = .ok target →
      Expands doc (ref :: seen) target out → Expands doc seen (.map entries) out
  /-- Any other mapping keeps its keys, in order, and expands their values. -/
  | map {seen : List String} {entries expanded : List (Value × Value)} :
      refOf (.map entries) = none → expanded.length = entries.length →
      (∀ p ∈ entries.zip expanded, p.2.1 = p.1.1) →
      (∀ p ∈ entries.zip expanded, Expands doc seen p.1.2 p.2.2) →
      Expands doc seen (.map entries) (.map expanded)
  /-- A list expands its items. -/
  | list {seen : List String} {items expanded : List Value} :
      expanded.length = items.length → (∀ p ∈ items.zip expanded, Expands doc seen p.1 p.2) →
      Expands doc seen (.list items) (.list expanded)
  /-- Anything else is its own expansion. -/
  | leaf {seen : List String} {v : Value} :
      (∀ entries, v ≠ .map entries) → (∀ items, v ≠ .list items) → Expands doc seen v v

/-- No mapping within the value makes a reference. -/
def RefFree (v : Value) : Prop := ∀ x, Within x v → refOf x = none

theorem refFree_iff (v : Value) : RefFree v ↔ refsIn v = [] := by
  rw [List.eq_nil_iff_forall_not_mem]
  constructor
  · intro free ref member
    obtain ⟨x, within, made⟩ := (mem_refsIn_iff v ref).mp member
    rw [free x within] at made
    cases made
  · intro none_ x within
    cases made : refOf x with
    | none => rfl
    | some ref => exact absurd ((mem_refsIn_iff v ref).mpr ⟨x, within, made⟩) (none_ ref)

instance (v : Value) : Decidable (RefFree v) := decidable_of_iff _ (refFree_iff v).symm

/-- No value stored under `$ref` within the value makes a reference itself. -/
def NoNestedRefs (v : Value) : Prop :=
  ∀ x y, Within x v → x.field "$ref" = some y → refOf y = none

theorem NoNestedRefs.of_within {x v : Value} (flat : NoNestedRefs v) (within : Within x v) :
    NoNestedRefs x :=
  fun y z inside found => flat y z (inside.trans within) found

theorem noNestedRefs_empty : NoNestedRefs (.map []) := by
  intro x y inside found
  cases inside with
  | refl => cases found
  | value member => exact absurd member List.not_mem_nil

/-- The expansion of a value that is neither text nor a reference is no text. -/
theorem Expands.not_str {doc : Value} {seen : List String} {y out : Value}
    (expanded : Expands doc seen y out) (plain : refOf y = none) (notText : ∀ s, y ≠ .str s) :
    ∀ s, out ≠ .str s := by
  cases expanded with
  | ref made =>
    rw [made] at plain
    cases plain
  | map => exact fun _ same => by cases same
  | list => exact fun _ same => by cases same
  | leaf => exact notText

/-- Two lists of entries with the same keys, in order, find a key at the same place. -/
theorem entryOf_zip {entries expanded : List (Value × Value)}
    (length : expanded.length = entries.length) (keys : ∀ p ∈ entries.zip expanded, p.2.1 = p.1.1)
    {key y : Value} (found : Value.entryOf expanded key = some y) :
    ∃ p ∈ entries.zip expanded, Value.entryOf entries key = some p.1.2 ∧ p.2.2 = y := by
  induction entries generalizing expanded with
  | nil =>
    rw [List.length_nil, List.length_eq_zero_iff] at length
    subst length
    cases found
  | cons e rest ih =>
    cases expanded with
    | nil => cases length
    | cons e' rest' =>
      have sameKey : e'.1 = e.1 := keys (e, e') List.mem_cons_self
      unfold Value.entryOf at found ⊢
      cases hit : e.1.same key with
      | true =>
        simp only [List.find?_cons, sameKey, hit, Option.map_some, Option.some.injEq] at found ⊢
        exact ⟨(e, e'), List.mem_cons_self, rfl, found⟩
      | false =>
        simp only [List.find?_cons, sameKey, hit] at found ⊢
        obtain ⟨p, inZip, original, same⟩ := ih (by simpa using length)
          (fun p member => keys p (List.mem_cons_of_mem _ member)) found
        exact ⟨p, List.mem_cons_of_mem _ inZip, original, same⟩

/-- A mapping expanded without a reference of its own makes none, when the value under its
`$ref` key makes none either: that value is no text, and its expansion neither. -/
theorem refOf_expanded {doc : Value} {seen : List String} {entries expanded : List (Value × Value)}
    (plain : refOf (.map entries) = none) (length : expanded.length = entries.length)
    (keys : ∀ p ∈ entries.zip expanded, p.2.1 = p.1.1)
    (each : ∀ p ∈ entries.zip expanded, Expands doc seen p.1.2 p.2.2)
    (flat : NoNestedRefs (.map entries)) : refOf (.map expanded) = none := by
  unfold refOf
  cases found : (Value.map expanded).field "$ref" with
  | none => rfl
  | some y =>
    obtain ⟨p, inZip, original, rfl⟩ := entryOf_zip length keys found
    have notRef : refOf p.1.2 = none := flat _ _ (.refl _) original
    have notText : ∀ s, p.1.2 ≠ .str s := by
      intro s isText
      simp [refOf, Value.field, original, isText] at plain
    have expandedNotText := (each p inZip).not_str notRef notText
    cases expandedValue : p.2.2 with
    | str s => exact absurd expandedValue (expandedNotText s)
    | _ => rfl

/-- An expansion makes no reference, as long as no value stored under `$ref`, in the document
or in the value, makes one itself. -/
theorem Expands.refFree {doc : Value} (docFlat : NoNestedRefs doc) {seen : List String}
    {u out : Value} (expanded : Expands doc seen u out) (flat : NoNestedRefs u) : RefFree out := by
  induction expanded with
  | ref made fresh resolved _ ih =>
    rcases resolve_within resolved with rfl | within
    · exact ih noNestedRefs_empty
    · exact ih (docFlat.of_within within)
  | map plain length keys each ih =>
    intro x within
    cases within with
    | refl => exact refOf_expanded plain length keys each flat
    | value member inside =>
      obtain ⟨p, inZip, same⟩ := exists_mem_zip_of_mem_right length member
      have original := (List.of_mem_zip inZip).1
      have free := ih p inZip (flat.of_within (.value original (.refl _)))
      rw [same] at free
      exact free x inside
  | list length each ih =>
    intro x within
    cases within with
    | refl => rfl
    | item member inside =>
      obtain ⟨p, inZip, same⟩ := exists_mem_zip_of_mem_right length member
      have original := (List.of_mem_zip inZip).1
      have free := ih p inZip (flat.of_within (.item original (.refl _)))
      rw [same] at free
      exact free x inside
  | leaf notMap notList =>
    intro x within
    rw [within.eq_of_flat notMap notList]
    exact refOf_flat notMap

/-! ## The fuel is enough -/

/-- A reference met again inside its own expansion is refused. -/
theorem expandWith_circular {doc : Value} {fuel : Nat} {seen : List String}
    {entries : List (Value × Value)} {ref : String} (made : refOf (.map entries) = some ref)
    (again : ref ∈ seen) :
    expandWith doc (fuel + 1) seen (.map entries) = .error (circular ref) := by
  simp [expandWith, made, again]

/-- A reference not yet seen is resolved, and its target expanded with the reference seen. -/
theorem expandWith_follow {doc : Value} {fuel : Nat} {seen : List String}
    {entries : List (Value × Value)} {ref : String} (made : refOf (.map entries) = some ref)
    (fresh : ref ∉ seen) :
    expandWith doc (fuel + 1) seen (.map entries) =
      resolve doc ref >>= expandWith doc fuel (ref :: seen) := by
  simp [expandWith, made, fresh]

/-- How an expansion is refused: a reference of `refs` met again inside its own expansion, or
one that does not resolve. -/
def Refused (doc : Value) (refs : Finset String) (fault : Fault) : Prop :=
  ∃ ref ∈ refs, fault = circular ref ∨ resolve doc ref = .error fault

/-- Following a reference leaves one reference fewer of `refs` not yet seen. -/
theorem card_unseen_cons {refs : Finset String} {seen : List String} {ref : String}
    (known : ref ∈ refs) (fresh : ref ∉ seen) :
    (refs \ (ref :: seen).toFinset).card + 1 = (refs \ seen.toFinset).card := by
  have unseen : ref ∈ refs \ seen.toFinset :=
    Finset.mem_sdiff.mpr ⟨known, List.mem_toFinset.not.mpr fresh⟩
  rw [List.toFinset_cons, Finset.sdiff_insert, Finset.card_erase_of_mem unseen]
  have := Finset.card_pos.mpr ⟨ref, unseen⟩
  omega

/-- With more fuel than the weight of `u` and, for each reference of `refs` not yet seen, the
weight of the document and one, expanding `u` gives its expansion or is refused. The induction
is on the fuel: following a reference removes it from those not yet seen and lands on a value
no heavier than the document, and every other step moves into a lighter member. -/
theorem expandWith_meets {doc : Value} {refs : Finset String} {bound : Nat}
    (docRefs : ∀ ref ∈ refsIn doc, ref ∈ refs) (docLight : doc.weight ≤ bound) :
    ∀ (fuel : Nat) (seen : List String) (u : Value), (∀ ref ∈ refsIn u, ref ∈ refs) →
      u.weight + (bound + 1) * (refs \ seen.toFinset).card < fuel →
      Meets (Refused doc refs) (Expands doc seen u) (expandWith doc fuel seen u) := by
  intro fuel
  induction fuel with
  | zero =>
    intro seen u _ enough
    omega
  | succ fuel ih =>
    intro seen u uRefs enough
    have inner : ∀ x, Within x u → x.weight < u.weight →
        Meets (Refused doc refs) (Expands doc seen x) (expandWith doc fuel seen x) :=
      fun x within lighter =>
        ih seen x (fun r inX => uRefs r (refsIn_subset_of_within within inX)) (by omega)
    cases u with
    | map entries =>
      cases made : refOf (.map entries) with
      | some ref =>
        have known : ref ∈ refs := uRefs ref ((mem_refsIn_iff _ ref).mpr ⟨_, .refl _, made⟩)
        by_cases again : ref ∈ seen
        · rw [expandWith_circular made again]
          exact ⟨ref, known, .inl rfl⟩
        · rw [expandWith_follow made again]
          cases resolved : resolve doc ref with
          | error fault => exact ⟨ref, known, .inr resolved⟩
          | ok target =>
            obtain ⟨targetRefs, targetLight⟩ := resolve_refs resolved
            have fewer := card_unseen_cons known again
            have heavy := Value.one_le_weight (.map entries)
            rw [← fewer, Nat.mul_add, Nat.mul_one] at enough
            refine (ih (ref :: seen) target (fun r member => docRefs r (targetRefs member)) ?_).mono
              fun out expanded => .ref made again resolved expanded
            omega
      | none =>
        simp only [expandWith, made]
        refine Meets.map (meets_mapM _ (fun e e' => e'.1 = e.1 ∧ Expands doc seen e.2 e'.2) entries
          fun e member => ?_) fun expanded result => ?_
        · obtain ⟨k, x⟩ := e
          exact (inner x (.value member (.refl x)) (Value.weight_lt_of_mem_values member)).bind
            fun out expanded => meets_pure ⟨rfl, expanded⟩
        · exact .map made result.1 (fun p inZip => (result.2 p inZip).1)
            fun p inZip => (result.2 p inZip).2
    | list items =>
      simp only [expandWith]
      refine Meets.map (meets_mapM _ (Expands doc seen) items fun x member => ?_)
        fun expanded result => .list result.1 result.2
      exact inner x (.item member (.refl x)) (Value.weight_lt_of_mem_items member)
    | _ =>
      simp only [expandWith]
      exact .leaf (fun _ same => by cases same) (fun _ same => by cases same)

/-! ## More fuel changes nothing -/

/-- Two maps over a list agree when the calls agree wherever the first does not fail with
`bad`, and the first map does not. -/
theorem mapM_eq_of_ne {γ β : Type} {f g : γ → Except Fault β} {bad : Fault} :
    ∀ xs : List γ, (∀ x ∈ xs, f x ≠ .error bad → g x = f x) → xs.mapM f ≠ .error bad →
      xs.mapM g = xs.mapM f
  | [], _, _ => rfl
  | x :: rest, each, finished => by
    rw [List.mapM_cons] at finished
    rw [List.mapM_cons, List.mapM_cons]
    cases first : f x with
    | error fault =>
      rw [first] at finished
      have other : f x ≠ .error bad := by
        rw [first]
        intro same
        cases same
        exact finished rfl
      rw [each x List.mem_cons_self other, first]
      rfl
    | ok y =>
      rw [first] at finished
      have restFinished : rest.mapM f ≠ .error bad := by
        intro failed
        apply finished
        rw [failed]
        rfl
      rw [each x List.mem_cons_self (by rw [first]; simp), first,
        mapM_eq_of_ne rest (fun x' member => each x' (List.mem_cons_of_mem _ member)) restFinished]

/-- An expansion that does not run out of fuel gives the same with more. -/
theorem expandWith_more_fuel (doc : Value) :
    ∀ (fuel : Nat) (seen : List String) (u : Value),
      expandWith doc fuel seen u ≠ .error .nestingTooDeep →
      ∀ more, fuel ≤ more → expandWith doc more seen u = expandWith doc fuel seen u := by
  intro fuel
  induction fuel with
  | zero =>
    intro seen u finished
    exact absurd (by simp [expandWith]) finished
  | succ fuel ih =>
    intro seen u finished more bigger
    obtain ⟨more, rfl⟩ : ∃ m, more = m + 1 := ⟨more - 1, by omega⟩
    have lessFuel : fuel ≤ more := by omega
    cases u with
    | map entries =>
      cases made : refOf (.map entries) with
      | some ref =>
        by_cases again : ref ∈ seen
        · rw [expandWith_circular made again, expandWith_circular made again]
        · rw [expandWith_follow made again] at finished
          rw [expandWith_follow made again, expandWith_follow made again]
          cases resolved : resolve doc ref with
          | error fault => rfl
          | ok target =>
            rw [resolved] at finished
            exact ih _ _ finished more lessFuel
      | none =>
        simp only [expandWith, made] at finished ⊢
        congr 1
        refine @mapM_eq_of_ne _ _ _ _ .nestingTooDeep entries (fun e _ finishedEntry => ?_)
          fun failed => finished (by rw [failed]; rfl)
        obtain ⟨k, x⟩ := e
        dsimp only at finishedEntry ⊢
        rw [ih seen x (fun failed => finishedEntry (by rw [failed]; rfl)) more lessFuel]
    | list items =>
      simp only [expandWith] at finished ⊢
      congr 1
      exact @mapM_eq_of_ne _ _ _ _ .nestingTooDeep items
        (fun x _ finishedItem => ih seen x finishedItem more lessFuel)
        fun failed => finished (by rw [failed]; rfl)
    | _ => simp only [expandWith]

/-- Fuel enough for each of finitely many expansions is enough for all of them at once. -/
theorem exists_fuel_forall {doc : Value} {seen : List String} {α : Type}
    (start result : α → Value) :
    ∀ xs : List α, (∀ p ∈ xs, ∃ fuel, expandWith doc fuel seen (start p) = .ok (result p)) →
      ∃ fuel, ∀ p ∈ xs, expandWith doc fuel seen (start p) = .ok (result p)
  | [], _ => ⟨0, fun _ member => absurd member List.not_mem_nil⟩
  | x :: rest, each => by
    obtain ⟨n, first⟩ := each x List.mem_cons_self
    obtain ⟨m, others⟩ := exists_fuel_forall start result rest
      fun p member => each p (List.mem_cons_of_mem _ member)
    refine ⟨max n m, fun p member => ?_⟩
    rcases List.mem_cons.mp member with rfl | later
    · rw [expandWith_more_fuel doc n seen _ (by rw [first]; simp) _ (Nat.le_max_left n m), first]
    · rw [expandWith_more_fuel doc m seen _ (by rw [others p later]; simp) _
        (Nat.le_max_right n m), others p later]

/-- A map over a list gives the list each of whose items the call gives for its own. -/
theorem mapM_eq_ok_of_zip {γ β : Type} {f : γ → Except Fault β} :
    ∀ {xs : List γ} {ys : List β}, ys.length = xs.length →
      (∀ p ∈ xs.zip ys, f p.1 = .ok p.2) → xs.mapM f = .ok ys
  | [], [], _, _ => rfl
  | x :: xs, y :: ys, length, each => by
    rw [List.mapM_cons, each (x, y) List.mem_cons_self,
      mapM_eq_ok_of_zip (by simpa using length)
        fun p member => each p (List.mem_cons_of_mem _ member)]
    rfl
  | [], _ :: _, length, _ => by simp at length
  | _ :: _, [], length, _ => by simp at length

/-- Every expansion is what enough fuel gives. -/
theorem Expands.exists_fuel {doc : Value} {seen : List String} {u out : Value}
    (expanded : Expands doc seen u out) : ∃ fuel, expandWith doc fuel seen u = .ok out := by
  induction expanded with
  | ref made fresh resolved _ ih =>
    obtain ⟨fuel, ran⟩ := ih
    refine ⟨fuel + 1, ?_⟩
    rw [expandWith_follow made fresh, resolved]
    exact ran
  | map made length keys _ ih =>
    obtain ⟨fuel, ran⟩ := exists_fuel_forall (fun p : (Value × Value) × (Value × Value) => p.1.2)
      (fun p => p.2.2) _ ih
    refine ⟨fuel + 1, ?_⟩
    simp only [expandWith, made]
    rw [mapM_eq_ok_of_zip length fun p inZip => ?_]
    · rfl
    · obtain ⟨⟨k, x⟩, ⟨k', y⟩⟩ := p
      have sameKey : k' = k := keys _ inZip
      subst sameKey
      have step : expandWith doc fuel _ x = .ok y := ran _ inZip
      simp [step, bind, Except.bind, pure, Except.pure]
  | list length _ ih =>
    obtain ⟨fuel, ran⟩ := exists_fuel_forall (fun p : Value × Value => p.1) (fun p => p.2) _ ih
    refine ⟨fuel + 1, ?_⟩
    simp only [expandWith]
    rw [mapM_eq_ok_of_zip length ran]
    rfl
  | leaf notMap notList =>
    refine ⟨1, ?_⟩
    rename_i v
    cases v with
    | map entries => exact absurd rfl (notMap entries)
    | list items => exact absurd rfl (notList items)
    | _ => rfl

/-! ## What `expand` gives -/

/-- The fuel `expand` gives: the square of the total weight and two. -/
theorem expand_eq (doc v : Value) :
    expand doc v =
      expandWith doc ((doc.weight + v.weight + 2) * (doc.weight + v.weight + 2)) [] v := rfl

/-- `expand` gives the expansion of the value, or is refused for a reference made within the
document or the value. The weight of the value and, for each reference, the weight of the document
and one fit in the square `expand` gives as fuel. -/
theorem expand_meets (doc v : Value) :
    Meets (Refused doc (refsIn doc ++ refsIn v).toFinset) (Expands doc [] v) (expand doc v) := by
  have few : (refsIn doc ++ refsIn v).toFinset.card ≤ doc.weight + v.weight :=
    calc (refsIn doc ++ refsIn v).toFinset.card
        ≤ (refsIn doc ++ refsIn v).length := List.toFinset_card_le _
      _ = (refsIn doc).length + (refsIn v).length := List.length_append
      _ ≤ doc.weight + v.weight := Nat.add_le_add (refsIn_length_le doc) (refsIn_length_le v)
  rw [expand_eq]
  refine expandWith_meets (fun ref member => List.mem_toFinset.mpr (List.mem_append_left _ member))
    (Nat.le_add_right doc.weight v.weight) _ [] v
    (fun ref member => List.mem_toFinset.mpr (List.mem_append_right _ member)) ?_
  rw [List.toFinset_nil, Finset.sdiff_empty]
  calc v.weight + (doc.weight + v.weight + 1) * (refsIn doc ++ refsIn v).toFinset.card
      ≤ (doc.weight + v.weight) + (doc.weight + v.weight + 1) * (doc.weight + v.weight) :=
        Nat.add_le_add (Nat.le_add_left _ _) (Nat.mul_le_mul_left _ few)
    _ < (doc.weight + v.weight + 2) * (doc.weight + v.weight + 2) := by
        generalize doc.weight + v.weight = w
        simp only [Nat.add_mul, Nat.mul_add]
        omega

/-- `expand` never runs out of fuel. -/
theorem expand_finished (doc v : Value) : expand doc v ≠ .error .nestingTooDeep := by
  intro ran
  have meets := expand_meets doc v
  rw [ran] at meets
  obtain ⟨ref, _, circled | resolved⟩ := meets
  · cases circled
  · rcases resolve_fault resolved with bad | ⟨message, unresolved⟩
    · cases bad
    · cases unresolved

/-- `expand` gives exactly the expansion of the value, when it has one. An expansion is found with
some fuel and `expand` never runs out of it, so more fuel than both gives the answers of both. -/
theorem expand_eq_ok_iff (doc v out : Value) :
    expand doc v = .ok out ↔ Expands doc [] v out := by
  constructor
  · intro ran
    have meets := expand_meets doc v
    rw [ran] at meets
    exact meets
  · intro expanded
    obtain ⟨fuel, ran⟩ := expanded.exists_fuel
    have finished := expand_finished doc v
    rw [expand_eq] at finished ⊢
    rw [← expandWith_more_fuel doc _ [] v finished _ (Nat.le_max_right fuel _),
      expandWith_more_fuel doc fuel [] v (by rw [ran]; simp) _ (Nat.le_max_left fuel _), ran]

/-- A segment written in digits that are not all decimal digits, such as a superscript: it is
taken for an index into a list, but cannot be counted. -/
def Uncountable (part : String) : Prop :=
  Text.allDigits part = true ∧ Text.readInteger part = none

theorem stepInto_uncountable {node : Value} {part : String} {fault : Fault}
    (failed : stepInto node part = .error fault) : Uncountable part := by
  unfold stepInto at failed
  split at failed
  · cases failed
  · split at failed
    · next digits =>
      split at failed
      · cases failed
      · next uncounted => exact ⟨digits, uncounted⟩
    · cases failed
  · cases failed

theorem walk_uncountable (ref : String) :
    ∀ (node : Value) (parts : List String), walk ref node parts = .error .badValue →
      ∃ part ∈ parts, Uncountable part
  | _, [], failed => by cases failed
  | node, part :: rest, failed => by
    unfold walk at failed
    cases stepped : stepInto node part with
    | error e => exact ⟨part, List.mem_cons_self, stepInto_uncountable stepped⟩
    | ok next =>
      rw [stepped] at failed
      cases next with
      | none => cases failed
      | some next =>
        obtain ⟨bad, member, uncountable⟩ := walk_uncountable ref next rest failed
        exact ⟨bad, List.mem_cons_of_mem _ member, uncountable⟩

/-- A reference fails as a bad value only by counting into a list with a segment that cannot
be counted. -/
theorem resolve_uncountable {doc : Value} {ref : String}
    (failed : resolve doc ref = .error .badValue) : ∃ part ∈ segments ref, Uncountable part := by
  rcases resolve_eq_error failed with notLocal | walked
  · cases notLocal
  · exact walk_uncountable ref doc _ walked

/-- `expand` fails with an unresolved reference, or with a bad value for a reference made
within the document or the value with a segment that cannot be counted. -/
theorem expand_error {doc v : Value} {fault : Fault} (failed : expand doc v = .error fault) :
    (∃ message, fault = .unresolvedReference message) ∨
      fault = .badValue ∧
        ∃ ref ∈ refsIn doc ++ refsIn v, ∃ part ∈ segments ref, Uncountable part := by
  have meets := expand_meets doc v
  rw [failed] at meets
  obtain ⟨ref, known, circled | resolved⟩ := meets
  · exact .inl ⟨_, circled⟩
  · rcases resolve_fault resolved with bad | unresolved
    · subst bad
      exact .inr ⟨rfl, ref, List.mem_toFinset.mp known, resolve_uncountable resolved⟩
    · exact .inl unresolved

/-! ## The examples of compiled models -/

theorem noNestedRefs_null : NoNestedRefs .null := by
  intro x y inside found
  rw [inside.eq_null] at found
  cases found

/-- The example of a model built from the definitions of a document stores no reference under
`$ref` when the document stores none: it is empty or lies within the document. -/
theorem NoNestedRefs.of_sample {doc x : Value} (docFlat : NoNestedRefs doc)
    (sampled : x = .null ∨ Within x ((doc.field "definitions").getD .null)) : NoNestedRefs x := by
  rcases sampled with rfl | within
  · exact noNestedRefs_null
  · cases found : doc.field "definitions" with
    | none =>
      rw [found] at within
      rw [within.eq_null]
      exact noNestedRefs_null
    | some definitions =>
      rw [found] at within
      exact docFlat.of_within (within.trans (Within.of_field found))

/-- Expanding the example of a model gives one that makes no reference, when no value stored
under `$ref` makes one, in the document or in the example. -/
theorem expandExample_refFree {doc : Value} (docFlat : NoNestedRefs doc) {m m' : Model}
    (flat : NoNestedRefs m.sample) (expanded : Api.expandExample doc m = .ok m') :
    RefFree m'.sample := by
  rcases Api.expandExample_cases expanded with ⟨empty, rfl⟩ | ⟨sample, -, ran, rfl⟩
  · intro x within
    rw [empty] at within
    rw [within.eq_null]
    rfl
  · exact ((expand_eq_ok_iff doc _ sample).mp ran).refFree docFlat flat

/-- Compiling with examples gives models whose examples make no reference, when no value
stored under `$ref` in the document makes one. -/
theorem compile_examples_refFree (config : Config) (doc : Value)
    (examples : config.generateExamples = true) (docFlat : NoNestedRefs doc) :
    Logged.Ensures (Api.compile config doc) fun api => ∀ e ∈ api.models, RefFree e.2.sample := by
  refine (Api.compile_spec config doc).mono ?_
  rintro api ⟨built, services, models, compiled⟩ e member
  rw [compiled.models_eq] at member
  obtain ⟨e0, inModels, last, rfl⟩ := Api.mem_markLastEntry _ _ e member
  obtain ⟨kept, inKept, ran⟩ := mapM_ok_mem _ _ (compiled.expanded examples) e0 inModels
  obtain ⟨m', one, made⟩ := except_bind_ok ran
  cases made
  have sampled := (Models.build_samples_within config _).gives compiled.built_gives
  have free : RefFree m'.sample := expandExample_refFree docFlat
    (docFlat.of_sample (sampled _ (Api.mem_keptModels inKept))) one
  exact free

/-- Expanding a value never runs out of fuel. It gives exactly the expansion of the value,
which makes no reference when no value stored under `$ref` makes one; or it fails with an
unresolved reference, or with a bad value for a reference made within the document or the
value with a segment that cannot be counted. Compiling with examples so gives models whose
examples make no reference. -/
theorem expand_spec (doc v : Value) :
    expand doc v ≠ .error .nestingTooDeep ∧
      (∀ out, expand doc v = .ok out ↔ Expands doc [] v out) ∧
      (NoNestedRefs doc → NoNestedRefs v → ∀ out, expand doc v = .ok out → RefFree out) ∧
      (∀ fault, expand doc v = .error fault →
        (∃ message, fault = .unresolvedReference message) ∨
          fault = .badValue ∧
            ∃ ref ∈ refsIn doc ++ refsIn v, ∃ part ∈ segments ref, Uncountable part) ∧
      ∀ config : Config, config.generateExamples = true → NoNestedRefs doc →
        Logged.Ensures (Api.compile config doc) fun api =>
          ∀ e ∈ api.models, RefFree e.2.sample := by
  refine ⟨expand_finished doc v, expand_eq_ok_iff doc v, ?_, fun _ failed => expand_error failed,
    fun config examples docFlat => compile_examples_refFree config doc examples docFlat⟩
  intro docFlat flat out ran
  exact ((expand_eq_ok_iff doc v out).mp ran).refFree docFlat flat

/-- A reference counting into a list with a superscript two fails as a bad value, not as an
unresolved reference; and a reference stored under `$ref` is expanded in place, which leaves a
mapping that makes the reference `abc`. -/
theorem expand_superscript_index_and_nested_reference :
    expand (.object [("a", .list [.int 1])]) (.object [("$ref", .str "#/a/²")]) =
        .error .badValue ∧
      expand (.object [("s", .str "abc")]) (.object [("$ref", .object [("$ref", .str "#/s")])]) =
        .ok (.object [("$ref", .str "abc")]) ∧
      refOf (.object [("$ref", .str "abc")]) = some "abc" := by
  refine ⟨?_, ?_, ?_⟩ <;> with_unfolding_all rfl

end Reference

end ClientGen
