import ClientGen.Document.Value

/-!
# Ordering values

Texts are ordered by their characters' code points and numbers by their value; a sort
over names of other kinds, or of both kinds at once, has no order to follow and fails.
Sorting is stable: entries with equal names keep their order, also when sorting downward.
-/
namespace ClientGen

namespace Value

/-- How a value takes part in a sort: by its text, or by its exact value as `num / 2^shift`. -/
inductive SortKey where
  | text (s : String)
  | number (num : Int) (shift : Nat)

/-- The sort key of a text or a finite number. -/
def sortKey? : Value → Option SortKey
  | .str s => some (.text s)
  | v => (v.asDyadic).map fun (n, s) => .number n s

/-- Whether the first key comes no later than the second, for keys of one kind. -/
def SortKey.le : SortKey → SortKey → Bool
  | .text a, .text b => decide (a ≤ b)
  | .number n i, .number m j => decide (n * Int.pow 2 j ≤ m * Int.pow 2 i)
  | _, _ => false

/-- Whether all keys are of one kind. -/
def SortKey.sameKind : SortKey → SortKey → Bool
  | .text _, .text _ => true
  | .number _ _, .number _ _ => true
  | _, _ => false

end Value

/-- The items sorted by the name `name` gives them, upward or, when `descending`, downward;
stable either way. A list of one item needs no order. -/
def sortByName {α : Type} (name : α → Value) (descending : Bool) (xs : List α) :
    Except Fault (List α) :=
  match xs with
  | [] | [_] => .ok xs
  | first :: _ =>
    match xs.mapM (fun x => (name x).sortKey?), (name first).sortKey? with
    | some keys, some k0 =>
      if keys.all (Value.SortKey.sameKind k0) then
        let keyed := xs.zip keys
        let sorted := keyed.mergeSort fun (a b : α × Value.SortKey) =>
          if descending then b.2.le a.2 else a.2.le b.2
        .ok (sorted.map (·.1))
      else .error .wrongOperand
    | _, _ => .error .wrongOperand

end ClientGen
