import ClientGen.Api.Basic
import ClientGen.Naming
import ClientGen.Log

/-!
# Choosing services and models

A run may name the tags of the services to generate and of those to skip. Tags are
compared as service names, so `pets`, `Pets` and `pet s` all name the service `Pets`. A
service is kept when it is among the included (if any are named) and not among the
excluded. Models that no kept service reaches through dependencies can be dropped too.
-/
namespace ClientGen

namespace Selection

/-- The service names a tag list stands for, sorted and without repeats: a text is split at
commas, a list gives its members, and any other value stands alone. Null members and
names that are empty once trimmed are left out; no names at all is no list. -/
def normalizeTags (tags : Value) : Option (List String) :=
  match tags with
  | .null => none
  | _ =>
    let members : List Value :=
      match tags with
      | .str s => (Text.splitOn s ",").map Value.str
      | .list items | .set items => items
      | v => [v]
    let names := (members.filter fun v => !(v matches .null)).map fun v => Text.strip v.display
    let normalized := (names.filter (· ≠ "")).map fun n => Naming.tagName (.str n) (.str "Api")
    let sorted := (normalized.mergeSort fun a b => decide (a ≤ b)).eraseDups
    if sorted.isEmpty then none else some sorted

/-- A choice of services by tag. -/
structure Filter where
  included : Option (List String)
  excluded : Option (List String)
  dropUnused : Bool
  deriving Repr, Inhabited

/-- The filter of a run's tag lists. -/
def Filter.ofTags (wanted unwanted : Value) (dropUnused : Bool) : Filter :=
  ⟨normalizeTags wanted, normalizeTags unwanted, dropUnused⟩

/-- Whether the service with this name is kept. -/
def Filter.includes (f : Filter) (name : String) : Bool :=
  (f.included.all fun names => names.contains name) &&
    (f.excluded.all fun names => !names.contains name)

/-- The keys of the models reachable from `stack` through dependencies; the stack is
taken from its front, and `visited` holds the keys reached so far. Each step either
visits a new model or drops a name, so the table's size and the names on the stack bound
the steps. -/
def reach (models : Table Model) : Nat → List String → List String → List String
  | 0, _, visited => visited
  | _ + 1, [], visited => visited
  | fuel + 1, key :: stack, visited =>
    if visited.contains key then reach models fuel stack visited
    else
      match models.get? key with
      | none => reach models fuel stack visited
      | some m => reach models fuel (m.dependencies.map Naming.modelKey ++ stack) (visited ++ [key])

/-- The keys of the models reachable from the given class names. -/
def reachable (models : Table Model) (roots : List String) : List String :=
  let depCount := (models.map fun e => e.2.dependencies.length).foldr (· + ·) 0
  reach models (roots.length + depCount + models.length + 1) (roots.reverse.map Naming.modelKey) []

/-- The tables with the services the filter leaves out removed, and, when it drops unused
models, the models that no kept service reaches. -/
def Filter.apply (f : Filter) (models : Table Model) (services : Table Service) :
    Logged (Table Model × Table Service) := do
  let mut kept : Table Service := []
  let mut used : List String := []
  for (name, s) in services do
    if !f.includes name then
      Logged.note .info .selection s!"Ignoring service {name} because it was not included"
    else
      kept := kept ++ [(name, s)]
      if f.dropUnused then used := used ++ s.dependencies ++ s.errorDependencies
  if !f.dropUnused then return (models, kept)
  let reached := reachable models used
  let mut keptModels : Table Model := []
  for (key, m) in models do
    if reached.contains (Naming.modelKey m.className) then keptModels := keptModels ++ [(key, m)]
    else
      Logged.note .info .selection
        s!"Ignoring model {m.name.display} because it was not used by any service"
  return (keptModels, kept)

end Selection

end ClientGen
