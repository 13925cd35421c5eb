import ClientGen.Api.Basic
import ClientGen.Naming

/-!
# Dependencies between models

The models a model or service uses are collected from candidate type names, in the order
they are first met. A candidate counts when, with wrappers stripped and case ignored, it
names a model of the table; the model is then recorded by its class name, once, and never
as a dependency of itself.
-/
namespace ClientGen

namespace Dependencies

/-- What has been collected: class names in order, and the keys already met. -/
structure Collected where
  names : List String
  seen : List String
  deriving Repr, Inhabited

/-- Nothing collected yet. -/
def Collected.empty : Collected := ⟨[], []⟩

/-- Takes one candidate name into account, for a model or service whose own key is
`owner`. -/
def addName (models : Table Model) (owner : Option String) (c : Collected) (name : String) :
    Collected :=
  let key := Naming.modelKey (stripWrappers name false)
  if owner = some key || c.seen.contains key then c
  else
    match models.get? key with
    | none => c
    | some m =>
      let modelKey := Naming.modelKey m.className
      if owner = some modelKey || c.seen.contains modelKey then c
      else ⟨c.names ++ [m.className], c.seen ++ [key, modelKey]⟩

/-- Takes the names of a type into account. -/
def addType (models : Table Model) (owner : Option String) (c : Collected) (t : TypeExpr) :
    Collected :=
  t.dependencyNames.foldl (addName models owner) c

/-- Takes an optional type into account. -/
def addOption (models : Table Model) (owner : Option String) (c : Collected)
    (t : Option TypeExpr) : Collected :=
  match t with
  | some t => addType models owner c t
  | none => c

/-- The owner key of a class name; an empty name is no owner. -/
def ownerKey (className : String) : Option String :=
  if className.isEmpty then none else some (Naming.modelKey className)

/-- The models a model uses: its parents, then the types of its members, its element, its
alias and its additional properties. Enums and aliases of a non-compound type use none. -/
def ofModel (models : Table Model) (m : Model) : List String :=
  if m.kind = .enum || (m.kind = .simple && !(m.aliasType.any TypeExpr.isCompound)) then []
  else
    let owner := ownerKey m.className
    let c := m.parents.foldl (addName models owner) Collected.empty
    let c := m.members.foldl (fun c p => addType models owner c p.type) c
    let c := addOption models owner c m.elementType
    let c := addOption models owner c m.aliasType
    let c := addOption models owner c m.additionalType
    c.names

/-- The models a service uses, for successful responses and parameters, and for error
responses. Responses whose code is not a number are left out. -/
def ofOperations (models : Table Model) (ops : List Operation) :
    Except Fault (List String × List String) := do
  let mut ok := Collected.empty
  let mut failed := Collected.empty
  for op in ops do
    for (code, response) in op.responses do
      if Text.allDigits code then
        if ← successCode code then ok := addType models none ok response.type
        else failed := addType models none failed response.type
    for p in op.parameters do
      ok := addType models none ok p.type
  return (ok.names, failed.names)

end Dependencies

end ClientGen
