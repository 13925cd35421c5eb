import ClientGen.Proofs.Compiled
import ClientGen.Proofs.Imports
import ClientGen.Proofs.Dependencies
import Mathlib.Data.List.Induction

/-!
# The lists of dependencies

The dependencies of a model or a service are collected one candidate at a time: nothing, a
type name, or a type whose constituent names count. Whatever the table, what is collected are
class names of models the table gives, no two with one key and none with the key of the owner
(`collect_sound`). In a table keyed by class names the collection is exactly the classes the
added names key, the owner's apart, in the order they are first added (`collect_keyed`).

An owner is named by a class name, and an empty class name names no owner: a model whose class
name is empty, as that of a definition named `-`, can then be among its own dependencies.
-/
namespace ClientGen.Dependencies

open Selection

/-- One candidate handed to the collector: nothing, a type name, or a type. -/
inductive Candidate where
  | none
  | name (text : String)
  | type (t : TypeExpr)

/-- The names a candidate adds: a type name itself, or the names a type depends on. -/
def Candidate.names : Candidate → List String
  | .none => []
  | .name text => [text]
  | .type t => t.dependencyNames

/-- Takes one candidate into account. -/
def addCandidate (models : Table Model) (owner : Option String) (c : Collected)
    (candidate : Candidate) : Collected :=
  candidate.names.foldl (addName models owner) c

/-- What is collected for the owner class `owner` (`none` for a service) from the candidates,
added in order. -/
def collect (models : Table Model) (owner : Option String) (candidates : List Candidate) :
    Collected :=
  candidates.foldl (addCandidate models (owner.bind ownerKey)) Collected.empty

/-- The key a name is looked up under: wrappers stripped, case ignored. -/
def nameKey (name : String) : String := Naming.modelKey (stripWrappers name false)

/-- The class a name contributes in a keyed table: that of the model its key finds, unless the
key is the owner's. -/
def pick (models : Table Model) (owner : Option String) (name : String) : Option String :=
  if owner = some (nameKey name) then none else (models.get? (nameKey name)).map (·.className)

theorem collect_eq (models : Table Model) (owner : Option String) (candidates : List Candidate) :
    collect models owner candidates =
      (candidates.flatMap Candidate.names).foldl (addName models (owner.bind ownerKey))
        Collected.empty := by
  rw [List.foldl_flatMap]
  rfl

variable {models : Table Model} {owner : Option String}

/-! ## Any table -/

/-- What the collector keeps true in any table: each name collected is the class of a model
the table gives, no two have one key, none has the owner's key, and the key of each is among
the keys met. -/
structure Sound (models : Table Model) (owner : Option String) (c : Collected) : Prop where
  found : ∀ n ∈ c.names, ∃ key m, models.get? key = some m ∧ m.className = n
  distinct : (c.names.map Naming.modelKey).Nodup
  notOwner : ∀ n ∈ c.names, owner ≠ some (Naming.modelKey n)
  met : ∀ n ∈ c.names, Naming.modelKey n ∈ c.seen

theorem sound_empty : Sound models owner Collected.empty :=
  ⟨by simp [Collected.empty], by simp [Collected.empty], by simp [Collected.empty],
    by simp [Collected.empty]⟩

/-- What one name can do: nothing, when its key is the owner's or met or finds a model whose
class key is the owner's or met; or append the class of the model its key finds, recording both
keys. -/
theorem addName_cases (c : Collected) (name : String) :
    (addName models owner c name = c ∧
      (owner = some (nameKey name) ∨ nameKey name ∈ c.seen ∨
        ∀ m, models.get? (nameKey name) = some m →
          owner = some (Naming.modelKey m.className) ∨
            Naming.modelKey m.className ∈ c.seen)) ∨
      ∃ m, models.get? (nameKey name) = some m ∧ owner ≠ some (nameKey name) ∧
        nameKey name ∉ c.seen ∧ owner ≠ some (Naming.modelKey m.className) ∧
        Naming.modelKey m.className ∉ c.seen ∧
        addName models owner c name = ⟨c.names ++ [m.className],
          c.seen ++ [nameKey name, Naming.modelKey m.className]⟩ := by
  dsimp only [addName]
  split
  next met =>
    simp only [Bool.or_eq_true, decide_eq_true_eq, List.contains_iff_mem] at met
    rcases met with mine | met
    · exact .inl ⟨rfl, .inl mine⟩
    · exact .inl ⟨rfl, .inr (.inl met)⟩
  next unmet =>
    simp only [Bool.or_eq_true, decide_eq_true_eq, List.contains_iff_mem, not_or] at unmet
    split
    next missing =>
      refine .inl ⟨rfl, .inr (.inr fun m found => ?_)⟩
      rw [nameKey, missing] at found
      cases found
    next m found =>
      split
      next met =>
        simp only [Bool.or_eq_true, decide_eq_true_eq, List.contains_iff_mem] at met
        refine .inl ⟨rfl, .inr (.inr fun m' found' => ?_)⟩
        rw [nameKey, found] at found'
        cases found'
        exact met
      next fresh =>
        simp only [Bool.or_eq_true, decide_eq_true_eq, List.contains_iff_mem, not_or] at fresh
        exact .inr ⟨m, found, unmet.1, unmet.2, fresh.1, fresh.2, rfl⟩

theorem addName_sound {c : Collected} (sound : Sound models owner c) (name : String) :
    Sound models owner (addName models owner c name) := by
  rcases addName_cases c name with ⟨same, -⟩ | ⟨m, found, -, -, notOwner, unmet, added⟩
  · rwa [same]
  rw [added]
  constructor
  · intro n member
    rcases List.mem_append.mp member with old | new
    · exact sound.found n old
    · rw [List.mem_singleton.mp new]
      exact ⟨_, m, found, rfl⟩
  · rw [List.map_append, List.nodup_append]
    refine ⟨sound.distinct, by simp, ?_⟩
    intro k old k' new same
    obtain ⟨n, member, rfl⟩ := List.mem_map.mp old
    rw [List.map_singleton, List.mem_singleton] at new
    subst new
    exact unmet (same ▸ sound.met n member)
  · intro n member
    rcases List.mem_append.mp member with old | new
    · exact sound.notOwner n old
    · rwa [List.mem_singleton.mp new]
  · intro n member
    rcases List.mem_append.mp member with old | new
    · exact List.mem_append_left _ (sound.met n old)
    · rw [List.mem_singleton.mp new]
      exact List.mem_append_right _ (by simp)

theorem foldl_addName_sound (names : List String) {c : Collected}
    (sound : Sound models owner c) : Sound models owner (names.foldl (addName models owner) c) := by
  induction names generalizing c with
  | nil => exact sound
  | cons name rest ih => exact ih (addName_sound sound name)

theorem collect_sound (models : Table Model) (owner : Option String)
    (candidates : List Candidate) :
    Sound models (owner.bind ownerKey) (collect models owner candidates) := by
  rw [collect_eq]
  exact foldl_addName_sound _ sound_empty

/-- An owner named by a non-empty class is owned by that class's key. -/
theorem ownerKey_of_ne_empty {o : String} (named : o ≠ "") :
    (some o).bind ownerKey = some (Naming.modelKey o) := by
  simp [ownerKey, String.isEmpty_iff, named]

/-! ## A keyed table -/

/-- Every key met is the key of a class collected. -/
def SeenListed (c : Collected) : Prop := ∀ k ∈ c.seen, ∃ n ∈ c.names, Naming.modelKey n = k

/-- In a keyed table a key met finds a class already collected. -/
theorem collected_of_met (keyed : Keyed models) {c : Collected} (sound : Sound models owner c)
    (listed : SeenListed c) {key : String} (met : key ∈ c.seen) {m : Model}
    (found : models.get? key = some m) : m.className ∈ c.names := by
  obtain ⟨n, member, sameKey⟩ := listed key met
  obtain ⟨k, m', found', rfl⟩ := sound.found n member
  rw [← keyed.key_of_get? found'] at sameKey
  subst sameKey
  rw [found] at found'
  cases found'
  exact member

/-- In a keyed table one name adds its class when that class is new, and nothing else. -/
theorem addName_keyed (keyed : Keyed models) {c : Collected} (sound : Sound models owner c)
    (listed : SeenListed c) (name : String) :
    SeenListed (addName models owner c name) ∧
      (addName models owner c name).names =
        c.names ++ (pick models owner name).toList.removeAll c.names := by
  rcases addName_cases c name with ⟨same, why⟩ | ⟨m, found, notOwner, unmet, -, -, added⟩
  · rw [same]
    refine ⟨listed, ?_⟩
    unfold pick
    split
    · simp
    next notOwner =>
      cases lookup : models.get? (nameKey name) with
      | none => simp
      | some m =>
        have sameKey := keyed.key_of_get? lookup
        have met : nameKey name ∈ c.seen := by
          rcases why with mine | met | classMet
          · exact absurd mine notOwner
          · exact met
          · rcases classMet m lookup with mine | met
            · exact absurd (sameKey ▸ mine) notOwner
            · exact sameKey ▸ met
        simp [List.removeAll, collected_of_met keyed sound listed met lookup]
  · have sameKey := keyed.key_of_get? found
    have fresh : m.className ∉ c.names := fun member =>
      unmet (sameKey ▸ sound.met _ member)
    rw [added]
    refine ⟨?_, ?_⟩
    · intro k member
      rcases List.mem_append.mp member with old | new
      · obtain ⟨n, inNames, rfl⟩ := listed k old
        exact ⟨n, List.mem_append_left _ inNames, rfl⟩
      · refine ⟨m.className, List.mem_append_right _ (List.mem_singleton_self _), ?_⟩
        simp only [List.mem_cons, List.not_mem_nil, or_false] at new
        rcases new with rfl | rfl
        · exact sameKey.symm
        · rfl
    · simp [pick, notOwner, found, List.removeAll, fresh]

/-- Names taken one by one in a keyed table collect the classes they pick, each once, in the order
they are first picked. Taken from the last name back, the class the last name picks comes once,
unless an earlier name picked it. -/
theorem foldl_addName_keyed (keyed : Keyed models) (names : List String) :
    SeenListed (names.foldl (addName models owner) Collected.empty) ∧
      (names.foldl (addName models owner) Collected.empty).names =
        (names.filterMap (pick models owner)).eraseDups := by
  induction names using List.reverseRecOn with
  | nil => exact ⟨by simp [SeenListed, Collected.empty], rfl⟩
  | append_singleton names name ih =>
    obtain ⟨listed, collected⟩ := ih
    have sound := foldl_addName_sound names (@sound_empty models owner)
    obtain ⟨listed', grown⟩ := addName_keyed keyed sound listed name
    rw [List.foldl_append, List.foldl_cons, List.foldl_nil]
    refine ⟨listed', ?_⟩
    rw [grown, collected, List.filterMap_append, List.eraseDups_append]
    cases picked : pick models owner name with
    | none => simp [picked]
    | some y =>
      simp only [picked, Option.toList_some, List.filterMap_cons, List.filterMap_nil,
        List.removeAll, List.filter_cons, List.filter_nil, List.elem_eq_mem, List.mem_eraseDups]
      split <;> simp only [List.eraseDups_cons, List.filter_nil, List.eraseDups_nil]

theorem collect_keyed (keyed : Keyed models) (owner : Option String)
    (candidates : List Candidate) :
    (collect models owner candidates).names =
      ((candidates.flatMap Candidate.names).filterMap
        (pick models (owner.bind ownerKey))).eraseDups := by
  rw [collect_eq]
  exact (foldl_addName_keyed keyed _).2

/-- In a keyed table a model's class is picked exactly when an added name keys it and its key is
not the owner's. -/
theorem mem_picked_iff (keyed : Keyed models) {added : List String} {e : String × Model}
    (member : e ∈ models) :
    e.2.className ∈ (added.filterMap (pick models owner)).eraseDups ↔
      (∃ n ∈ added, nameKey n = e.1) ∧ owner ≠ some e.1 := by
  rw [List.mem_eraseDups, List.mem_filterMap]
  constructor
  · rintro ⟨n, listed, picked⟩
    unfold pick at picked
    split at picked
    · cases picked
    next notOwner =>
      obtain ⟨m, found, sameClass⟩ := Option.map_eq_some_iff.mp picked
      have sameKey : nameKey n = e.1 := by
        rw [keyed.key_of_get? found, sameClass, ← keyed.key_eq e member]
      exact ⟨⟨n, listed, sameKey⟩, sameKey ▸ notOwner⟩
  · rintro ⟨⟨n, listed, sameKey⟩, notOwner⟩
    refine ⟨n, listed, ?_⟩
    simp [pick, sameKey, notOwner, keyed.get?_of_mem member]

/-! ## The dependencies of a model -/

/-- The candidate an optional type stands for. -/
def Candidate.ofOption : Option TypeExpr → Candidate
  | .some t => .type t
  | .none => .none

theorem Candidate.names_ofOption (t : Option TypeExpr) :
    (Candidate.ofOption t).names = optionNames t := by
  cases t <;> rfl

/-- The candidates a model's dependencies are collected from, in the order they are added: its
parents, the types of its members, then its element, alias and additional-properties types. -/
def modelCandidates (m : Model) : List Candidate :=
  m.parents.map .name ++ m.members.map (fun p => .type p.type) ++
    [.ofOption m.elementType, .ofOption m.aliasType, .ofOption m.additionalType]

/-- Outside enums and plain aliases, the dependencies of a model are what is collected from its
candidates for its own class. -/
theorem ofModel_eq_collect (models : Table Model) (m : Model) (notEnum : m.kind ≠ .enum)
    (notPlain : plainAlias m = false) :
    ofModel models m = (collect models (some m.className) (modelCandidates m)).names := by
  have shown : (modelCandidates m).flatMap Candidate.names = shownNames m := by
    simp only [modelCandidates, List.flatMap_append, List.flatMap_cons, List.flatMap_nil,
      Candidate.names_ofOption, List.flatMap_map, List.append_nil]
    simp [shownNames, Candidate.names]
  rw [ofModel_eq m notEnum notPlain, collect_eq, shown]
  rfl

/-- The dependencies of a model are none, or what a sound collection for its class holds. -/
theorem ofModel_sound (models : Table Model) (m : Model) :
    ofModel models m = [] ∨
      ∃ c, Sound models (ownerKey m.className) c ∧ ofModel models m = c.names := by
  by_cases isEnum : m.kind = .enum
  · exact .inl (by simp [ofModel, isEnum])
  by_cases plain : plainAlias m = true
  · refine .inl ?_
    simp only [plainAlias, Bool.and_eq_true, decide_eq_true_eq] at plain
    simp [ofModel, plain]
  · exact .inr ⟨_, collect_sound models (some m.className) (modelCandidates m),
      ofModel_eq_collect models m isEnum (Bool.eq_false_iff.mpr plain)⟩

/-- The dependencies of a model have distinct keys and, unless its class name is empty, do not
name its own class. -/
theorem ofModel_distinct (models : Table Model) (m : Model) :
    ((ofModel models m).map Naming.modelKey).Nodup ∧
      (m.className ≠ "" → m.className ∉ ofModel models m) := by
  rcases ofModel_sound models m with none | ⟨c, sound, collected⟩
  · simp [none]
  rw [collected]
  refine ⟨sound.distinct, fun named own => sound.notOwner _ own ?_⟩
  simpa using ownerKey_of_ne_empty named

/-- Whenever a document compiles, the dependencies of each compiled model have distinct keys
and, unless its class name is empty, do not name its own class. -/
theorem compile_dependencies_distinct (config : Config) (doc : Value) :
    Logged.Ensures (Api.compile config doc) fun api => ∀ e ∈ api.models,
      (e.2.dependencies.map Naming.modelKey).Nodup ∧
        (e.2.className ≠ "" → e.2.className ∉ e.2.dependencies) := by
  refine (Api.compile_tables config doc).mono ?_
  rintro api ⟨built, services, builtGiven, -, modelsViewed, -⟩ e member
  obtain ⟨kept, inKept, -, sameCore⟩ := Api.exists_of_viewed modelsViewed member
  have sameDependencies : e.2.dependencies = kept.2.dependencies :=
    (congrArg Model.dependencies sameCore).symm
  have sameClass : e.2.className = kept.2.className := (congrArg Model.className sameCore).symm
  obtain ⟨-, -, linked, -, -, -, rfl⟩ := (Models.build_collects config _).gives builtGiven
  obtain ⟨original, -, rfl⟩ := List.mem_map.mp (Api.mem_keptModels inKept)
  rw [sameDependencies, sameClass]
  exact ofModel_distinct linked original.2

/-! ## The collector's lists -/

/-- What is collected from any candidates is made of classes of models the table gives, no two
with one key and none with the key of a non-empty owner. In a table keyed by class names it is
exactly the classes that added names key, the owner's apart, in the order they are first added.
So whenever a document compiles, the dependencies of each model are distinct and, unless its
class name is empty, do not name its own class. -/
theorem collect_lists_each_model_once (models : Table Model) (owner : Option String)
    (candidates : List Candidate) :
    (∀ n ∈ (collect models owner candidates).names,
        ∃ key m, models.get? key = some m ∧ m.className = n) ∧
      ((collect models owner candidates).names.map Naming.modelKey).Nodup ∧
      (∀ o, owner = some o → o ≠ "" →
        ∀ n ∈ (collect models owner candidates).names,
          Naming.modelKey n ≠ Naming.modelKey o) ∧
      (Keyed models →
        (collect models owner candidates).names =
          ((candidates.flatMap Candidate.names).filterMap
            (pick models (owner.bind ownerKey))).eraseDups ∧
        ∀ e ∈ models, e.2.className ∈ (collect models owner candidates).names ↔
          (∃ n ∈ candidates.flatMap Candidate.names, nameKey n = e.1) ∧
            owner.bind ownerKey ≠ some e.1) ∧
      ∀ config doc, Logged.Ensures (Api.compile config doc) fun api => ∀ e ∈ api.models,
        (e.2.dependencies.map Naming.modelKey).Nodup ∧
          (e.2.className ≠ "" → e.2.className ∉ e.2.dependencies) := by
  have sound := collect_sound models owner candidates
  refine ⟨sound.found, sound.distinct, ?_, fun keyed => ?_, compile_dependencies_distinct⟩
  · rintro o rfl named n member same
    exact sound.notOwner n member (by rw [ownerKey_of_ne_empty named, same])
  · rw [collect_keyed keyed]
    exact ⟨rfl, fun e member => mem_picked_iff keyed member⟩

/-- A definition named `-` gives a model whose class name is empty. -/
def namelessDocument : Value := .object [
  ("swagger", .str "2.0"),
  ("definitions", .object [
    ("-", .object [("type", .str "object"),
      ("properties", .object [("a", .object [("x-type", .str " ")])])])])]

/-- The model of class `""` names no owner, and its property of type ` ` strips to the key
`""`, which finds the model itself: it is its own dependency. -/
theorem compile_lists_nameless_model_as_own_dependency :
    ((Api.compile { Config.default with ignoreUnusedModels := false } namelessDocument).runFrom
        #[]).1.toOption.map (fun api => api.models.map fun e => (e.2.className, e.2.dependencies)) =
      some [("", [""])] := by
  with_unfolding_all rfl

end ClientGen.Dependencies
