import ClientGen.Proofs.FileNames
import ClientGen.Proofs.Imports
import ClientGen.Proofs.Compiled
import ClientGen.Render.Files
import Mathlib.Data.List.Forall2
import Mathlib.Data.List.Nodup

/-!
# One file for each rendered artifact

Rendering a compiled API puts each file under its path in a table, so a path met again keeps
its place (`render_keys`) and takes the later text (`render_texts`). Whether any file is lost
that way depends on the paths being distinct.

A model's file and its example's are named after its class name with the suffixes the options
give, and a service's file after the class name of its tag; the compiled tables keep that
(`compile_filed`). Two class names with one file stem have one key, so the files of distinct
models are distinct, and so are their examples. Models and services lie in two folders, and
the files that do not come from the tables lie in neither and end each in its own way. Two
kinds of paths may still meet: the example of a model and the file of another model (`Pet`
with an example beside a model `PetExample`), and the files of two services whose class names
differ only in letter case (tags `APets` and `Apets`). Apart from these, each artifact has its
own file (`render_writes_each_file_once`).
-/
namespace ClientGen

open Naming

/-! ## The files of the tables are named after their classes -/

namespace Models

/-- The files of a model are named after its class: its own file and its example's, each with
the suffix the options give. -/
structure FilesNamed (config : Config) (m : Model) : Prop where
  modelFile : m.fileName = fileName m.className ++ config.modelFileSuffix
  exampleFile : m.exampleFile = fileName m.className ++ config.exampleFileSuffix

theorem FilesNamed.of_same {config : Config} {m m' : Model} (named : FilesNamed config m)
    (sameClass : m'.className = m.className) (sameFile : m'.fileName = m.fileName)
    (sameExample : m'.exampleFile = m.exampleFile) : FilesNamed config m' :=
  ⟨by rw [sameFile, sameClass, named.modelFile], by rw [sameExample, sameClass, named.exampleFile]⟩

theorem FilesNamed.relinked {config : Config} {m m' : Model} (named : FilesNamed config m)
    (relinked : Relinked m m') : FilesNamed config m' := by
  obtain ⟨_, _, _, rfl⟩ := relinked
  exact ⟨named.modelFile, named.exampleFile⟩

theorem ofDefinition_filesNamed {config : Config} {name schema : Value} {m : Model}
    (built : ofDefinition config name schema = .ok m) : FilesNamed config m := by
  obtain ⟨cls, _, ⟨path, composed⟩ | ⟨_, _, _, _, _, _, rfl⟩⟩ := ofDefinition_cases built
  · rcases ofComposition_cases composed with ⟨_, _, _, rfl⟩ | ⟨_, rfl⟩ | rfl <;>
      exact ⟨rfl, rfl⟩
  · exact ⟨rfl, rfl⟩

/-- Every built model has its files named after its class. -/
theorem build_filesNamed (config : Config) (definitions : Value) :
    Logged.Ensures (build config definitions) fun built => ∀ e ∈ built, FilesNamed config e.2 := by
  refine (build_models config definitions).mono fun built made e member => ?_
  obtain ⟨es, d, m, m', -, -, given, relinked, same⟩ := made e member
  have linkedNamed := (ofDefinition_filesNamed given).relinked relinked
  rw [same]
  exact ⟨linkedNamed.modelFile, linkedNamed.exampleFile⟩

end Models

namespace Operations

/-- The class of a service is named after its tag, and its file after that class, with the
suffix the options give. -/
structure ServiceNamed (config : Config) (s : Service) : Prop where
  serviceClass : s.serviceClass = className s.name ++ "Service"
  serviceFile : s.serviceFile = fileName (className s.name) ++ config.serviceFileSuffix

theorem ServiceNamed.of_core {config : Config} {s s' : Service} (named : ServiceNamed config s)
    (same : s'.core = s.core) : ServiceNamed config s' := by
  have sameName : s'.name = s.name := (congrArg Service.name same :)
  have sameClass : s'.serviceClass = s.serviceClass := (congrArg Service.serviceClass same :)
  have sameFile : s'.serviceFile = s.serviceFile := (congrArg Service.serviceFile same :)
  exact ⟨by rw [sameClass, sameName, named.serviceClass],
    by rw [sameFile, sameName, named.serviceFile]⟩

theorem Draft.service_named {config : Config} {draft : Draft}
    (named : ∀ s ∈ draft.services, ServiceNamed config s.2) (tag : String) :
    ServiceNamed config (draft.service config tag) := by
  unfold Draft.service
  cases found : draft.services.get? tag with
  | none => exact ⟨rfl, rfl⟩
  | some s => exact named _ (Table.mem_of_get? found)

/-- Filing an operation under a tag keeps every service named after its tag. -/
theorem Draft.extend_named {config : Config} {draft : Draft}
    (named : ∀ s ∈ draft.services, ServiceNamed config s.2) (tag id : String) (op : Operation) :
    ∀ s ∈ (draft.extend config tag id op).services, ServiceNamed config s.2 := by
  intro s member
  rcases Table.mem_put member with rfl | old
  · have current := Draft.service_named named tag
    exact ⟨current.serviceClass, current.serviceFile⟩
  · exact named s old

/-- Every built service has its class and its file named after its tag. -/
theorem build_servicesNamed (config : Config) (doc : Value) (models : Table Model) :
    Logged.Ensures (build config doc models) fun services =>
      ∀ s ∈ services, ServiceNamed config s.2 := by
  refine (build_drafts_core (fun d => ∀ s ∈ d.services, ServiceNamed config s.2)
    (fun _ member => nomatch member) fun _ _ _ _ _ named => addPath_invariant _
      (fun _ _ _ _ _ _ namedD => ?_) named).mono ?_
  · intro logs d' after added
    rcases addMethod_cases added with rfl | ⟨_, tag, id, op, _, _, rfl⟩
    · exact namedD
    · exact Draft.extend_named namedD tag id op
  · rintro services ⟨draft, named, made⟩ s member
    obtain ⟨⟨s0, inDraft, same⟩, _⟩ := made s member
    exact (named s0 inDraft).of_core same

end Operations

namespace Selection

/-- A table that looks like a keyed one but for examples and last marks is keyed. -/
theorem Keyed.of_viewed {t t' : Table Model} (keyed : Keyed t)
    (same : Api.viewed Model.core t' = Api.viewed Model.core t) : Keyed t' where
  key_eq e' member := by
    obtain ⟨e, inT, sameKey, sameCore⟩ := Api.exists_of_viewed same member
    have sameClass : e.2.className = e'.2.className := (congrArg Model.className sameCore :)
    rw [← sameKey, keyed.key_eq e inT, sameClass]
  distinct := Api.keys_of_viewed same ▸ keyed.distinct

end Selection

namespace Api

open Selection Models Operations

/-- What the files of a compiled API are named after: its models are filed under the keys of
their class names, made of word characters, with their files named after them; its services
have their classes and files named after their tags. -/
structure Filed (config : Config) (api : Api) : Prop where
  keyed : Keyed api.models
  words : ∀ e ∈ api.models, WordName e.2.className
  models : ∀ e ∈ api.models, FilesNamed config e.2
  services : ∀ e ∈ api.services, ServiceNamed config e.2

/-- Whenever a document compiles, the files of its models and services are named after their
classes. -/
theorem compile_filed (config : Config) (doc : Value) :
    Logged.Ensures (compile config doc) (Filed config) := by
  refine (compile_tables config doc).mono ?_
  rintro api ⟨built, services, builtGiven, servicesGiven, models, servicesViewed⟩
  obtain ⟨keyed, words, -⟩ := (Models.build_covers config _).gives builtGiven
  have modelsNamed := (build_filesNamed config _).gives builtGiven
  have servicesNamed := (build_servicesNamed config doc built).gives servicesGiven
  refine ⟨(keyed.keptModels _ services).of_viewed models, ?_, ?_, ?_⟩
  · intro e' member
    obtain ⟨e, kept, _, sameCore⟩ := exists_of_viewed models member
    exact (congrArg Model.className sameCore :) ▸ words e (mem_keptModels kept)
  · intro e' member
    obtain ⟨e, kept, _, sameCore⟩ := exists_of_viewed models member
    exact (modelsNamed e (mem_keptModels kept)).of_same
      (congrArg Model.className sameCore).symm (congrArg Model.fileName sameCore).symm
      (congrArg Model.exampleFile sameCore).symm
  · intro e' member
    obtain ⟨e, kept, _, sameView⟩ := exists_of_viewed servicesViewed member
    have inServices : e ∈ services := (List.mem_filter.mp kept).1
    exact (servicesNamed e inServices).of_core (congrArg Service.core sameView).symm

end Api

/-! ## The paths render writes -/

namespace Render

/-- The keys of a table after putting under each of `paths` in turn: a path that is no key yet
comes at the end, and one that is keeps its place. -/
def putKeys (keys paths : List String) : List String :=
  paths.foldl (fun keys p => if p ∈ keys then keys else keys ++ [p]) keys

theorem keys_put {files : Table String} (path text : String) :
    (files.put path text).keys = putKeys files.keys [path] :=
  Table.keys_put files path text

theorem putKeys_append (keys xs ys : List String) :
    putKeys keys (xs ++ ys) = putKeys (putKeys keys xs) ys :=
  List.foldl_append

/-- Putting under paths met for the first time adds them at the end, in order. -/
theorem putKeys_of_nodup (keys paths : List String) (distinct : (keys ++ paths).Nodup) :
    putKeys keys paths = keys ++ paths := by
  induction paths generalizing keys with
  | nil => simp [putKeys]
  | cons p rest ih =>
    have fresh : p ∉ keys := fun member =>
      (List.nodup_append.mp distinct).2.2 p member p List.mem_cons_self rfl
    have shifted : (keys ++ [p] ++ rest).Nodup := by simpa using distinct
    change putKeys (if p ∈ keys then keys else keys ++ [p]) rest = _
    rw [if_neg fresh, ih _ shifted, List.append_assoc, List.singleton_append]

theorem Context.of_config (config : Config) (rootUrl : String) :
    (Context.of config rootUrl).config = config := by
  simp only [Context.of]

/-- Whether a model gets an example file: examples are on and it has an example. -/
def writesExample (config : Config) (m : Model) : Bool :=
  config.generateExamples && !(m.sample matches .null)

/-- The path of a model's file. -/
def modelPath (m : Model) : String := "models/" ++ m.fileName ++ ".ts"

/-- The path of a model's example file. -/
def examplePath (m : Model) : String := "models/" ++ m.exampleFile ++ ".ts"

/-- The path of a service's file. -/
def servicePath (s : Service) : String := "services/" ++ s.serviceFile ++ ".ts"

/-- The paths of a model's files: its own and, when it gets one, its example's. -/
def modelPaths (config : Config) (m : Model) : List String :=
  modelPath m :: if writesExample config m then [examplePath m] else []

/-- A path, when it is wanted. -/
def pathWhen (wanted : Bool) (path : String) : List String := if wanted then [path] else []

theorem pathWhen_true (path : String) : pathWhen true path = [path] := rfl

/-- The paths of the files written after the services, in order: the service index and the
module when they are on, the configuration, the strict response type and the base service. -/
def closingPaths (config : Config) (ctx : Context) : List String :=
  pathWhen config.serviceIndex "services.ts" ++ pathWhen config.apiModule (ctx.moduleFile ++ ".ts") ++
    [ctx.configurationFile ++ ".ts", "strict-http-response.ts", "base-service.ts"]

/-- The path of each file a compiled API renders to, in the order they are written; one path may
come more than once. -/
def writtenPaths (config : Config) (api : Api) : List String :=
  api.models.values.flatMap (modelPaths config) ++ pathWhen config.modelIndex "models.ts" ++
    api.services.values.map servicePath ++ closingPaths config (Context.of config api.rootUrl)

/-- The keys of a table after a run of puts are those of `putKeys`. -/
theorem keys_putAll (files : Table String) (entries : List (String × String)) :
    (files.putAll entries).keys = putKeys files.keys (entries.map Prod.fst) := by
  induction entries generalizing files with
  | nil => rfl
  | cons e rest ih =>
    have step : files.putAll (e :: rest) = (files.put e.1 e.2).putAll rest := rfl
    rw [step, ih, keys_put]
    exact (putKeys_append files.keys [e.1] (rest.map Prod.fst)).symm

/-- A model adds its file and, when it gets one, its example's, in that order. -/
theorem addModel_putAll {ctx : Context} {api : Api} {files files' : Table String} {m : Model}
    (added : addModel ctx api files m = .ok files') :
    ∃ entries, entries.map Prod.fst = modelPaths ctx.config m ∧ files' = files.putAll entries := by
  unfold addModel at added
  obtain ⟨text, _, added⟩ := except_bind_ok added
  dsimp only at added
  rw [ite_eq_iff] at added
  rcases added with ⟨writes, added⟩ | ⟨skips, added⟩
  · obtain ⟨sampleText, _, added⟩ := except_bind_ok added
    cases added
    refine ⟨[(modelPath m, trimLines text), (examplePath m, trimLines sampleText)], ?_, rfl⟩
    rw [modelPaths, if_pos (show writesExample ctx.config m = true from writes)]
    rfl
  · cases added
    refine ⟨[(modelPath m, trimLines text)], ?_, rfl⟩
    rw [modelPaths, if_neg (show ¬writesExample ctx.config m = true from skips)]
    rfl

/-- A service adds its one file. -/
theorem addService_putAll {ctx : Context} {api : Api} {files files' : Table String} {s : Service}
    (added : addService ctx api files s = .ok files') :
    ∃ entries, entries.map Prod.fst = [servicePath s] ∧ files' = files.putAll entries := by
  obtain ⟨text, _, added⟩ := except_bind_ok added
  cases added
  exact ⟨[(servicePath s, trimLines text)], rfl, rfl⟩

/-- A fold whose every turn puts a run of entries puts their concatenation, turn by turn. -/
theorem foldlM_putAll {γ : Type} (step : Table String → γ → Except Fault (Table String))
    (paths : γ → List String)
    (each : ∀ (files files' : Table String) (x : γ), step files x = .ok files' →
      ∃ entries, entries.map Prod.fst = paths x ∧ files' = files.putAll entries) :
    ∀ (xs : List γ) {files files' : Table String}, xs.foldlM step files = .ok files' →
      ∃ entries, entries.map Prod.fst = xs.flatMap paths ∧ files' = files.putAll entries
  | [], files, files', added => by
    cases added
    exact ⟨[], rfl, rfl⟩
  | x :: rest, files, files', added => by
    rw [List.foldlM_cons] at added
    obtain ⟨mid, first, added⟩ := except_bind_ok added
    obtain ⟨own, ownPaths, rfl⟩ := each _ _ _ first
    obtain ⟨others, otherPaths, rfl⟩ := foldlM_putAll step paths each rest added
    refine ⟨own ++ others, ?_, (Table.putAll_append _ _ _).symm⟩
    rw [List.map_append, ownPaths, otherPaths, List.flatMap_cons]

theorem addWhen_eq_putAll (wanted : Bool) (path text : String) (files : Table String) :
    addWhen wanted path text files =
      files.putAll ((pathWhen wanted path).map fun p => (p, trimLines text)) := by
  unfold addWhen pathWhen
  split <;> rfl

/-- The files a compiled API renders to are the files written, each put under its path in
turn, starting from no file. -/
theorem render_putAll {config : Config} {api : Api} {files : Table String}
    (rendered : render config api = .ok files) :
    ∃ entries : List (String × String), entries.map Prod.fst = writtenPaths config api ∧
      files = Table.putAll [] entries := by
  unfold render at rendered
  obtain ⟨afterModels, modelsAdded, rendered⟩ := except_bind_ok rendered
  obtain ⟨afterServices, servicesAdded, rendered⟩ := except_bind_ok rendered
  cases rendered
  obtain ⟨models, modelPaths, rfl⟩ := foldlM_putAll (addModel _ api) _
    (fun _ _ _ => addModel_putAll) _ modelsAdded
  obtain ⟨services, servicePaths, rfl⟩ := foldlM_putAll (addService _ api)
    (fun s => [servicePath s]) (fun _ _ _ => addService_putAll) _ servicesAdded
  rw [← List.map_eq_flatMap] at servicePaths
  simp only [addWhen_eq_putAll, ← Table.putAll_append]
  refine ⟨_, ?_, rfl⟩
  simp only [List.map_append, List.map_map, Function.comp_def, List.map_id', modelPaths,
    servicePaths, Context.of_config, writtenPaths, closingPaths, pathWhen_true,
    List.append_assoc, List.cons_append, List.nil_append, List.map_cons, List.map_nil]

/-- The files a compiled API renders to are filed under the paths written, each once, in the
order in which each was first written. -/
theorem render_keys {config : Config} {api : Api} {files : Table String}
    (rendered : render config api = .ok files) :
    files.keys = putKeys [] (writtenPaths config api) := by
  obtain ⟨entries, paths, rfl⟩ := render_putAll rendered
  rw [keys_putAll, paths]
  rfl

/-- Under each path, the files a compiled API renders to hold the text of the last file written
there. -/
theorem render_texts {config : Config} {api : Api} {files : Table String}
    (rendered : render config api = .ok files) :
    ∃ entries : List (String × String), entries.map Prod.fst = writtenPaths config api ∧
      ∀ path, files.get? path = (entries.reverse.find? (·.1 = path)).map Prod.snd := by
  obtain ⟨entries, paths, rfl⟩ := render_putAll rendered
  refine ⟨entries, paths, fun path => ?_⟩
  rw [Table.get?_putAll, Table.get?_nil, Option.or_none]

/-! ## Distinct artifacts, distinct paths -/

/-- No model's example file is named as the file of a model, itself included. -/
def ExamplesApart (config : Config) (api : Api) : Prop :=
  ∀ m ∈ api.models.values, writesExample config m = true →
    ∀ m' ∈ api.models.values, m.exampleFile ≠ m'.fileName

instance (config : Config) (api : Api) : Decidable (ExamplesApart config api) :=
  List.decidableBAll _ _

/-- No two services have class names that differ only in letter case. -/
def ServiceClassesApart (api : Api) : Prop :=
  (api.services.values.map fun s => modelKey s.serviceClass).Nodup

instance (api : Api) : Decidable (ServiceClassesApart api) :=
  List.nodupDecidable _

theorem stem_eq_of_path_eq {folder x y : String}
    (same : folder ++ x ++ ".ts" = folder ++ y ++ ".ts") : x = y := by
  rw [← String.toList_inj] at same ⊢
  simp only [String.toList_append] at same
  exact List.append_cancel_left (List.append_cancel_right same)

/-- Two word names whose file stems, each followed by one suffix, agree have one key. -/
theorem modelKey_eq_of_suffixed {a b suffix : String} (wordA : WordName a) (wordB : WordName b)
    (same : fileName a ++ suffix = fileName b ++ suffix) : modelKey a = modelKey b := by
  have stems : (fileName a).toList = (fileName b).toList := by
    have chars := congrArg String.toList same
    simp only [String.toList_append] at chars
    exact List.append_cancel_right chars
  exact modelKey_eq_of_fileName_eq wordA wordB (String.toList_inj.mp stems)

theorem mem_modelPaths {config : Config} {m : Model} {path : String} :
    path ∈ modelPaths config m ↔
      path = modelPath m ∨ writesExample config m = true ∧ path = examplePath m := by
  unfold modelPaths
  split <;> simp [*]

theorem modelPaths_in_folder {config : Config} {m : Model} {path : String}
    (member : path ∈ modelPaths config m) : "models/".toList <+: path.toList := by
  rcases mem_modelPaths.mp member with rfl | ⟨_, rfl⟩ <;>
    simp [modelPath, examplePath, String.toList_append]

theorem servicePath_in_folder (s : Service) : "services/".toList <+: (servicePath s).toList := by
  simp [servicePath, String.toList_append]

/-- The files of the models lie in their folder and those of the services in theirs. -/
theorem models_services_apart {l : List Char} (models : "models/".toList <+: l)
    (services : "services/".toList <+: l) : False := by
  rcases List.prefix_or_prefix_of_prefix models services with within | within <;>
    exact absurd within (by decide)

theorem slash_of_prefix {folder l : List Char} (within : folder <+: l) (slash : '/' ∈ folder) :
    '/' ∈ l :=
  within.subset slash

section Distinct

variable {config : Config} {api : Api}

/-- The files of distinct models are distinct, and so are their examples; a model's example is apart
from every model's file when the examples are apart. Two files of one kind with one path have one
stem, so their models have one key. -/
theorem modelPaths_nodup (filed : Api.Filed config api) (apart : ExamplesApart config api) :
    (api.models.values.flatMap (modelPaths config)).Nodup := by
  have named : ∀ m ∈ api.models.values, WordName m.className ∧ Models.FilesNamed config m := by
    intro m member
    obtain ⟨e, inModels, rfl⟩ := List.mem_map.mp member
    exact ⟨filed.words e inModels, filed.models e inModels⟩
  have keysDistinct : (api.models.values.map fun m => modelKey m.className).Nodup := by
    have keys : api.models.values.map (fun m => modelKey m.className) = api.models.keys := by
      simp only [Table.values, Table.keys, List.map_map]
      exact List.map_congr_left fun e member => (filed.keyed.key_eq e member).symm
    exact keys ▸ filed.keyed.distinct
  rw [List.nodup_flatMap]
  refine ⟨fun m member => ?_, ?_⟩
  · unfold modelPaths
    split
    · next writes =>
      refine List.nodup_cons.mpr ⟨fun same => ?_, List.nodup_singleton _⟩
      exact apart m member writes m member (stem_eq_of_path_eq (List.mem_singleton.mp same)).symm
    · exact List.nodup_singleton _
  · refine (List.pairwise_map.mp keysDistinct).imp_of_mem ?_
    intro m m' member member' distinctKeys path inM inM'
    obtain ⟨word, mNamed⟩ := named m member
    obtain ⟨word', mNamed'⟩ := named m' member'
    rcases mem_modelPaths.mp inM with rfl | ⟨writes, rfl⟩ <;>
      rcases mem_modelPaths.mp inM' with same | ⟨writes', same⟩
    · have stems := stem_eq_of_path_eq same
      rw [mNamed.modelFile, mNamed'.modelFile] at stems
      exact distinctKeys (modelKey_eq_of_suffixed word word' stems)
    · exact apart m' member' writes' m member (stem_eq_of_path_eq same).symm
    · exact apart m member writes m' member' (stem_eq_of_path_eq same)
    · have stems := stem_eq_of_path_eq same
      rw [mNamed.exampleFile, mNamed'.exampleFile] at stems
      exact distinctKeys (modelKey_eq_of_suffixed word word' stems)

theorem wordName_service : WordName "Service" :=
  wordName_of_all (by decide)

/-- The files of services are distinct when their class names differ other than in case. -/
theorem servicePaths_nodup (filed : Api.Filed config api) (apart : ServiceClassesApart api) :
    (api.services.values.map servicePath).Nodup := by
  refine List.Nodup.map_on ?_ (List.Nodup.of_map _ apart)
  intro s member s' member' same
  refine List.inj_on_of_nodup_map apart member member' ?_
  obtain ⟨e, inServices, rfl⟩ := List.mem_map.mp member
  obtain ⟨e', inServices', rfl⟩ := List.mem_map.mp member'
  have named := filed.services e inServices
  have named' := filed.services e' inServices'
  have stems := stem_eq_of_path_eq same
  rw [named.serviceFile, named'.serviceFile] at stems
  have keys := modelKey_eq_of_suffixed (className_wordName _) (className_wordName _) stems
  show modelKey e.2.serviceClass = modelKey e'.2.serviceClass
  rw [named.serviceClass, named'.serviceClass, modelKey_append (className_wordName _) wordName_service,
    modelKey_append (className_wordName _) wordName_service, keys]

end Distinct

/-! ## The files written besides the tables -/

/-- A path when wanted ends with an ending when wanted. -/
theorem forall₂_pathWhen (wanted : Bool) {path ending : String}
    (ends : ending.toList <:+ path.toList) :
    List.Forall₂ (fun p t => t.toList <:+ p.toList) (pathWhen wanted path) (pathWhen wanted ending) := by
  cases wanted
  · exact .nil
  · exact .cons ends .nil

theorem exists_ending {paths endings : List String}
    (ends : List.Forall₂ (fun p t => t.toList <:+ p.toList) paths endings) {path : String}
    (member : path ∈ paths) : ∃ t ∈ endings, t.toList <:+ path.toList := by
  induction ends with
  | nil => cases member
  | @cons p t ps ts here _ ih =>
    rcases List.mem_cons.mp member with rfl | later
    · exact ⟨t, List.mem_cons_self, here⟩
    · obtain ⟨t', inTs, ends'⟩ := ih later
      exact ⟨t', List.mem_cons_of_mem t inTs, ends'⟩

/-- Paths that each end with their own ending are distinct when no ending ends another. -/
theorem nodup_of_endings {paths endings : List String}
    (ends : List.Forall₂ (fun p t => t.toList <:+ p.toList) paths endings)
    (apart : endings.Pairwise fun t t' => ¬t.toList <:+ t'.toList ∧ ¬t'.toList <:+ t.toList) :
    paths.Nodup := by
  induction ends with
  | nil => exact List.nodup_nil
  | @cons p t ps ts here rest ih =>
    obtain ⟨others, apartRest⟩ := List.pairwise_cons.mp apart
    refine List.nodup_cons.mpr ⟨fun member => ?_, ih apartRest⟩
    obtain ⟨t', later, ends'⟩ := exists_ending rest member
    rcases List.suffix_or_suffix_of_suffix here ends' with first | second
    · exact (others t' later).1 first
    · exact (others t' later).2 second

theorem suffix_append_ts {ending stem : String} (ends : ending.toList <:+ stem.toList) :
    (ending ++ ".ts").toList <:+ (stem ++ ".ts").toList := by
  obtain ⟨front, joined⟩ := ends
  exact ⟨front, by rw [String.toList_append, String.toList_append, ← joined, List.append_assoc]⟩

theorem Context.of_moduleFile (config : Config) (rootUrl : String) :
    (Context.of config rootUrl).moduleFile =
      moduleFileOf (className (config.apiName ++ "Module")) := by
  simp only [Context.of]

theorem Context.of_configurationFile (config : Config) (rootUrl : String) :
    (Context.of config rootUrl).configurationFile =
      fileName (className (config.apiName ++ "Configuration")) := by
  simp only [Context.of]

set_option maxRecDepth 4000 in
/-- The module file's stem ends with `module`, whatever the name of the API. -/
theorem module_suffix (config : Config) (rootUrl : String) :
    "module".toList <:+ (Context.of config rootUrl).moduleFile.toList := by
  have stem : "module".toList <:+
      (fileName (className (config.apiName ++ "Module"))).toList := by
    have ends := @fileName_className_suffix config.apiName "Module" 'M' "odule".toList rfl
      (by decide) (by decide) (wordName_of_all (by decide))
    rwa [show fileName "Module" = "module" by with_unfolding_all rfl] at ends
  rw [Context.of_moduleFile]
  unfold moduleFileOf
  dsimp only
  split
  · rw [String.toList_append]
    exact List.IsSuffix.trans ⟨['.'], rfl⟩ (List.suffix_append _ _)
  · exact stem

set_option maxRecDepth 4000 in
/-- The configuration file's stem ends with `configuration`, whatever the name of the API. -/
theorem configuration_suffix (config : Config) (rootUrl : String) :
    "configuration".toList <:+ (Context.of config rootUrl).configurationFile.toList := by
  have ends := @fileName_className_suffix config.apiName "Configuration" 'C'
    "onfiguration".toList rfl (by decide) (by decide) (wordName_of_all (by decide))
  rwa [show fileName "Configuration" = "configuration" by with_unfolding_all rfl,
    ← Context.of_configurationFile config rootUrl] at ends

/-- The files written besides the tables, the model index first: no two end alike. -/
theorem fixedPaths_nodup (config : Config) (rootUrl : String) :
    (pathWhen config.modelIndex "models.ts" ++ closingPaths config (Context.of config rootUrl)).Nodup := by
  have allApart : ["models.ts", "services.ts", "module.ts", "configuration.ts",
      "strict-http-response.ts", "base-service.ts"].Pairwise
      (fun t t' : String => ¬t.toList <:+ t'.toList ∧ ¬t'.toList <:+ t.toList) := by
    decide
  have only : ∀ (wanted : Bool) (path : String), (pathWhen wanted path).Sublist [path] := by
    intro wanted path
    cases wanted
    · exact List.nil_sublist _
    · exact List.Sublist.refl _
  have chosen : (pathWhen config.modelIndex "models.ts" ++ (pathWhen config.serviceIndex "services.ts" ++
      pathWhen config.apiModule "module.ts" ++ ["configuration.ts", "strict-http-response.ts",
        "base-service.ts"])).Sublist ["models.ts", "services.ts", "module.ts", "configuration.ts",
          "strict-http-response.ts", "base-service.ts"] :=
    (only _ _).append (((only _ _).append (only _ _)).append (List.Sublist.refl _))
  have moduleEnds : "module.ts".toList <:+ ((Context.of config rootUrl).moduleFile ++ ".ts").toList := by
    have ends := suffix_append_ts (module_suffix config rootUrl)
    rwa [show "module" ++ ".ts" = "module.ts" by decide] at ends
  have configurationEnds : "configuration.ts".toList <:+
      ((Context.of config rootUrl).configurationFile ++ ".ts").toList := by
    have ends := suffix_append_ts (configuration_suffix config rootUrl)
    rwa [show "configuration" ++ ".ts" = "configuration.ts" by decide] at ends
  refine nodup_of_endings ?_ (allApart.sublist chosen)
  exact List.rel_append (forall₂_pathWhen _ List.suffix_rfl) (List.rel_append
    (List.rel_append (forall₂_pathWhen _ List.suffix_rfl) (forall₂_pathWhen _ moduleEnds))
    (.cons configurationEnds (.cons List.suffix_rfl (.cons List.suffix_rfl .nil))))

/-- No file written besides the tables lies in a folder. -/
theorem slash_not_mem_fixed (config : Config) (rootUrl : String) :
    ∀ path ∈ pathWhen config.modelIndex "models.ts" ++ closingPaths config (Context.of config rootUrl),
      '/' ∉ path.toList := by
  have moduleStem : '/' ∉ (Context.of config rootUrl).moduleFile.toList := by
    rw [Context.of_moduleFile]
    have stem := slash_not_mem_fileName (className_wordName (config.apiName ++ "Module"))
    unfold moduleFileOf
    dsimp only
    split
    · rw [String.toList_append, Text.takeChars, String.toList_ofList, List.mem_append, not_or]
      exact ⟨fun taken => stem (List.mem_of_mem_take taken), by decide⟩
    · exact stem
  have configurationStem : '/' ∉ (Context.of config rootUrl).configurationFile.toList := by
    rw [Context.of_configurationFile]
    exact slash_not_mem_fileName (className_wordName _)
  intro path member
  simp only [closingPaths, pathWhen, List.mem_append] at member
  rcases member with models | ((services | module) | rest)
  · split at models
    · rw [List.mem_singleton.mp models]
      decide
    · cases models
  · split at services
    · rw [List.mem_singleton.mp services]
      decide
    · cases services
  · split at module
    · rw [List.mem_singleton.mp module, String.toList_append, List.mem_append, not_or]
      exact ⟨moduleStem, by decide⟩
    · cases module
  · simp only [List.mem_cons, List.not_mem_nil, or_false] at rest
    rcases rest with rfl | rfl | rfl
    · rw [String.toList_append, List.mem_append, not_or]
      exact ⟨configurationStem, by decide⟩
    · decide
    · decide

/-- When the examples are apart from the models' files and the services' class names differ other
than in case, every artifact is written to its own path. -/
theorem writtenPaths_nodup {config : Config} {api : Api} (filed : Api.Filed config api)
    (examples : ExamplesApart config api) (classes : ServiceClassesApart api) :
    (writtenPaths config api).Nodup := by
  have fixed := fixedPaths_nodup config api.rootUrl
  have unslashed := slash_not_mem_fixed config api.rootUrl
  have models := modelPaths_nodup filed examples
  have services := servicePaths_nodup filed classes
  have modelSlash : ∀ x ∈ api.models.values.flatMap (modelPaths config), '/' ∈ x.toList := by
    intro x member
    obtain ⟨m, _, inM⟩ := List.mem_flatMap.mp member
    exact slash_of_prefix (modelPaths_in_folder inM) (by decide)
  have serviceSlash : ∀ y ∈ api.services.values.map servicePath, '/' ∈ y.toList := by
    intro y member
    obtain ⟨s, _, rfl⟩ := List.mem_map.mp member
    exact slash_of_prefix (servicePath_in_folder s) (by decide)
  obtain ⟨indexNodup, closingNodup, indexApart⟩ := List.nodup_append.mp fixed
  unfold writtenPaths
  refine List.nodup_append.mpr ⟨List.nodup_append.mpr ⟨List.nodup_append.mpr ⟨models,
    indexNodup, ?_⟩, services, ?_⟩, closingNodup, ?_⟩
  · intro x inModels y inIndex same
    exact unslashed y (List.mem_append_left _ inIndex) (same ▸ modelSlash x inModels)
  · intro x inFirst y inServices same
    rcases List.mem_append.mp inFirst with inModels | inIndex
    · obtain ⟨m, _, inM⟩ := List.mem_flatMap.mp inModels
      obtain ⟨s, _, rfl⟩ := List.mem_map.mp inServices
      exact models_services_apart (same ▸ modelPaths_in_folder inM) (servicePath_in_folder s)
    · exact unslashed x (List.mem_append_left _ inIndex) (same ▸ serviceSlash y inServices)
  · intro x inFirst y inClosing same
    rcases List.mem_append.mp inFirst with inFirst | inServices
    · rcases List.mem_append.mp inFirst with inModels | inIndex
      · exact unslashed y (List.mem_append_right _ inClosing) (same ▸ modelSlash x inModels)
      · exact indexApart x inIndex y inClosing same
    · exact unslashed y (List.mem_append_right _ inClosing) (same ▸ serviceSlash x inServices)

/-- Whenever a document compiles and its API renders, the files are filed under the paths the
artifacts are written to, each once, in the order in which each was first written: the file of
each model and, when examples are on and it has one, of its example; the model index; the file
of each service; the service index and the module; the configuration, the strict response type
and the base service. Each artifact has a file of its own unless a model's example is named as
the file of a model or two services have class names that differ only in letter case. -/
theorem render_writes_each_file_once (config : Config) (doc : Value) :
    Logged.Ensures (Api.compile config doc) fun api => ∀ files, render config api = .ok files →
      files.keys = putKeys [] (writtenPaths config api) ∧
      (ExamplesApart config api → ServiceClassesApart api →
        files.keys = writtenPaths config api) := by
  refine (Api.compile_filed config doc).mono ?_
  intro api filed files rendered
  refine ⟨render_keys rendered, fun examples classes => ?_⟩
  have distinct : ([] ++ writtenPaths config api).Nodup := writtenPaths_nodup filed examples classes
  rw [render_keys rendered, putKeys_of_nodup [] _ distinct, List.nil_append]

/-- The options of a run that writes examples and keeps unused models, with no indexes and no
module. -/
def examplesConfig : Config :=
  { Config.default with
    generateExamples := true, ignoreUnusedModels := false, modelIndex := false,
    serviceIndex := false, apiModule := false }

/-- A model `Pet` with an example, and an operation under the tag `pets` that returns it. -/
def petExampleDocument : Value := .object [
  ("swagger", .str "2.0"),
  ("definitions", .object [
    ("Pet", .object [("type", .str "object"), ("example", .object [("name", .str "Rex")])])]),
  ("paths", .object [("/pets", .object [("get", .object [
    ("tags", .list [.str "pets"]), ("operationId", .str "getPet"),
    ("responses", .object [("200", .object [("description", .str "ok"),
      ("schema", .object [("$ref", .str "#/definitions/Pet")])])])])])])]

theorem render_writes_each_file_once_pets :
    ∃ api after files,
      (Api.compile examplesConfig petExampleDocument).runFrom #[] = (.ok api, after) ∧
      render examplesConfig api = .ok files ∧ ExamplesApart examplesConfig api ∧
      ServiceClassesApart api ∧ files.keys = writtenPaths examplesConfig api := by
  have checked : (((Api.compile examplesConfig petExampleDocument).runFrom #[]).1.toOption.bind
      fun api => (render examplesConfig api).toOption.map fun _ =>
        decide (ExamplesApart examplesConfig api) && decide (ServiceClassesApart api)) = some true := by
    decide +kernel
  rcases ran : (Api.compile examplesConfig petExampleDocument).runFrom #[] with ⟨_ | api, after⟩
  · rw [ran] at checked
    cases checked
  have reduced : ((render examplesConfig api).toOption.map fun _ =>
      decide (ExamplesApart examplesConfig api) && decide (ServiceClassesApart api)) = some true := by
    rw [ran] at checked
    exact checked
  rcases rendered : render examplesConfig api with _ | files
  · rw [rendered] at reduced
    cases reduced
  rw [rendered] at reduced
  have both := Option.some.inj reduced
  simp only [Bool.and_eq_true, decide_eq_true_eq] at both
  obtain ⟨examples, classes⟩ := both
  exact ⟨api, after, files, rfl, rendered, examples, classes,
    (render_writes_each_file_once examplesConfig petExampleDocument #[] api after ran files
      rendered).2 examples classes⟩

/-- A model `Pet` with an example beside a model `PetExample`. -/
def exampleClashDocument : Value := .object [
  ("swagger", .str "2.0"),
  ("definitions", .object [
    ("Pet", .object [("type", .str "object"), ("example", .object [("a", .int 1)])]),
    ("PetExample", .object [("type", .str "object")])])]

/-- Two operations whose tags differ only in letter case. -/
def caseTwinTagsDocument : Value := .object [
  ("swagger", .str "2.0"),
  ("paths", .object [
    ("/a", .object [("get", .object [("tags", .list [.str "APets"]), ("operationId", .str "a"),
      ("responses", .object [])])]),
    ("/b", .object [("get", .object [("tags", .list [.str "Apets"]), ("operationId", .str "b"),
      ("responses", .object [])])])])]

/-- Artifacts that share a path: the example of `Pet` is written where the file of `PetExample`
is, and the files of the services of the tags `APets` and `Apets` are one file; each time the
later text is kept and one artifact is lost. -/
theorem render_overwrites_shared_paths :
    (((Api.compile examplesConfig exampleClashDocument).runFrom #[]).1.toOption.bind fun api =>
      (render examplesConfig api).toOption.map fun files =>
        (writtenPaths examplesConfig api, files.keys)) =
      some (["models/pet.ts", "models/pet-example.ts", "models/pet-example.ts",
          "api-configuration.ts", "strict-http-response.ts", "base-service.ts"],
        ["models/pet.ts", "models/pet-example.ts", "api-configuration.ts",
          "strict-http-response.ts", "base-service.ts"]) ∧
    (((Api.compile examplesConfig caseTwinTagsDocument).runFrom #[]).1.toOption.bind fun api =>
      (render examplesConfig api).toOption.map fun files =>
        (writtenPaths examplesConfig api, files.keys)) =
      some (["services/apets.service.ts", "services/apets.service.ts", "api-configuration.ts",
          "strict-http-response.ts", "base-service.ts"],
        ["services/apets.service.ts", "api-configuration.ts", "strict-http-response.ts",
          "base-service.ts"]) := by
  constructor <;> decide +kernel

end Render

end ClientGen
