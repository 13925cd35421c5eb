import ClientGen.Log

/-!
# Running logged steps

A logged step appends records and never reads them back. `runFrom` runs a step after the
records kept so far; `Returns` says that a step succeeds with a given value and `Raises`
that it fails with a given fault, both whatever records came before. `Ensures` is what
holds of the value of a step whenever it succeeds. The rules below follow the shape of a
`do` block: binds, lifted results and loops over lists.
-/
namespace ClientGen.Logged

variable {α β γ : Type}

/-- A step run after the records `logs`: its outcome and the records then kept. -/
def runFrom (step : Logged α) (logs : Array LogRecord) : Except Fault α × Array LogRecord :=
  (ExceptT.run step).run logs

@[simp] theorem runFrom_pure (a : α) (logs : Array LogRecord) :
    (pure a : Logged α).runFrom logs = (.ok a, logs) := rfl

@[simp] theorem runFrom_throw (fault : Fault) (logs : Array LogRecord) :
    (throw fault : Logged α).runFrom logs = (.error fault, logs) := rfl

@[simp] theorem runFrom_note (level : Level) (origin : Origin) (message : String)
    (logs : Array LogRecord) :
    (note level origin message).runFrom logs = (.ok (), logs.push ⟨level, origin, message⟩) :=
  rfl

@[simp] theorem runFrom_lift (result : Except Fault α) (logs : Array LogRecord) :
    (lift result).runFrom logs = (result, logs) := by
  cases result <;> rfl

theorem runFrom_bind (x : Logged α) (f : α → Logged β) (logs : Array LogRecord) :
    (x >>= f).runFrom logs = match x.runFrom logs with
      | (.ok a, after) => (f a).runFrom after
      | (.error fault, after) => (.error fault, after) := by
  unfold runFrom ExceptT.run StateT.run
  simp only [bind, ExceptT.bind, ExceptT.mk, StateT.bind, ExceptT.bindCont]
  cases x logs with
  | mk result after => cases result <;> rfl

/-- A bind that succeeds ran both of its parts successfully. -/
theorem bind_success {x : Logged α} {f : α → Logged β} {logs after : Array LogRecord} {b : β}
    (success : (x >>= f).runFrom logs = (.ok b, after)) :
    ∃ a mid, x.runFrom logs = (.ok a, mid) ∧ (f a).runFrom mid = (.ok b, after) := by
  rw [runFrom_bind] at success
  rcases first : x.runFrom logs with ⟨_ | a, mid⟩
  · rw [first] at success
    cases success
  · rw [first] at success
    exact ⟨a, mid, rfl, success⟩

/-- The step succeeds with `a`, whatever records were kept before it. -/
def Returns (step : Logged α) (a : α) : Prop :=
  ∀ logs, (step.runFrom logs).1 = .ok a

/-- The step fails with `fault`, whatever records were kept before it. -/
def Raises (step : Logged α) (fault : Fault) : Prop :=
  ∀ logs, (step.runFrom logs).1 = .error fault

/-- Whenever the step succeeds, its value satisfies `post`. -/
def Ensures (step : Logged α) (post : α → Prop) : Prop :=
  ∀ logs a after, step.runFrom logs = (.ok a, after) → post a

/-- The step succeeds with `a` after some records. -/
def Gives (step : Logged α) (a : α) : Prop :=
  ∃ logs after, step.runFrom logs = (.ok a, after)

/-- Whatever a step succeeds with, it gives. -/
theorem ensures_gives (step : Logged α) : Ensures step (Gives step) :=
  fun logs _ after success => ⟨logs, after, success⟩

theorem Ensures.gives {step : Logged α} {P : α → Prop} {a : α} (holds : Ensures step P)
    (gives : Gives step a) : P a := by
  obtain ⟨logs, after, ran⟩ := gives
  exact holds logs a after ran

theorem returns_pure (a : α) : Returns (pure a : Logged α) a := fun _ => rfl

theorem returns_lift {a : α} : Returns (lift (.ok a)) a := fun _ => rfl

theorem raises_lift {fault : Fault} : Raises (lift (.error fault) : Logged α) fault := fun _ => rfl

/-- After a step that returns `a`, the rest runs as `f a` does, from the records the step
leaves. -/
theorem Returns.runFrom_bind {x : Logged α} {a : α} (first : Returns x a) (f : α → Logged β)
    (logs : Array LogRecord) : ∃ mid, (x >>= f).runFrom logs = (f a).runFrom mid := by
  rw [Logged.runFrom_bind]
  rcases step : x.runFrom logs with ⟨result, mid⟩
  have value : result = .ok a := by simpa [step] using first logs
  subst value
  exact ⟨mid, rfl⟩

theorem Returns.bind {x : Logged α} {f : α → Logged β} {a : α} {b : β}
    (first : Returns x a) (rest : Returns (f a) b) : Returns (x >>= f) b := by
  intro logs
  obtain ⟨mid, ran⟩ := first.runFrom_bind f logs
  rw [ran]
  exact rest mid

theorem returns_note_then (level : Level) (origin : Origin) (message : String) {next : Logged α}
    {a : α} (rest : Returns next a) : Returns (note level origin message >>= fun _ => next) a :=
  Returns.bind (fun _ => rfl) rest

theorem Raises.bind {x : Logged α} {f : α → Logged β} {fault : Fault}
    (first : Raises x fault) : Raises (x >>= f) fault := by
  intro logs
  rw [runFrom_bind]
  rcases step : x.runFrom logs with ⟨result, mid⟩
  have value : result = .error fault := by simpa [step] using first logs
  subst value
  rfl

theorem Returns.bind_raises {x : Logged α} {f : α → Logged β} {a : α} {fault : Fault}
    (first : Returns x a) (rest : Raises (f a) fault) : Raises (x >>= f) fault := by
  intro logs
  obtain ⟨mid, ran⟩ := first.runFrom_bind f logs
  rw [ran]
  exact rest mid

/-- A loop whose body always goes on to the next item returns the fold of its updates. -/
theorem returns_forIn (xs : List γ) (init : β) (body : γ → β → Logged (ForInStep β))
    (next : β → γ → β) (each : ∀ x r, Returns (body x r) (.yield (next r x))) :
    Returns (forIn xs init body) (xs.foldl next init) := by
  induction xs generalizing init with
  | nil => exact returns_pure init
  | cons x rest ih =>
    rw [List.forIn_cons, List.foldl_cons]
    exact (each x init).bind (ih (next init x))

theorem ensures_pure {a : α} {P : α → Prop} (holds : P a) : Ensures (pure a : Logged α) P := by
  intro logs b after success
  simp only [runFrom_pure, Prod.mk.injEq, Except.ok.injEq] at success
  exact success.1 ▸ holds

theorem ensures_pure_bind {a : α} {f : α → Logged β} {P : β → Prop} (next : Ensures (f a) P) :
    Ensures (pure a >>= f) P := by
  intro logs b after success
  rw [runFrom_bind, runFrom_pure] at success
  exact next logs b after success

theorem ensures_lift {result : Except Fault α} {P : α → Prop}
    (holds : ∀ a, result = .ok a → P a) : Ensures (lift result) P := by
  intro logs a after success
  rw [runFrom_lift] at success
  exact holds a (congrArg Prod.fst success)

/-- A step that fails ensures anything of the value it never gives. -/
theorem ensures_throw (fault : Fault) (P : α → Prop) : Ensures (throw fault : Logged α) P := by
  intro logs a after thrown
  simp at thrown

/-- Every step ensures what always holds; used for steps whose value is not looked at. -/
theorem ensures_true (step : Logged α) : Ensures step fun _ => True := fun _ _ _ _ => trivial

theorem ensures_ite {c : Prop} [Decidable c] {a b : Logged α} {P : α → Prop}
    (yes : Ensures a P) (no : Ensures b P) : Ensures (if c then a else b) P := by
  split
  · exact yes
  · exact no

theorem Ensures.bind {x : Logged α} {f : α → Logged β} {P : α → Prop} {Q : β → Prop}
    (first : Ensures x P) (rest : ∀ a, P a → Ensures (f a) Q) : Ensures (x >>= f) Q := by
  intro logs b after success
  obtain ⟨a, mid, ran, continued⟩ := bind_success success
  exact rest a (first logs a mid ran) mid b after continued

/-- A step that fails ends its sequence: nothing after it gives a value. -/
theorem ensures_throw_bind (fault : Fault) (f : α → Logged β) (P : β → Prop) :
    Ensures (throw fault >>= f) P :=
  Ensures.bind (ensures_throw fault fun _ => False) fun _ impossible => impossible.elim

theorem Ensures.mono {x : Logged α} {P Q : α → Prop} (holds : Ensures x P)
    (weaker : ∀ a, P a → Q a) : Ensures x Q :=
  fun logs a after success => weaker a (holds logs a after success)

theorem Ensures.and {x : Logged α} {P Q : α → Prop} (first : Ensures x P)
    (second : Ensures x Q) : Ensures x fun a => P a ∧ Q a :=
  fun logs a after success => ⟨first logs a after success, second logs a after success⟩

theorem Returns.ensures {x : Logged α} {a : α} (returns : Returns x a) : Ensures x (· = a) := by
  intro logs b after success
  have value := returns logs
  rw [success] at value
  cases value
  rfl

/-- A fold keeps an invariant that each of its steps keeps. -/
theorem ensures_foldlM (xs : List γ) (f : β → γ → Logged β) (init : β) (inv : β → Prop)
    (start : inv init) (each : ∀ acc x, x ∈ xs → inv acc → Ensures (f acc x) inv) :
    Ensures (xs.foldlM f init) inv := by
  induction xs generalizing init with
  | nil =>
    intro logs a after success
    simp only [List.foldlM_nil, runFrom_pure, Prod.mk.injEq, Except.ok.injEq] at success
    exact success.1 ▸ start
  | cons x rest ih =>
    rw [List.foldlM_cons]
    exact Ensures.bind (each init x (by simp) start) fun acc kept =>
      ih acc kept fun acc' y member => each acc' y (List.mem_cons_of_mem x member)

/-- The value of a step does not depend on the records kept before it. -/
def Oblivious (step : Logged α) : Prop :=
  ∀ logs logs', (step.runFrom logs).1 = (step.runFrom logs').1

theorem oblivious_pure (a : α) : Oblivious (pure a : Logged α) := fun _ _ => rfl

/-- A step that fails first fails whatever follows, from any records. -/
theorem oblivious_throw_bind (fault : Fault) (f : α → Logged β) :
    Oblivious (throw fault >>= f) := by
  intro logs logs'
  simp

theorem oblivious_lift (result : Except Fault α) : Oblivious (lift result) := by
  intro logs logs'
  simp

theorem oblivious_note (level : Level) (origin : Origin) (message : String) :
    Oblivious (note level origin message) := fun _ _ => rfl

theorem oblivious_ite {c : Prop} [Decidable c] {x y : Logged α} (yes : Oblivious x)
    (no : Oblivious y) : Oblivious (if c then x else y) := by
  split
  · exact yes
  · exact no

theorem Oblivious.bind {x : Logged α} {f : α → Logged β} (first : Oblivious x)
    (rest : ∀ a, Oblivious (f a)) : Oblivious (x >>= f) := by
  intro logs logs'
  have same := first logs logs'
  rw [runFrom_bind, runFrom_bind]
  rcases ran : x.runFrom logs with ⟨result, mid⟩
  rcases ran' : x.runFrom logs' with ⟨result', mid'⟩
  rw [ran, ran'] at same
  dsimp only at same
  subst same
  cases result with
  | error fault => rfl
  | ok a => exact rest a mid mid'

theorem oblivious_foldlM (xs : List γ) (f : β → γ → Logged β) (init : β)
    (each : ∀ acc x, Oblivious (f acc x)) : Oblivious (xs.foldlM f init) := by
  induction xs generalizing init with
  | nil => exact oblivious_pure init
  | cons x rest ih =>
    rw [List.foldlM_cons]
    exact (each init x).bind fun acc => ih acc

/-- Two successful runs of a step that reads no records give the same value. -/
theorem Oblivious.gives_eq {step : Logged α} (oblivious : Oblivious step) {a b : α}
    (gives : Gives step a) {logs after : Array LogRecord}
    (ran : step.runFrom logs = (.ok b, after)) : a = b := by
  obtain ⟨logs', after', ran'⟩ := gives
  have same := oblivious logs' logs
  rw [ran, ran'] at same
  cases same
  rfl

/-- A step that reads no records gives, whenever it succeeds, the value of any of its runs. -/
theorem Oblivious.ensures_unique {step : Logged α} (oblivious : Oblivious step) :
    Ensures step fun b => ∀ a, Gives step a → a = b :=
  fun _ _ _ ran _ gives => oblivious.gives_eq gives ran

/-! ## Two steps side by side -/

/-- Whenever both steps succeed, their values are related by `R`. -/
def Agree {δ : Type} (x : Logged α) (y : Logged δ) (R : α → δ → Prop) : Prop :=
  ∀ a b, Gives x a → Gives y b → R a b

section Agree

variable {δ ε : Type} {R : α → δ → Prop}

theorem Agree.bind {x : Logged α} {y : Logged δ} {f : α → Logged β} {g : δ → Logged ε}
    {S : β → ε → Prop} (first : Agree x y R) (rest : ∀ a b, R a b → Agree (f a) (g b) S) :
    Agree (x >>= f) (y >>= g) S := by
  rintro c e ⟨logs, after, ran⟩ ⟨logs', after', ran'⟩
  obtain ⟨a, mid, ranX, ranF⟩ := bind_success ran
  obtain ⟨b, mid', ranY, ranG⟩ := bind_success ran'
  exact rest a b (first a b ⟨_, _, ranX⟩ ⟨_, _, ranY⟩) c e ⟨_, _, ranF⟩ ⟨_, _, ranG⟩

/-- A step that reads no records agrees with itself. -/
theorem Oblivious.agree {x : Logged α} (oblivious : Oblivious x) : Agree x x Eq := by
  rintro a b gives ⟨logs, after, ran⟩
  exact oblivious.gives_eq gives ran

/-- One step that reads no records, then two continuations that agree on each of its values. -/
theorem Agree.bind_same {x : Logged α} {f : α → Logged β} {g : α → Logged ε}
    {S : β → ε → Prop} (oblivious : Oblivious x) (rest : ∀ a, Agree (f a) (g a) S) :
    Agree (x >>= f) (x >>= g) S :=
  oblivious.agree.bind fun a b same => by
    subst same
    exact rest a

/-- A step that reads no records, with what holds of its values, then two continuations that
agree on each of them. -/
theorem Agree.bind_same_ensures {x : Logged α} {f : α → Logged β} {g : α → Logged ε}
    {S : β → ε → Prop} {P : α → Prop} (oblivious : Oblivious x) (holds : Ensures x P)
    (rest : ∀ a, P a → Agree (f a) (g a) S) : Agree (x >>= f) (x >>= g) S := by
  rintro c e ⟨logs, after, ran⟩ ⟨logs', after', ran'⟩
  obtain ⟨a, mid, ranX, ranF⟩ := bind_success ran
  obtain ⟨b, mid', ranY, ranG⟩ := bind_success ran'
  have same : a = b := oblivious.gives_eq ⟨_, _, ranX⟩ ranY
  subst same
  exact rest a (holds logs a mid ranX) c e ⟨_, _, ranF⟩ ⟨_, _, ranG⟩

theorem Agree.of_ensures {x : Logged α} {y : Logged δ} {P : α → Prop} {Q : δ → Prop}
    (first : Ensures x P) (second : Ensures y Q) (related : ∀ a b, P a → Q b → R a b) :
    Agree x y R := by
  rintro a b ⟨logs, after, ran⟩ ⟨logs', after', ran'⟩
  exact related a b (first logs a after ran) (second logs' b after' ran')

theorem Returns.agree {x : Logged α} {y : Logged δ} {a : α} {b : δ} (first : Returns x a)
    (second : Returns y b) (related : R a b) : Agree x y R :=
  Agree.of_ensures first.ensures second.ensures fun a' b' sameA sameB => by
    subst sameA sameB
    exact related

theorem agree_pure {a : α} {b : δ} (related : R a b) : Agree (pure a) (pure b) R := by
  rintro a' b' ⟨logs, after, ran⟩ ⟨logs', after', ran'⟩
  simp only [runFrom_pure, Prod.mk.injEq, Except.ok.injEq] at ran ran'
  rw [← ran.1, ← ran'.1]
  exact related

theorem agree_lift {r : Except Fault α} {r' : Except Fault δ}
    (related : ∀ a b, r = .ok a → r' = .ok b → R a b) : Agree (lift r) (lift r') R := by
  rintro a b ⟨logs, after, ran⟩ ⟨logs', after', ran'⟩
  rw [runFrom_lift] at ran ran'
  exact related a b (congrArg Prod.fst ran) (congrArg Prod.fst ran')

/-- Two lifted results that are equal whenever both succeed, then two continuations that agree
on each value. -/
theorem agree_lift_bind {r r' : Except Fault α} {f : α → Logged β} {g : α → Logged ε}
    {S : β → ε → Prop} (same : ∀ a b, r = .ok a → r' = .ok b → b = a)
    (rest : ∀ a, Agree (f a) (g a) S) : Agree (lift r >>= f) (lift r' >>= g) S :=
  (agree_lift same).bind fun a b equal => by
    subst equal
    exact rest b

theorem agree_throw_bind {fault : Fault} {f : α → Logged β} {y : Logged ε}
    {S : β → ε → Prop} : Agree (throw fault >>= f) y S := by
  rintro c e ⟨logs, after, ran⟩ _
  obtain ⟨a, mid, thrown, _⟩ := bind_success ran
  cases thrown

/-- Two steps whose values are not compared, then continuations that agree on every pair of
values. -/
theorem agree_bind_of_forall {x : Logged α} {y : Logged δ} {f : α → Logged β}
    {g : δ → Logged ε} {S : β → ε → Prop} (rest : ∀ a b, Agree (f a) (g b) S) :
    Agree (x >>= f) (y >>= g) S := by
  rintro c e ⟨logs, after, ran⟩ ⟨logs', after', ran'⟩
  obtain ⟨a, mid, -, ranF⟩ := bind_success ran
  obtain ⟨b, mid', -, ranG⟩ := bind_success ran'
  exact rest a b c e ⟨_, _, ranF⟩ ⟨_, _, ranG⟩

/-- Two folds over one list agree when their steps do, from related starts. -/
theorem agree_foldlM (xs : List γ) {f : α → γ → Logged α} {g : δ → γ → Logged δ} {a : α} {b : δ}
    (start : R a b) (each : ∀ a b x, x ∈ xs → R a b → Agree (f a x) (g b x) R) :
    Agree (xs.foldlM f a) (xs.foldlM g b) R := by
  induction xs generalizing a b with
  | nil => exact agree_pure start
  | cons x rest ih =>
    rw [List.foldlM_cons, List.foldlM_cons]
    exact (each a b x (by simp) start).bind fun a' b' related =>
      ih related fun a b y member => each a b y (List.mem_cons_of_mem x member)

/-- A fold agrees with the fold over the items it keeps when each item left out keeps the
relation on its own. -/
theorem agree_foldlM_filter (xs : List γ) (keep : γ → Bool) {f : α → γ → Logged α}
    {g : δ → γ → Logged δ} {a : α} {b : δ} (start : R a b)
    (kept : ∀ a b x, x ∈ xs → keep x = true → R a b → Agree (f a x) (g b x) R)
    (dropped : ∀ a b x, x ∈ xs → keep x = false → R a b → Ensures (f a x) fun a' => R a' b) :
    Agree (xs.foldlM f a) ((xs.filter keep).foldlM g b) R := by
  induction xs generalizing a b with
  | nil => exact agree_pure start
  | cons x rest ih =>
    have restKept : ∀ a b y, y ∈ rest → keep y = true → R a b → Agree (f a y) (g b y) R :=
      fun a b y member => kept a b y (List.mem_cons_of_mem x member)
    have restDropped : ∀ a b y, y ∈ rest → keep y = false → R a b →
        Ensures (f a y) fun a' => R a' b :=
      fun a b y member => dropped a b y (List.mem_cons_of_mem x member)
    rw [List.foldlM_cons, List.filter_cons]
    cases keeps : keep x
    · rintro c e ⟨logs, after, ran⟩ gives
      obtain ⟨a', mid, first, rest'⟩ := bind_success ran
      have related := dropped a b x (by simp) keeps start logs a' mid first
      exact ih related restKept restDropped c e ⟨_, _, rest'⟩ gives
    · rw [if_pos rfl, List.foldlM_cons]
      exact (kept a b x (by simp) keeps start).bind fun a' b' related =>
        ih related restKept restDropped

end Agree

end ClientGen.Logged
