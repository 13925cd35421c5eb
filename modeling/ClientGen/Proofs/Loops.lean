import ClientGen.Fault

/-!
# Loops that can fail

The steps of the generator that do not log run in `Except Fault`. A loop over a list
succeeds only if every turn does, so what a successful loop computes is a fold of what its
turns compute (`forIn_eq_foldl`), and a fold keeps an invariant that its turns keep
(`foldlM_invariant`), and a successful map gives each value from an item (`mapM_ok_mem`).
Two loops over one list whose turns agree, when both succeed, agree too (`mapM_agree`,
`foldlM_agree`); a step that succeeds wherever another does gives the same success after
it (`bind_ok_of_imp`, `mapM_ok_of_imp`).
-/
namespace ClientGen

variable {α β γ : Type}

theorem except_bind_ok {x : Except Fault α} {f : α → Except Fault β} {b : β}
    (success : (x >>= f) = .ok b) : ∃ a, x = .ok a ∧ f a = .ok b := by
  cases x with
  | error fault => cases success
  | ok a => exact ⟨a, rfl, success⟩

/-- Two runs that both succeed, each binding the same first step, go on from one value. -/
theorem except_bind_ok_both {x : Except Fault α} {f g : α → Except Fault β} {b c : β}
    (first : (x >>= f) = .ok b) (second : (x >>= g) = .ok c) :
    ∃ a, x = .ok a ∧ f a = .ok b ∧ g a = .ok c := by
  obtain ⟨a, ran, continued⟩ := except_bind_ok first
  obtain ⟨a', ran', continued'⟩ := except_bind_ok second
  rw [ran, Except.ok.injEq] at ran'
  subst ran'
  exact ⟨a, ran, continued, continued'⟩

theorem exists_ok_of_isOk {x : Except Fault α} (succeeded : x.isOk = true) : ∃ a, x = .ok a := by
  cases x with
  | error fault => cases succeeded
  | ok a => exact ⟨a, rfl⟩

theorem except_map_ok {x : Except Fault α} {f : α → β} {b : β} (success : (f <$> x) = .ok b) :
    ∃ a, x = .ok a ∧ f a = b := by
  cases x with
  | error fault => cases success
  | ok a =>
    cases success
    exact ⟨a, rfl, rfl⟩

/-- A successful loop whose turns, when they succeed, go on with `next` computes the fold
of `next`. -/
theorem forIn_eq_foldl (xs : List γ) (init : β) (body : γ → β → Except Fault (ForInStep β))
    (next : β → γ → β) (each : ∀ x r r', body x r = .ok r' → r' = .yield (next r x))
    {result : β} (success : forIn xs init body = .ok result) :
    result = xs.foldl next init := by
  induction xs generalizing init with
  | nil =>
    simp only [List.forIn_nil] at success
    cases success
    rfl
  | cons x rest ih =>
    rw [List.forIn_cons] at success
    obtain ⟨r, turn, continued⟩ := except_bind_ok success
    rw [each x init r turn] at continued
    exact ih (next init x) continued

/-- A successful fold keeps an invariant that each of its turns keeps. -/
theorem foldlM_invariant (xs : List γ) (f : β → γ → Except Fault β) (init : β) (inv : β → Prop)
    (start : inv init) (each : ∀ acc x acc', x ∈ xs → inv acc → f acc x = .ok acc' → inv acc')
    {result : β} (success : xs.foldlM f init = .ok result) : inv result := by
  induction xs generalizing init with
  | nil =>
    simp only [List.foldlM_nil] at success
    cases success
    exact start
  | cons x rest ih =>
    rw [List.foldlM_cons] at success
    obtain ⟨acc, turn, continued⟩ := except_bind_ok success
    exact ih acc (each init x acc (by simp) start turn)
      (fun acc' y acc'' member => each acc' y acc'' (List.mem_cons_of_mem x member)) continued

/-- A successful fold keeps an invariant that may speak of the items still to come: each turn
takes the first of them away. -/
theorem foldlM_invariant_rest (xs : List γ) (f : β → γ → Except Fault β) (init : β)
    (inv : β → List γ → Prop) (start : inv init xs)
    (each : ∀ acc x rest acc', inv acc (x :: rest) → f acc x = .ok acc' → inv acc' rest)
    {result : β} (success : xs.foldlM f init = .ok result) : inv result [] := by
  induction xs generalizing init with
  | nil =>
    simp only [List.foldlM_nil] at success
    cases success
    exact start
  | cons x rest ih =>
    rw [List.foldlM_cons] at success
    obtain ⟨acc, turn, continued⟩ := except_bind_ok success
    exact ih acc (each init x rest acc start turn) continued

/-- A successful map over `x :: rest` maps `x`, then `rest`. -/
theorem mapM_cons_ok {f : γ → Except Fault β} {x : γ} {rest : List γ} {ys : List β}
    (mapped : (x :: rest).mapM f = .ok ys) :
    ∃ y others, f x = .ok y ∧ rest.mapM f = .ok others ∧ ys = y :: others := by
  rw [List.mapM_cons] at mapped
  obtain ⟨y, first, mapped⟩ := except_bind_ok mapped
  obtain ⟨others, more, mapped⟩ := except_bind_ok mapped
  cases mapped
  exact ⟨y, others, first, more, rfl⟩

/-- Every value of a successful map is the value of one of the items. -/
theorem mapM_ok_mem (f : γ → Except Fault β) :
    ∀ (xs : List γ) {ys : List β}, xs.mapM f = .ok ys → ∀ y ∈ ys, ∃ x ∈ xs, f x = .ok y
  | [], ys, mapped => by
    cases mapped
    intro y member
    cases member
  | x :: rest, ys, mapped => by
    obtain ⟨b, bs, first, others, rfl⟩ := mapM_cons_ok mapped
    intro y member
    rcases List.mem_cons.mp member with rfl | later
    · exact ⟨x, List.mem_cons_self, first⟩
    · obtain ⟨x', inRest, gives⟩ := mapM_ok_mem f rest others y later
      exact ⟨x', List.mem_cons_of_mem x inRest, gives⟩

/-- Every item of a successful map has its value among the values. -/
theorem mapM_ok_cover (f : γ → Except Fault β) :
    ∀ (xs : List γ) {ys : List β}, xs.mapM f = .ok ys → ∀ x ∈ xs, ∃ y ∈ ys, f x = .ok y
  | [], ys, mapped => by
    intro x member
    cases member
  | x :: rest, ys, mapped => by
    obtain ⟨b, bs, first, others, rfl⟩ := mapM_cons_ok mapped
    intro x' member
    rcases List.mem_cons.mp member with rfl | later
    · exact ⟨b, List.mem_cons_self, first⟩
    · obtain ⟨y, inRest, gives⟩ := mapM_ok_cover f rest others x' later
      exact ⟨y, List.mem_cons_of_mem b inRest, gives⟩

/-! ## Two loops over one list -/

/-- Two maps over one list that both succeed give the same values, when their functions give
the same value on every item where both succeed. -/
theorem mapM_agree {f g : γ → Except Fault β} :
    ∀ (xs : List γ), (∀ x ∈ xs, ∀ a b, f x = .ok a → g x = .ok b → b = a) →
      ∀ {ys zs : List β}, xs.mapM f = .ok ys → xs.mapM g = .ok zs → zs = ys
  | [], _, ys, zs, first, second => by
    cases first
    cases second
    rfl
  | x :: rest, each, ys, zs, first, second => by
    obtain ⟨a, as, headF, restF, rfl⟩ := mapM_cons_ok first
    obtain ⟨b, bs, headG, restG, rfl⟩ := mapM_cons_ok second
    have sameHead : b = a := each x List.mem_cons_self a b headF headG
    have sameRest : bs = as := mapM_agree rest
      (fun y member => each y (List.mem_cons_of_mem x member)) restF restG
    rw [sameHead, sameRest]

/-- Two folds over one list from one start that both succeed end alike, when their steps end
alike from every common state on every item. -/
theorem foldlM_agree {f g : β → γ → Except Fault β} :
    ∀ (xs : List γ) (init : β), (∀ acc x a b, x ∈ xs → f acc x = .ok a → g acc x = .ok b → b = a) →
      ∀ {r r' : β}, xs.foldlM f init = .ok r → xs.foldlM g init = .ok r' → r' = r
  | [], init, _, r, r', first, second => by
    cases first
    cases second
    rfl
  | x :: rest, init, each, r, r', first, second => by
    rw [List.foldlM_cons] at first second
    obtain ⟨a, stepF, first⟩ := except_bind_ok first
    obtain ⟨b, stepG, second⟩ := except_bind_ok second
    rw [each init x a b List.mem_cons_self stepF stepG] at second
    exact foldlM_agree rest a
      (fun acc y a b member => each acc y a b (List.mem_cons_of_mem x member)) first second

/-- A bind succeeds alike when each of its two parts succeeds wherever the first bind's does. -/
theorem bind_ok_of_imp {x x' : Except Fault α} {k k' : α → Except Fault β}
    (first : ∀ a, x = .ok a → x' = .ok a) (next : ∀ a b, k a = .ok b → k' a = .ok b) {b : β}
    (success : (x >>= k) = .ok b) : (x' >>= k') = .ok b := by
  obtain ⟨a, ran, continued⟩ := except_bind_ok success
  rw [first a ran]
  exact next a b continued

/-- A map succeeds alike with a function that succeeds, and alike, on every item where the
first does. -/
theorem mapM_ok_of_imp {f g : γ → Except Fault β} :
    ∀ (xs : List γ), (∀ x ∈ xs, ∀ y, f x = .ok y → g x = .ok y) →
      ∀ {ys : List β}, xs.mapM f = .ok ys → xs.mapM g = .ok ys
  | [], _, _, success => success
  | x :: rest, each, _, success => by
    obtain ⟨a, as, head, others, rfl⟩ := mapM_cons_ok success
    rw [List.mapM_cons, each x List.mem_cons_self a head,
      mapM_ok_of_imp rest (fun y member => each y (List.mem_cons_of_mem x member)) others]
    rfl

end ClientGen
