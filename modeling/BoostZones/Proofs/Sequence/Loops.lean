/-! Steps and loops that may fail. What a row of steps has come to tells what each of them came
to. A loop whose every step is known to succeed succeeds, and its result is that of the loop
without failure; a loop over the first numbers goes through the states that its steps lead to.
-/

namespace BoostZones

section Steps
variable {x : Except ε α}

theorem bind_eq_ok_iff {f : α → Except ε β} {b : β}
    : (x >>= f) = .ok b ↔ ∃ a, x = .ok a ∧ f a = .ok b := by
  cases x with
  | error reason => exact iff_of_false nofun nofun
  | ok a =>
      constructor
      · intro ended
        exact ⟨a, rfl, ended⟩
      · rintro ⟨_, ⟨⟩, ended⟩
        exact ended

theorem bind_eq_error_iff {f : α → Except ε β} {e : ε}
    : (x >>= f) = .error e ↔ x = .error e ∨ ∃ a, x = .ok a ∧ f a = .error e := by
  cases x with
  | error reason =>
      constructor
      · rintro ⟨⟩
        exact Or.inl rfl
      · rintro (ended | ⟨_, ⟨⟩, _⟩)
        cases ended
        rfl
  | ok a =>
      constructor
      · intro ended
        exact Or.inr ⟨a, rfl, ended⟩
      · rintro (wrong | ⟨_, ⟨⟩, ended⟩)
        · cases wrong
        · exact ended

theorem map_eq_ok_iff {f : α → β} {b : β} : (f <$> x) = .ok b ↔ ∃ a, x = .ok a ∧ f a = b := by
  cases x with
  | error reason => exact iff_of_false nofun nofun
  | ok a =>
      constructor
      · rintro ⟨⟩
        exact ⟨a, rfl, rfl⟩
      · rintro ⟨_, ⟨⟩, rfl⟩
        rfl

theorem map_eq_error_iff {f : α → β} {e : ε} : (f <$> x) = .error e ↔ x = .error e := by
  cases x with
  | error reason =>
      constructor
      · intro ended
        cases ended
        rfl
      · intro ended
        cases ended
        rfl
  | ok a => exact iff_of_false nofun nofun

theorem mapError_eq_ok_iff {f : ε → ζ} {a : α} : x.mapError f = .ok a ↔ x = .ok a := by
  cases x with
  | error reason => exact iff_of_false nofun nofun
  | ok b =>
      constructor
      · rintro ⟨⟩
        rfl
      · rintro ⟨⟩
        rfl

theorem mapError_eq_error_iff {f : ε → ζ} {e : ζ}
    : x.mapError f = .error e ↔ ∃ reason, x = .error reason ∧ f reason = e := by
  cases x with
  | error reason =>
      constructor
      · rintro ⟨⟩
        exact ⟨reason, rfl, rfl⟩
      · rintro ⟨_, ⟨⟩, rfl⟩
        rfl
  | ok a => exact iff_of_false nofun nofun

theorem map_mapError_eq_ok_iff {f : ε → ζ} {g : α → β} {b : β}
    : (x.mapError f).map g = .ok b ↔ ∃ a, x = .ok a ∧ g a = b := by
  cases x with
  | error reason => exact iff_of_false nofun nofun
  | ok a =>
      constructor
      · intro ended
        cases ended
        exact ⟨a, rfl, rfl⟩
      · intro held
        rcases held with ⟨_, ⟨⟩, same⟩
        exact congrArg Except.ok same

theorem map_mapError_eq_error_iff {f : ε → ζ} {g : α → β} {e : ζ}
    : (x.mapError f).map g = .error e ↔ ∃ reason, x = .error reason ∧ f reason = e := by
  cases x with
  | error reason =>
      constructor
      · intro ended
        cases ended
        exact ⟨reason, rfl, rfl⟩
      · intro held
        rcases held with ⟨_, ⟨⟩, same⟩
        exact congrArg Except.error same
  | ok a => exact iff_of_false nofun nofun

theorem toOption_eq_some_iff {a : α} : x.toOption = some a ↔ x = .ok a := by
  cases x with
  | error reason => exact iff_of_false nofun nofun
  | ok b =>
      constructor
      · intro same
        cases same
        rfl
      · intro same
        cases same
        rfl

end Steps

theorem mapM_eq_some {f : α → Option β} {g : α → β} {xs : List α}
    (known : ∀ x ∈ xs, f x = some (g x))
    : xs.mapM f = some (xs.map g) := by
  induction xs with
  | nil => rfl
  | cons x rest ih =>
      rw [List.mapM_cons, known x (by simp), ih fun y member => known y (by simp [member])]
      rfl

/-- A row of steps fails exactly when one of them does. -/
theorem mapM_eq_none_iff {f : α → Option β} {xs : List α}
    : xs.mapM f = none ↔ ∃ x ∈ xs, f x = none := by
  induction xs with
  | nil => simp
  | cons x rest ih =>
      have split : (∃ y ∈ x :: rest, f y = none) ↔ f x = none ∨ rest.mapM f = none := by
        simp only [List.mem_cons, exists_eq_or_imp, ih]
      rw [split, List.mapM_cons]
      cases f x with
      | none => exact iff_of_true rfl (Or.inl rfl)
      | some y => cases rest.mapM f <;> simp

theorem mapM_congr [Monad m] [LawfulMonad m] {f g : α → m β} {xs : List α}
    (same : ∀ x ∈ xs, f x = g x)
    : xs.mapM f = xs.mapM g := by
  induction xs with
  | nil => rfl
  | cons x rest ih =>
      have later := ih fun y member => same y (List.mem_cons_of_mem x member)
      rw [List.mapM_cons, List.mapM_cons, same x List.mem_cons_self, later]

theorem length_of_mapM_eq_some {f : α → Option β} {xs : List α} {ys : List β}
    (ended : xs.mapM f = some ys)
    : ys.length = xs.length := by
  induction xs generalizing ys with
  | nil =>
      cases ended
      rfl
  | cons x rest ih =>
      rw [List.mapM_cons] at ended
      obtain ⟨first, -, ended⟩ := Option.bind_eq_some_iff.1 ended
      obtain ⟨others, later, ended⟩ := Option.bind_eq_some_iff.1 ended
      cases ended
      rw [List.length_cons, List.length_cons, ih later]

/-- Every result of a traversal that comes to an end is the result for one of the entries. -/
theorem exists_of_mem_mapM {f : α → Except ε β} {xs : List α} {ys : List β}
    (ended : xs.mapM f = .ok ys) {y : β} (member : y ∈ ys)
    : ∃ x ∈ xs, f x = .ok y := by
  induction xs generalizing ys with
  | nil =>
      cases ended
      cases member
  | cons x rest ih =>
      rw [List.mapM_cons, bind_eq_ok_iff] at ended
      obtain ⟨first, found, ended⟩ := ended
      obtain ⟨others, later, ended⟩ := bind_eq_ok_iff.1 ended
      cases ended
      rcases List.mem_cons.1 member with rfl | inside
      · exact ⟨x, List.mem_cons_self, found⟩
      · obtain ⟨x', held, found⟩ := ih later inside
        exact ⟨x', List.mem_cons_of_mem _ held, found⟩

/-- A traversal that fails does so with what one of the entries came to. -/
theorem exists_of_mapM_eq_error {f : α → Except ε β} {xs : List α} {e : ε}
    (failed : xs.mapM f = .error e)
    : ∃ x ∈ xs, f x = .error e := by
  induction xs with
  | nil => cases failed
  | cons x rest ih =>
      rw [List.mapM_cons, bind_eq_error_iff] at failed
      rcases failed with first | ⟨_, -, failed⟩
      · exact ⟨x, List.mem_cons_self, first⟩
      · rcases bind_eq_error_iff.1 failed with later | ⟨_, -, ended⟩
        · obtain ⟨x', held, found⟩ := ih later
          exact ⟨x', List.mem_cons_of_mem _ held, found⟩
        · cases ended

/-- Results that tell their entry tell all entries in order, by induction on the entries. -/
theorem map_eq_of_mapM {f : α → Except ε β} {entry : β → α} {xs : List α} {ys : List β}
    (tells : ∀ x y, f x = .ok y → entry y = x) (ended : xs.mapM f = .ok ys)
    : ys.map entry = xs := by
  induction xs generalizing ys with
  | nil =>
      cases ended
      rfl
  | cons x rest ih =>
      rw [List.mapM_cons, bind_eq_ok_iff] at ended
      obtain ⟨first, found, ended⟩ := ended
      obtain ⟨others, later, ended⟩ := bind_eq_ok_iff.1 ended
      cases ended
      rw [List.map_cons, tells x first found, ih later]

theorem flatMapM_eq_some {f : α → Option (List β)} {g : α → List β} {xs : List α}
    (known : ∀ x ∈ xs, f x = some (g x))
    : xs.flatMapM f = some (xs.flatMap g) := by
  induction xs with
  | nil => rfl
  | cons x rest ih =>
      rw [List.flatMapM_cons, known x (by simp), ih fun y member => known y (by simp [member])]
      rfl

theorem foldlM_congr [Monad m] {f g : σ → α → m σ} {xs : List α}
    (same : ∀ x ∈ xs, ∀ s, f s x = g s x) (s : σ)
    : xs.foldlM f s = xs.foldlM g s := by
  induction xs generalizing s with
  | nil => rfl
  | cons x rest ih =>
      have later := ih fun y member => same y (List.mem_cons_of_mem x member)
      simp only [List.foldlM_cons, same x List.mem_cons_self, later]

theorem foldlM_eq_pure [Monad m] [LawfulMonad m] {f : σ → α → m σ} {g : σ → α → σ}
    {xs : List α} (known : ∀ s, ∀ x ∈ xs, f s x = pure (g s x)) (s : σ)
    : xs.foldlM f s = pure (xs.foldl g s) := by
  induction xs generalizing s with
  | nil => rfl
  | cons x rest ih =>
      rw [List.foldlM_cons, known s x (by simp), pure_bind, List.foldl_cons]
      exact ih (fun s y member => known s y (by simp [member])) (g s x)

/-- A loop comes to an end when each of its steps does, wherever it starts from. -/
theorem exists_foldlM_eq_ok {f : σ → α → Except ε σ} {xs : List α}
    (passes : ∀ s, ∀ x ∈ xs, ∃ t, f s x = .ok t) (s : σ)
    : ∃ t, xs.foldlM f s = .ok t := by
  induction xs generalizing s with
  | nil => exact ⟨s, rfl⟩
  | cons x rest ih =>
      obtain ⟨middle, first⟩ := passes s x List.mem_cons_self
      have others := fun s y member => passes s y (List.mem_cons_of_mem x member)
      obtain ⟨last, later⟩ := ih others middle
      exact ⟨last, bind_eq_ok_iff.2 ⟨middle, first, later⟩⟩

/-- Every step of a loop that comes to an end does so from somewhere. -/
theorem exists_step_of_foldlM_eq_ok {f : σ → α → Except ε σ} {xs : List α} {s t : σ}
    (ended : xs.foldlM f s = .ok t) {x : α} (member : x ∈ xs)
    : ∃ u v, f u x = .ok v := by
  induction xs generalizing s with
  | nil => cases member
  | cons y rest ih =>
      obtain ⟨middle, first, later⟩ := bind_eq_ok_iff.1 ended
      rcases List.mem_cons.1 member with rfl | inside
      · exact ⟨s, middle, first⟩
      · exact ih later inside

/-- A loop ends with the error of the first step that fails, by induction on the steps before. -/
theorem foldlM_eq_error_of_first {f : σ → α → Except ε σ} {before after : List α} {x : α} {e : ε}
    (passes : ∀ s, ∀ y ∈ before, ∃ t, f s y = .ok t) (stops : ∀ s, f s x = .error e) (s : σ)
    : (before ++ x :: after).foldlM f s = .error e := by
  induction before generalizing s with
  | nil => exact bind_eq_error_iff.2 (Or.inl (stops s))
  | cons y rest ih =>
      obtain ⟨middle, first⟩ := passes s y List.mem_cons_self
      have others := fun s z member => passes s z (List.mem_cons_of_mem y member)
      have later := ih others middle
      exact bind_eq_error_iff.2 (Or.inr ⟨middle, first, later⟩)

/-- A loop over the numbers below `n` ends in the state that belongs to `n`. -/
theorem foldlM_range [Monad m] [LawfulMonad m] (step : σ → Nat → m σ) (state : Nat → σ)
    {n : Nat} (advances : ∀ k < n, step (state k) k = pure (state (k + 1)))
    : (List.range n).foldlM step (state 0) = pure (state n) := by
  induction n with
  | zero => simp
  | succ n ih =>
      have before := ih fun k below => advances k (by omega)
      rw [List.range_succ, List.foldlM_append, before, pure_bind, List.foldlM_cons,
        advances n (by omega), pure_bind, List.foldlM_nil]

end BoostZones
