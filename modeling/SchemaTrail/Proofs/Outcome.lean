/-!
# Computations that may fail

When `map`, `bind` and folds over a list succeed, and what a fold keeps that each of its steps
keeps.
-/

namespace SchemaTrail.Outcome

variable {ε ε' α β : Type}

theorem map_eq_ok_iff {x : Except ε α} {f : α → β} {b : β} :
    x.map f = .ok b ↔ ∃ a, x = .ok a ∧ f a = b := by
  cases x <;> simp [Except.map]

theorem map_eq_error_iff {x : Except ε α} {f : α → β} {e : ε} :
    x.map f = .error e ↔ x = .error e := by
  cases x <;> simp [Except.map]

theorem bind_eq_ok_iff {x : Except ε α} {f : α → Except ε β} {b : β} :
    x >>= f = .ok b ↔ ∃ a, x = .ok a ∧ f a = .ok b := by
  cases x <;> simp [bind, Except.bind]

theorem pure_eq_ok_iff {a b : α} : (pure a : Except ε α) = .ok b ↔ a = b := by
  simp [pure, Except.pure]

theorem discard_bind_eq_ok_iff {x : Except ε α} {y : Except ε β} {b : β} :
    (discard x >>= fun _ => y) = .ok b ↔ (∃ a, x = .ok a) ∧ y = .ok b := by
  cases x <;> simp [discard, Functor.discard, Functor.mapConst, bind, Except.bind, Except.map]

theorem throw_bind_ne_ok {e : ε} {f : α → Except ε β} {b : β} : (throw e >>= f) ≠ .ok b := by
  simp [throw, throwThe, MonadExceptOf.throw, bind, Except.bind]

theorem toOption_eq_some_iff {x : Except ε α} {a : α} : x.toOption = some a ↔ x = .ok a := by
  cases x <;> simp [Except.toOption]

theorem isSome_toOption_iff {x : Except ε α} : x.toOption.isSome = true ↔ ∃ a, x = .ok a := by
  cases x <;> simp [Except.toOption]

theorem toOption_map (x : Except ε α) (f : α → β) : (x.map f).toOption = x.toOption.map f := by
  cases x <;> rfl

theorem toOption_bind (x : Except ε α) (f : α → Except ε β) :
    (x >>= f).toOption = x.toOption.bind fun a => (f a).toOption := by
  cases x <;> rfl

/-- The error of a computation that fails. -/
def error? : Except ε α → Option ε
  | .ok _ => none
  | .error e => some e

theorem error?_eq_some_iff {x : Except ε α} {e : ε} : error? x = some e ↔ x = .error e := by
  cases x <;> simp [error?]

theorem mapError_eq_ok_iff {x : Except ε α} {f : ε → ε'} {a : α} :
    x.mapError f = .ok a ↔ x = .ok a := by
  cases x with
  | error e => constructor <;> intro h <;> cases h
  | ok b => constructor <;> intro h <;> cases h <;> rfl

theorem mapError_eq_error_iff {x : Except ε α} {f : ε → ε'} {e : ε'} :
    x.mapError f = .error e ↔ ∃ e', x = .error e' ∧ f e' = e := by
  cases x with
  | error e' =>
    refine ⟨fun h => ⟨e', rfl, Except.error.inj h⟩, ?_⟩
    rintro ⟨_, ⟨⟩, rfl⟩
    rfl
  | ok b =>
    constructor
    · intro h
      cases h
    · rintro ⟨_, ⟨⟩, _⟩

theorem bind_eq_error_iff {x : Except ε α} {f : α → Except ε β} {e : ε} :
    x >>= f = .error e ↔ x = .error e ∨ ∃ a, x = .ok a ∧ f a = .error e := by
  cases x <;> simp [bind, Except.bind]

theorem foldlM_singleton {step : β → α → Except ε β} {a : α} {b : β} :
    [a].foldlM step b = step b a := by
  rw [List.foldlM_cons]
  cases step b a <;> rfl

/-- What holds at the start of a fold and is kept by each of its steps holds at its end. -/
theorem foldlM_induction {step : β → α → Except ε β} {motive : β → Prop} {as : List α} {b c : β}
    (h : as.foldlM step b = .ok c) (hb : motive b)
    (hstep : ∀ b, motive b → ∀ a ∈ as, ∀ b', step b a = .ok b' → motive b') : motive c := by
  induction as generalizing b with
  | nil =>
    rw [List.foldlM_nil, pure_eq_ok_iff] at h
    exact h ▸ hb
  | cons a as ih =>
    rw [List.foldlM_cons, bind_eq_ok_iff] at h
    obtain ⟨b', hstep', hrest⟩ := h
    exact ih hrest (hstep b hb a List.mem_cons_self b' hstep')
      fun b hb x hx => hstep b hb x (List.mem_cons_of_mem a hx)

/-- A fold succeeds if each of its steps succeeds and keeps what the next one needs. -/
theorem foldlM_succeeds {step : β → α → Except ε β} {motive : β → Prop} {as : List α} {b : β}
    (hb : motive b) (hstep : ∀ b, motive b → ∀ a ∈ as, ∃ b', step b a = .ok b' ∧ motive b') :
    ∃ c, as.foldlM step b = .ok c := by
  induction as generalizing b with
  | nil => exact ⟨b, rfl⟩
  | cons a as ih =>
    obtain ⟨b', hb', hmotive⟩ := hstep b hb a List.mem_cons_self
    obtain ⟨c, hc⟩ := ih hmotive fun b hb x hx => hstep b hb x (List.mem_cons_of_mem a hx)
    exact ⟨c, by rw [List.foldlM_cons, bind_eq_ok_iff]; exact ⟨b', hb', hc⟩⟩

/-- A fold fails at the first of its steps that fails. -/
theorem foldlM_eq_error_iff {step : β → α → Except ε β} {as : List α} {b : β} {e : ε} :
    as.foldlM step b = .error e ↔ ∃ front a back c, as = front ++ a :: back ∧
      front.foldlM step b = .ok c ∧ step c a = .error e := by
  constructor
  · intro h
    induction as generalizing b with
    | nil => cases h
    | cons a as ih =>
      rw [List.foldlM_cons, bind_eq_error_iff] at h
      rcases h with hstep | ⟨b', hb', hrest⟩
      · exact ⟨[], a, as, b, rfl, rfl, hstep⟩
      · obtain ⟨front, x, back, c, rfl, hfront, hx⟩ := ih hrest
        refine ⟨a :: front, x, back, c, rfl, ?_, hx⟩
        rw [List.foldlM_cons, bind_eq_ok_iff]
        exact ⟨b', hb', hfront⟩
  · rintro ⟨front, a, back, c, rfl, hfront, ha⟩
    rw [List.foldlM_append, bind_eq_error_iff]
    refine .inr ⟨c, hfront, ?_⟩
    rw [List.foldlM_cons, bind_eq_error_iff]
    exact .inl ha

/-- Steps that differ in their errors only fold to the same. -/
theorem foldlM_mapError_eq_ok_iff {step : β → α → Except ε β} {f : β → α → ε → ε'} {as : List α}
    {b c : β} : as.foldlM (fun b a => (step b a).mapError (f b a)) b = .ok c ↔
      as.foldlM step b = .ok c := by
  induction as generalizing b with
  | nil => simp [pure_eq_ok_iff]
  | cons a as ih =>
    rw [List.foldlM_cons, List.foldlM_cons, bind_eq_ok_iff, bind_eq_ok_iff]
    exact exists_congr fun b' => and_congr mapError_eq_ok_iff ih

end SchemaTrail.Outcome
