import SchemaTrail.Proofs.ReadStatements

/-!
# Results of readers

What every result of a reader is like (`Statement.Gives`) follows from what those of its parts are
like, and so does what may be next behind it (`Statement.Yields`).  For whole statements, it is
enough to look at the readers of the kinds of statements (`Statement.StatementsGive`); a statement
with several requests is one that drops tables (`Statement.requests_shape`).
-/

namespace SchemaTrail

open Outcome

namespace Statement

/-! ## Results of readers -/

variable {α β : Type}

/-- Every result of a reader is related to what is next behind it. -/
def Yields (r : Reader α) (P : α → Token.Kind → Prop) : Prop :=
  ∀ c a next, r c = .ok (a, next) → P a next.kind

/-- Every result of a reader satisfies `p`. -/
abbrev Gives (r : Reader α) (p : α → Prop) : Prop :=
  Yields r fun a _ => p a

variable {P : α → Token.Kind → Prop} {p : α → Prop} {q : β → Prop}

theorem gives_any (r : Reader α) : Gives r fun _ => True :=
  fun _ _ _ _ => trivial

theorem yields_pure {a : α} (h : ∀ k, P a k) : Yields (pure a) P := by
  intro c b next hb
  cases hb
  exact h _

theorem gives_pure {a : α} (h : p a) : Gives (pure a) p :=
  yields_pure fun _ => h

theorem yields_fail (e : Cursor → SchemaError) : Yields (fail e) P := by
  intro c a next h
  cases h

theorem yields_bind {r : Reader β} {f : β → Reader α} (hr : Gives r q)
    (hf : ∀ b, q b → Yields (f b) P) : Yields (r >>= f) P := by
  intro c a next h
  obtain ⟨b, between, hb, h⟩ := read_bind_iff.1 h
  exact hf b (hr c b between hb) between a next h

/-- What a reader gives does not depend on what was read before it. -/
theorem yields_after {r : Reader β} {f : β → Reader α} (hf : ∀ b, Yields (f b) P) :
    Yields (r >>= f) P :=
  yields_bind (gives_any r) fun b _ => hf b

theorem yields_ite {c : Prop} [Decidable c] {r s : Reader α} (hr : Yields r P) (hs : Yields s P) :
    Yields (if c then r else s) P := by
  split
  · exact hr
  · exact hs

theorem yields_afterAdvance {r : Reader α} (h : Yields r P) : Yields (afterAdvance r) P :=
  yields_after fun _ => h

theorem gives_readAs {f : Token.Kind → String → Option α} {expected : String}
    (h : ∀ k text a, f k text = some a → p a) : Gives (readAs f expected) p := by
  intro c a next ha
  rw [readAs, readAsOr_eq] at ha
  split at ha
  next hb =>
    cases ha
    obtain ⟨x, -, hx⟩ := Option.bind_eq_some_iff.1 hb
    exact h _ _ _ hx
  next => cases ha

theorem gives_many {round : Reader (Option α)} (h : Gives round fun o => ∀ a ∈ o, p a) :
    Gives (many round) fun as => ∀ a ∈ as, p a := by
  intro c as next hrun
  refine many_induction (P := fun _ as _ => ∀ a ∈ as, p a) (fun _ _ _ => by simp)
    (fun c a m as next hround hrest => ?_) hrun
  exact List.forall_mem_cons.2 ⟨h c (some a) m hround a rfl, hrest⟩

theorem gives_separated {item : Reader α} (h : Gives item p) :
    Gives (separated item) fun as => ∀ a ∈ as, p a := by
  refine yields_bind h fun first hfirst => yields_bind (gives_many ?_) fun others hothers =>
    gives_pure (List.forall_mem_cons.2 ⟨hfirst, hothers⟩)
  refine yields_after fun taken => yields_ite (yields_bind h fun a ha => gives_pure ?_)
    (gives_pure ?_)
  · simpa using ha
  · simp

theorem gives_readGroup {item : Reader α} (h : Gives item p) :
    Gives (readGroup item) fun as => ∀ a ∈ as, p a :=
  yields_bind (gives_separated h) fun _ has => yields_after fun _ => gives_pure has

theorem readGroup_ne_nil (item : Reader α) : Gives (readGroup item) (· ≠ []) :=
  yields_bind (q := (· ≠ []))
    (yields_after fun _ => yields_after fun _ => gives_pure (List.cons_ne_nil _ _))
    fun _ has => yields_after fun _ => gives_pure has

/-! ## Whole statements -/

/-- A property of lists of requests, which the reader of each kind of statement gives. -/
structure StatementsGive (selected : Option String) (P : List Request → Prop) : Prop where
  nothing : P []
  createTable : Gives (readCreateTable selected) fun r => P [r]
  createDatabase : Gives readCreateDatabase fun r => P [r]
  alterTable : Gives (readAlterTable selected) fun o => ∀ r ∈ o, P [r]
  alterDatabase : Gives (readAlterDatabase selected) fun r => P [r]
  dropTable : Gives (readDropTable selected) P
  dropDatabase : Gives readDropDatabase fun r => P [r]
  renameTables : Gives (readRenameTables selected) fun r => P [r]

namespace StatementsGive

variable {selected : Option String} {P : List Request → Prop} (h : StatementsGive selected P)
include h

theorem readStatement : Gives (readStatement selected) fun o => ∀ rs ∈ o, P rs := by
  have hone : ∀ {r : Reader Request}, Gives r (fun r => P [r]) →
      Gives (do return some [← r]) fun o => ∀ rs ∈ o, P rs :=
    fun hr => yields_bind hr fun r hr => gives_pure (by simpa using hr)
  have hnone : Gives (pure none) fun o : Option (List Request) => ∀ rs ∈ o, P rs :=
    gives_pure (by simp)
  have hobject : ∀ {table database : Reader (Option (List Request))},
      Gives table (fun o => ∀ rs ∈ o, P rs) → Gives database (fun o => ∀ rs ∈ o, P rs) →
        Gives (readObject table database) fun o => ∀ rs ∈ o, P rs :=
    fun htable hdatabase => yields_after fun _ => yields_ite htable <|
      yields_after fun _ => yields_ite hdatabase hnone
  have halter : Gives (readAlter selected) fun o => ∀ rs ∈ o, P rs := by
    refine yields_after fun _ => hobject ?_ (hone h.alterDatabase)
    refine yields_bind h.alterTable fun o ho => gives_pure ?_
    cases o with
    | none => simp
    | some r => simpa using ho
  have hdrop : Gives (readDropStatement selected) fun o => ∀ rs ∈ o, P rs :=
    hobject (yields_bind h.dropTable fun rs hrs => gives_pure (by simpa using hrs))
      (hone h.dropDatabase)
  refine yields_after fun k => ?_
  split
  · exact yields_afterAdvance (hobject (hone h.createTable) (hone h.createDatabase))
  · exact yields_afterAdvance halter
  · exact yields_afterAdvance hdrop
  · exact yields_afterAdvance (yields_after fun _ => yields_ite (hone h.renameTables) hnone)
  · exact yields_fail _
  · exact hnone

theorem requests {statement : String} {rs : List Request}
    (hrs : requests selected statement = .ok rs) : P rs := by
  rw [Statement.requests] at hrs
  split at hrs
  · cases hrs
    exact h.nothing
  · obtain ⟨answer, next, hread, ⟨-, rfl⟩ | ⟨rfl, -⟩⟩ := read_eq_ok_iff.1 hrs
    · exact h.nothing
    · exact h.readStatement _ (some rs) next hread rs rfl

end StatementsGive

/-- A statement makes a single request, or it drops tables, if any. -/
theorem requests_shape {selected : Option String} {statement : String} {rs : List Request}
    (h : requests selected statement = .ok rs) :
    (∃ r, rs = [r]) ∨ ∀ r ∈ rs, ∃ name guarded, r = .dropTable name guarded := by
  have hshape : StatementsGive selected fun rs =>
      (∃ r, rs = [r]) ∨ ∀ r ∈ rs, ∃ name guarded, r = .dropTable name guarded := {
    nothing := .inr (by simp)
    createTable := fun _ r _ _ => .inl ⟨r, rfl⟩
    createDatabase := fun _ r _ _ => .inl ⟨r, rfl⟩
    alterTable := fun _ _ _ _ r _ => .inl ⟨r, rfl⟩
    alterDatabase := fun _ r _ _ => .inl ⟨r, rfl⟩
    dropTable := yields_after fun _ => yields_after fun _ => yields_after fun _ =>
      gives_pure (.inr (List.forall_mem_map.2 fun name _ => ⟨name, _, rfl⟩))
    dropDatabase := fun _ r _ _ => .inl ⟨r, rfl⟩
    renameTables := fun _ r _ _ => .inl ⟨r, rfl⟩ }
  exact hshape.requests h

end Statement

end SchemaTrail
