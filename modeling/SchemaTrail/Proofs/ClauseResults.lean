import SchemaTrail.Proofs.ReaderResults

/-!
# What clauses ask for

All that a clause of an `ALTER TABLE` statement may ask for, and what may be next behind it
(`Statement.ClauseGives`).  So a clause that asks for nothing, but to change partitions, is read up
to its end (`Statement.readAlterClause_idle`).
-/

namespace SchemaTrail.Statement

open Outcome

variable {α : Type} {c next : Cursor}

/-! ## Ends of clauses -/

theorem endsClause_of_skipClause {u : Unit} (h : skipClause c = .ok (u, next)) :
    endsClause next.kind = true := by
  obtain ⟨units, h⟩ := discard_eq_ok_iff.1 h
  refine many_induction (P := fun _ _ next => endsClause next.kind = true) (fun c m hnone => ?_)
    (fun _ _ _ _ _ _ hrest => hrest) h
  rw [skipPart, kind_bind] at hnone
  generalize hkind : c.kind = k at hnone
  split at hnone
  · obtain ⟨_, heq, -⟩ := some_map_eq_ok_iff.1 hnone
    cases heq
  · split at hnone
    next hends =>
      cases hnone
      rwa [hkind]
    next =>
      obtain ⟨_, heq, -⟩ := some_map_eq_ok_iff.1 hnone
      cases heq

/-- What is skipped gives what is returned behind it, at the end of the clause. -/
theorem skipClause_yields (parts : List AlterPart) :
    Yields (do skipClause; return parts) fun ps k => ps = parts ∧ endsClause k = true := by
  intro c ps next h
  obtain ⟨u, m, hskip, h⟩ := read_bind_iff.1 h
  cases h
  exact ⟨rfl, endsClause_of_skipClause hskip⟩

theorem skipAll_yields (parts : List AlterPart) :
    Yields (do skipAll; return parts) fun ps k => ps = parts ∧ endsClause k = true := by
  intro c ps next h
  obtain ⟨u, m, hskip, h⟩ := read_bind_iff.1 h
  cases h
  obtain ⟨m', hm, hkinds⟩ := skipAll_eq c
  cases hm.symm.trans hskip
  refine ⟨rfl, ?_⟩
  rw [Cursor.kind_eq, hkinds, headD_dropWhile_ne_eof]
  rfl

/-! ## Results of clauses -/

/-- What clauses give whose columns satisfy `D` and whose charsets have names that satisfy `N`, with
what is next behind them. -/
inductive ClauseGives (D : ColumnDefinition → Prop) (N : String → Prop) :
    List AlterPart → Token.Kind → Prop
  | ignored {k : Token.Kind} (hk : endsClause k = true) : ClauseGives D N [] k
  | partitions {k : Token.Kind} (hk : endsClause k = true) : ClauseGives D N [.partitions] k
  | primaryKey (columns : List String) (k : Token.Kind) : ClauseGives D N [.primaryKey columns] k
  | added {ds : List ColumnDefinition} (hds : ds ≠ []) (hD : ∀ d ∈ ds, D d) (placement : Placement)
    (guarded : Bool) (k : Token.Kind) :
    ClauseGives D N (ds.flatMap fun d => addedParts d placement guarded) k
  | changed {d : ColumnDefinition} (hd : D d) (name : String) (placement : Placement)
    (guarded : Bool) (k : Token.Kind) :
    ClauseGives D N (keyPart d ++ [.column (.change name d.column placement guarded)]) k
  | removed (name : String) (guarded : Bool) (k : Token.Kind) :
    ClauseGives D N [.column (.remove name guarded)] k
  | renamed (name newName : String) (k : Token.Kind) :
    ClauseGives D N [.column (.rename name newName)] k
  | newName (name : TableName) (k : Token.Kind) : ClauseGives D N [.newName name] k
  | convertTo {name : String} (hname : N name) (k : Token.Kind) :
    ClauseGives D N [.convertTo name] k
  | charsets {parts : List AlterPart} (hne : parts ≠ [])
    (hparts : ∀ p ∈ parts, ∃ name, p = .charset name ∧ N name ∨ p = .collation name)
    (k : Token.Kind) : ClauseGives D N parts k

section

variable {D : ColumnDefinition → Prop} {N : String → Prop} (hD : Gives readColumn D)
  (hN : Gives readOptionName N)

theorem ignoreClause_gives : Yields ignoreClause (ClauseGives D N) := by
  intro c parts next h
  obtain ⟨rfl, hk⟩ := skipClause_yields [] c parts next h
  exact .ignored hk

theorem ignorePartitions_gives : Yields ignorePartitions (ClauseGives D N) := by
  intro c parts next h
  obtain ⟨rfl, hk⟩ := skipClause_yields [.partitions] c parts next h
  exact .partitions hk

theorem readPrimaryKey_gives :
    Yields (do return [.primaryKey (← readPrimaryKey)]) (ClauseGives D N) :=
  yields_after fun columns => yields_pure (.primaryKey columns)

include hD in
theorem readAddedColumns_gives : Yields readAddedColumns (ClauseGives D N) := by
  refine yields_after fun _ => yields_ite ?_ (yields_after fun guarded => ?_)
  · intro c parts next h
    obtain ⟨ds, m, hds, h⟩ := read_bind_iff.1 h
    cases h
    exact .added (readGroup_ne_nil _ _ ds next hds) (gives_readGroup hD _ ds next hds) .standard
      false _
  · refine yields_bind hD fun d hd => yields_after fun placement => yields_pure fun k => ?_
    have hone : ∀ d' ∈ [d], D d' := by simpa using hd
    simpa using ClauseGives.added (N := N) (List.cons_ne_nil d []) hone placement guarded k

include hD in
theorem readAdd_gives : Yields readAdd (ClauseGives D N) := by
  refine yields_after fun _ => yields_after fun _ => yields_ite (readAddedColumns_gives hD) ?_
  refine yields_after fun k => ?_
  split
  all_goals first
    | exact yields_afterAdvance readPrimaryKey_gives
    | exact ignoreClause_gives
    | exact ignorePartitions_gives
    | exact readAddedColumns_gives hD

include hD in
theorem readChanged_gives (guarded : Bool) (name : Option String) :
    Yields (readChanged guarded name) (ClauseGives D N) :=
  yields_bind hD fun _ hd => yields_after fun placement => yields_pure
    (.changed hd _ placement guarded)

theorem readDrop_gives : Yields readDrop (ClauseGives D N) := by
  refine yields_after fun k => ?_
  split
  all_goals first
    | exact yields_afterAdvance (yields_after fun _ => yields_pure (.primaryKey []))
    | exact ignoreClause_gives
    | exact ignorePartitions_gives
    | exact yields_after fun _ => yields_after fun guarded => yields_after fun name =>
        yields_after fun _ => yields_pure (.removed name guarded)

theorem readRename_gives (selected : Option String) :
    Yields (readRename selected) (ClauseGives D N) := by
  refine yields_after fun k => ?_
  split
  all_goals first
    | exact yields_afterAdvance <| yields_after fun name => yields_after fun _ =>
        yields_after fun newName => yields_pure (.renamed name newName)
    | exact ignoreClause_gives
    | exact yields_after fun _ => yields_after fun name => yields_pure (.newName name)

include hN in
theorem readSetName_gives : Gives readSetName N :=
  yields_after fun _ => hN

include hN in
theorem readConvert_gives : Yields readConvert (ClauseGives D N) := by
  have hcharset : Gives expectCharset N :=
    yields_after fun _ => yields_ite (readSetName_gives hN) (yields_after fun _ => hN)
  exact yields_after fun _ => yields_bind hcharset fun name hname => yields_after fun _ =>
    yields_pure (.convertTo hname)

/-! ### Charset clauses -/

/-- Parts of which each is a charset with such a name, or a collation. -/
abbrev NameCharsets (N : String → Prop) (parts : List AlterPart) : Prop :=
  ∀ p ∈ parts, ∃ name, p = .charset name ∧ N name ∨ p = .collation name

include hN in
theorem readCharsetPart_gives : Gives readCharsetPart (NameCharsets N) := by
  have hone : ∀ {r : Reader String}, Gives r N →
      Gives (do return [.charset (← r)]) (NameCharsets N) :=
    fun hr => yields_bind hr fun name hname => gives_pure fun _ hp =>
      ⟨name, .inl ⟨List.mem_singleton.1 hp, hname⟩⟩
  refine yields_after fun k => ?_
  split
  · exact yields_afterAdvance (hone (readSetName_gives hN))
  · exact yields_afterAdvance (hone hN)
  · exact gives_pure nofun

theorem readCollationPart_gives : Gives readCollationPart (NameCharsets N) :=
  yields_after fun _ => yields_ite
    (yields_after fun name => gives_pure fun _ hp => ⟨name, .inr (List.mem_singleton.1 hp)⟩)
    (gives_pure nofun)

/-- Where a charset clause begins, something is read. -/
theorem readCharsetClause_ne_nil {parts : List AlterPart} (hc : beginsCharset c.kind = true)
    (h : readCharsetClause c = .ok (parts, next)) : parts ≠ [] := by
  have hsome : ∀ (r : Reader String) (f : String → AlterPart),
      Gives (do return [f (← r)]) (· ≠ []) :=
    fun _ _ => yields_after fun _ => gives_pure (List.cons_ne_nil _ _)
  obtain ⟨first, m, hfirst, h⟩ := read_bind_iff.1 h
  obtain ⟨others, m', hothers, h⟩ := read_bind_iff.1 h
  cases h
  rw [readCharsetPart, kind_bind] at hfirst
  generalize hkind : c.kind = k at hfirst hc
  split at hfirst
  · exact List.append_ne_nil_of_left_ne_nil
      (yields_afterAdvance (hsome _ _) c first m hfirst) others
  · exact List.append_ne_nil_of_left_ne_nil
      (yields_afterAdvance (hsome _ _) c first m hfirst) others
  next hcharacter hcharset =>
    -- Only a collation is left.
    cases hfirst
    have hcollate : k = .keyword .collate := by
      unfold beginsCharset at hc
      split at hc <;> simp_all
    rw [readCollationPart, takeKeyword, takeIf_bind, if_pos (by simp [hkind, hcollate])] at hothers
    exact hsome _ .collation _ others next hothers

include hN in
theorem readCharsetClause_gives {parts : List AlterPart} (hc : beginsCharset c.kind = true)
    (h : readCharsetClause c = .ok (parts, next)) : ClauseGives D N parts next.kind := by
  have hparts : Gives readCharsetClause (NameCharsets N) :=
    yields_bind (readCharsetPart_gives hN) fun _ hfirst =>
      yields_bind readCollationPart_gives fun _ hothers =>
        gives_pure (List.forall_mem_append.2 ⟨hfirst, hothers⟩)
  exact .charsets (readCharsetClause_ne_nil hc h) (hparts c parts next h) next.kind

include hD hN in
/-- What a clause asks for. -/
theorem readAlterClause_gives (selected : Option String) :
    Yields (readAlterClause selected) (ClauseGives D N) := by
  intro c parts next h
  rw [readAlterClause, kind_bind] at h
  generalize hkind : c.kind = k at h
  split at h
  · exact yields_afterAdvance (readAdd_gives hD) c parts next h
  · exact yields_afterAdvance (yields_after fun _ => yields_after fun _ => yields_after fun name =>
      readChanged_gives hD _ (some name)) c parts next h
  · exact yields_afterAdvance (yields_after fun _ => yields_after fun _ =>
      readChanged_gives hD _ none) c parts next h
  · exact yields_afterAdvance readDrop_gives c parts next h
  · exact yields_afterAdvance (readRename_gives selected) c parts next h
  · exact yields_afterAdvance (readConvert_gives hN) c parts next h
  · change readDefault c.advance = .ok (parts, next) at h
    rw [readDefault, kind_bind] at h
    split at h
    next hcharset => exact readCharsetClause_gives hN hcharset h
    next => cases h
  · obtain ⟨rfl, hk⟩ := skipAll_yields [.partitions] c parts next h
    exact .partitions hk
  · split at h
    next hcharset => exact readCharsetClause_gives hN (hkind ▸ hcharset) h
    next => exact yields_ite ignorePartitions_gives ignoreClause_gives c parts next h

end

/-! ## Clauses that ask for nothing -/

/-- Parts of a change that ask for nothing. -/
def IsIdle (parts : List AlterPart) : Prop :=
  ∀ p ∈ parts, p = .partitions

theorem not_idle_of_mem {p : AlterPart} {parts : List AlterPart} (hp : p ∈ parts)
    (hne : p ≠ .partitions) : ¬IsIdle parts :=
  fun h => hne (h p hp)

/-- A clause that asks for nothing is read up to its end. -/
theorem readAlterClause_idle {selected : Option String} {parts : List AlterPart}
    (h : readAlterClause selected c = .ok (parts, next)) (hidle : IsIdle parts) :
    endsClause next.kind = true := by
  have hgives := readAlterClause_gives (gives_any _) (gives_any _) selected c parts next h
  cases hgives with
  | ignored hk => exact hk
  | partitions hk => exact hk
  | @added ds hds _ placement guarded =>
    obtain ⟨d, ds, rfl⟩ := List.exists_cons_of_ne_nil hds
    refine absurd hidle (not_idle_of_mem (p := .column (.add d.column placement guarded)) ?_ nofun)
    simp [addedParts]
  | changed =>
    exact absurd hidle (not_idle_of_mem (List.mem_append_right _ List.mem_cons_self) nofun)
  | charsets hne hparts =>
    obtain ⟨p, ps, rfl⟩ := List.exists_cons_of_ne_nil hne
    obtain ⟨name, ⟨rfl, -⟩ | rfl⟩ := hparts p List.mem_cons_self
    all_goals exact absurd hidle (not_idle_of_mem List.mem_cons_self nofun)
  | _ => exact absurd hidle (not_idle_of_mem List.mem_cons_self nofun)

end SchemaTrail.Statement
