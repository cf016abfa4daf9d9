import SchemaTrail.Proofs.MirroredDifferences

/-!
# The modes of two schemas that are compared

`Schema.diff` looks the databases of the left schema up in the right one, which compares names in
its own mode; only what is on the right alone is looked for in the mode of the left schema, as are
all tables.  So what is listed depends on the mode of the right schema, and
`Schema.diff_rightMode` says exactly when: it does not if, for each database on the left, both modes
find databases that differ from it in the same.  If no two databases on the right have names that
are equal without letter case, this means that none of them is spelled as a database on the left
save for letter case.
-/

namespace SchemaTrail

/-! ## Lists made of parts -/

/-- If the items of each part are marked by the key of the part, then lists are made of the same
parts if they are the same. -/
theorem parts_eq_of_flatMap_eq {α κ δ : Type} [DecidableEq κ] {key : α → κ} {mark : δ → κ}
    {f g : α → List δ} {as : List α} (hkeys : (as.map key).Nodup)
    (hf : ∀ a ∈ as, ∀ x ∈ f a, mark x = key a) (hg : ∀ a ∈ as, ∀ x ∈ g a, mark x = key a)
    (h : as.flatMap f = as.flatMap g) : ∀ a ∈ as, f a = g a := by
  induction as with
  | nil => simp
  | cons a as ih =>
    rw [List.map_cons, List.nodup_cons] at hkeys
    rw [List.forall_mem_cons] at hf hg
    -- What is marked by the key of the first part is just that part.
    have hfirst : ∀ {f : α → List δ}, (∀ x ∈ f a, mark x = key a) →
        (∀ b ∈ as, ∀ x ∈ f b, mark x = key b) →
        (f a ++ as.flatMap f).filter (fun x => mark x = key a) = f a := by
      intro f ha has
      have hothers : (as.flatMap f).filter (fun x => mark x = key a) = [] := by
        rw [List.filter_eq_nil_iff]
        intro x hx
        obtain ⟨b, hb, hx⟩ := List.mem_flatMap.1 hx
        rw [has b hb x hx, decide_eq_true_eq]
        exact fun hba => hkeys.1 (List.mem_map.2 ⟨b, hb, hba⟩)
      rw [List.filter_append, hothers, List.append_nil, List.filter_eq_self]
      simpa using ha
    rw [List.flatMap_cons, List.flatMap_cons] at h
    have heq : f a = g a := by rw [← hfirst hf.1 hf.2, h, hfirst hg.1 hg.2]
    rw [heq, List.append_cancel_left_eq] at h
    exact List.forall_mem_cons.2 ⟨heq, ih hkeys.2 hf.2 hg.2 h⟩

/-! ## The database that a discrepancy is about -/

/-- The name of the database in a discrepancy. -/
def Discrepancy.database : Discrepancy → String
  | .missingDatabase database _ | .databaseCharset database _ _ | .missingTable database _ _
  | .tableCharset database _ _ _ | .primaryKey database _ _ _ | .missingColumn database _ _ _
  | .columnType database _ _ _ _ | .columnPosition database _ _ _ _
  | .columnAttribute database _ _ _ => database

/-- Whether the discrepancy is a database that is missing. -/
def Discrepancy.isMissingDatabase : Discrepancy → Bool
  | .missingDatabase .. => true
  | _ => false

/-- The discrepancy is about something in a database that is on both sides. -/
structure Discrepancy.Within (name : String) (x : Discrepancy) : Prop where
  database : x.database = name
  both : x.isMissingDatabase = false

theorem mem_unlessHolds {α : Type} {condition : Bool} {item x : α}
    (h : x ∈ unlessHolds condition item) : x = item := by
  cases condition with
  | false => exact List.mem_singleton.1 h
  | true => cases h

theorem Table.diffColumn_within (t : Table) (c d : Column) :
    ∀ x ∈ t.diffColumn c d, x.Within t.database := by
  intro x hx
  rw [diffColumn] at hx
  split at hx
  · rw [List.mem_singleton.1 hx]
    exact ⟨rfl, rfl⟩
  · rcases List.mem_append.1 hx with hx | hx
    · rw [mem_unlessHolds hx]
      exact ⟨rfl, rfl⟩
    · obtain ⟨m, -, rfl⟩ := List.mem_map.1 hx
      exact ⟨rfl, rfl⟩

theorem Table.diff_within (t u : Table) : ∀ x ∈ t.diff u, x.Within t.database := by
  intro x hx
  simp only [diff, List.mem_append] at hx
  rcases hx with ((hx | hx) | hx) | hx
  · rw [mem_unlessHolds hx]
    exact ⟨rfl, rfl⟩
  · rw [mem_unlessHolds hx]
    exact ⟨rfl, rfl⟩
  · obtain ⟨c, -, hx⟩ := List.mem_flatMap.1 hx
    split at hx
    · rw [List.mem_singleton.1 hx]
      exact ⟨rfl, rfl⟩
    · exact t.diffColumn_within _ _ x hx
  · obtain ⟨c, -, rfl⟩ := List.mem_map.1 hx
    exact ⟨rfl, rfl⟩

namespace Database

variable {mode : CaseMode} {d e : Database} {x : Discrepancy}

theorem diff_within (hx : x ∈ d.diff mode e) :
    x.Within d.name ∨ ∃ t ∈ d.tables, x.Within t.database := by
  simp only [diff, List.mem_append] at hx
  rcases hx with (hx | hx) | hx
  · rw [mem_unlessHolds hx]
    exact .inl ⟨rfl, rfl⟩
  · obtain ⟨t, ht, hx⟩ := List.mem_flatMap.1 hx
    split at hx
    · rw [List.mem_singleton.1 hx]
      exact .inl ⟨rfl, rfl⟩
    · exact .inr ⟨t, ht, t.diff_within _ x hx⟩
  · obtain ⟨t, -, rfl⟩ := List.mem_map.1 hx
    exact .inl ⟨rfl, rfl⟩

theorem missingDatabase_not_mem_diff (name : String) (side : Side) :
    .missingDatabase name side ∉ d.diff mode e := by
  intro h
  rcases diff_within h with h | ⟨t, -, h⟩
  · exact Bool.false_ne_true h.both.symm
  · exact Bool.false_ne_true h.both.symm

theorem database_of_mem_diff (hd : ∀ t ∈ d.tables, t.database = d.name)
    (hx : x ∈ d.diff mode e) : x.database = d.name := by
  rcases diff_within hx with hx | ⟨t, ht, hx⟩
  · exact hx.database
  · rw [hx.database, hd t ht]

end Database

/-! ## The mode of the right schema -/

/-- Names that are equal in some mode are equal without letter case. -/
theorem CaseMode.namesEqual_insensitive {mode : CaseMode} {a b : String}
    (h : mode.namesEqual a b = true) : CaseMode.insensitive.namesEqual a b = true := by
  by_cases hmode : mode = .sensitive
  · subst hmode
    rw [namesEqual_sensitive_iff.1 h]
    exact namesEqual_refl _ b
  · rw [namesEqual_iff_ascii (by decide)]
    exact (namesEqual_iff_ascii hmode).1 h

namespace Schema

variable {a b : Schema} {d : Database} {mode : CaseMode} {name : String}

/-- What is listed for a database on the left. -/
def diffDatabase (a b : Schema) (d : Database) : List Discrepancy :=
  (b.database? d.name).elim [.missingDatabase d.name .right] (d.diff a.caseMode)

theorem diff_eq_diffDatabase (a b : Schema) :
    a.diff b = a.databases.flatMap (a.diffDatabase b) ++
      (b.databases.filter fun e => !a.hasDatabase e.name).map fun e =>
        .missingDatabase e.name .left := by
  rw [diff]
  congr 2
  funext d
  rw [diffDatabase]
  cases b.database? d.name <;> rfl

theorem missingDatabase_mem_diffDatabase_iff {side : Side} :
    .missingDatabase name side ∈ a.diffDatabase b d ↔
      d.name = name ∧ side = .right ∧ b.database? d.name = none := by
  rw [diffDatabase]
  cases b.database? d.name with
  | none => simp [eq_comm]
  | some e =>
    simp only [Option.elim_some, reduceCtorEq, and_false, iff_false]
    exact Database.missingDatabase_not_mem_diff name side

/-- A database is missing on the right if its name is not found in the mode of the right schema. -/
theorem missingDatabase_right_mem_diff_iff :
    .missingDatabase name .right ∈ a.diff b ↔
      ∃ d ∈ a.databases, d.name = name ∧
        ∀ e ∈ b.databases, b.caseMode.namesEqual e.name name = false := by
  rw [diff_eq_diffDatabase, List.mem_append, List.mem_flatMap]
  simp only [missingDatabase_mem_diffDatabase_iff, List.mem_map, Discrepancy.missingDatabase.injEq,
    reduceCtorEq, and_false, exists_false, or_false, true_and]
  refine exists_congr fun d => and_congr_right fun _ => and_congr_right fun hname => ?_
  rw [hname, database?, List.find?_eq_none]
  simp only [Bool.not_eq_true]

/-- A database is missing on the left if its name is not found in the mode of the left schema. -/
theorem missingDatabase_left_mem_diff_iff :
    .missingDatabase name .left ∈ a.diff b ↔
      ∃ e ∈ b.databases, e.name = name ∧
        ∀ d ∈ a.databases, a.caseMode.namesEqual d.name name = false := by
  rw [diff_eq_diffDatabase, List.mem_append, List.mem_flatMap]
  simp only [missingDatabase_mem_diffDatabase_iff, List.mem_map, List.mem_filter,
    Discrepancy.missingDatabase.injEq, reduceCtorEq, false_and, and_false, exists_false, false_or,
    and_true, Bool.not_eq_true', hasDatabase, List.any_eq_false, Bool.not_eq_true, and_assoc]
  refine exists_congr fun e => and_congr_right fun _ => ?_
  rw [and_comm]
  exact and_congr_right fun hname => by rw [hname]

theorem database_of_mem_diffDatabase (hd : ∀ t ∈ d.tables, t.database = d.name) :
    ∀ x ∈ a.diffDatabase b d, x.database = d.name := by
  intro x hx
  rw [diffDatabase] at hx
  cases h : b.database? d.name with
  | none =>
    rw [h] at hx
    rw [List.mem_singleton.1 hx]
    rfl
  | some e =>
    rw [h] at hx
    exact Database.database_of_mem_diff hd hx

theorem diffDatabase_eq_iff {b' : Schema} :
    a.diffDatabase b d = a.diffDatabase b' d ↔
      Option.Rel (fun e e' => d.diff a.caseMode e = d.diff a.caseMode e')
        (b.database? d.name) (b'.database? d.name) := by
  have hfound : ∀ e : Database, d.diff a.caseMode e ≠ [.missingDatabase d.name .right] :=
    fun e h => Database.missingDatabase_not_mem_diff _ _ (h ▸ List.mem_singleton_self _)
  rw [diffDatabase, diffDatabase]
  cases b.database? d.name with
  | none =>
    cases b'.database? d.name with
    | none => simp
    | some e' => simpa using (hfound e').symm
  | some e =>
    cases b'.database? d.name with
    | none => simpa using hfound e
    | some e' => simp

/-- The mode of the right schema does not matter if each database on the left is found, or not
found, with the same differences in the other mode. -/
theorem diff_withMode_eq_iff (ha : a.WellFormed) (mode : CaseMode) :
    a.diff { b with caseMode := mode } = a.diff b ↔
      ∀ d ∈ a.databases, Option.Rel (fun e e' => d.diff a.caseMode e = d.diff a.caseMode e')
        ({ b with caseMode := mode }.database? d.name) (b.database? d.name) := by
  simp only [← diffDatabase_eq_iff]
  rw [diff_eq_diffDatabase, diff_eq_diffDatabase, List.append_cancel_right_eq]
  refine ⟨fun h => ?_, List.flatMap_congr⟩
  have hkeys : (a.databases.map Database.name).Nodup :=
    .of_map _ (CaseMode.distinct_iff_nodup_key.1 ha.databases_distinct)
  have hmarked : ∀ b : Schema, ∀ d ∈ a.databases, ∀ x ∈ a.diffDatabase b d, x.database = d.name :=
    fun b d hd => database_of_mem_diffDatabase (ha.databases d hd).database_eq
  exact parts_eq_of_flatMap_eq hkeys (hmarked _) (hmarked _) h

/-- If a name on the right is found only as it is spelled, then it does not matter in which mode. -/
theorem database?_withMode (hsame : ∀ e ∈ b.databases,
      CaseMode.insensitive.namesEqual e.name name = true → e.name = name) (mode : CaseMode) :
    { b with caseMode := mode }.database? name = b.databases.find? fun e => e.name = name := by
  rw [database?, ← List.head?_filter, ← List.head?_filter]
  refine congrArg _ (List.filter_congr fun e he => ?_)
  rw [Bool.eq_iff_iff, decide_eq_true_eq]
  refine ⟨fun h => hsame e he (CaseMode.namesEqual_insensitive h), fun h => ?_⟩
  rw [h]
  exact CaseMode.namesEqual_refl mode name

theorem diff_withMode_eq_of_same (hsame : ∀ d ∈ a.databases, ∀ e ∈ b.databases,
      CaseMode.insensitive.namesEqual e.name d.name = true → e.name = d.name) (mode : CaseMode) :
    a.diff { b with caseMode := mode } = a.diff b := by
  rw [diff_eq_diffDatabase, diff_eq_diffDatabase]
  refine congrArg (· ++ _) (List.flatMap_congr fun d hd => ?_)
  rw [diffDatabase, diffDatabase, database?_withMode (hsame d hd),
    ← database?_withMode (hsame d hd) b.caseMode]

/-- What is found without letter case alone makes the mode of the right schema matter. -/
theorem same_of_diff_withMode_eq (ha : a.WellFormed)
    (hb : CaseMode.insensitive.Distinct b.databaseNames)
    (h : ∀ mode, a.diff { b with caseMode := mode } = a.diff b) :
    ∀ d ∈ a.databases, ∀ e ∈ b.databases,
      CaseMode.insensitive.namesEqual e.name d.name = true → e.name = d.name := by
  intro d hd e he heq
  -- With and without letter case the same is found.
  have hrel := (diff_withMode_eq_iff (b := { b with caseMode := .insensitive }) ha .sensitive).1
    ((h .sensitive).trans (h .insensitive).symm) d hd
  have hinsensitive : ({ b with caseMode := .insensitive }.database? d.name).isSome := by
    rw [database?, List.find?_isSome]
    exact ⟨e, he, heq⟩
  cases hfound : ({ b with caseMode := .sensitive } : Schema).database? d.name with
  | none =>
    rw [Option.isSome_iff_exists] at hinsensitive
    obtain ⟨e', he'⟩ := hinsensitive
    rw [hfound, he'] at hrel
    cases hrel
  | some e' =>
    have hequal := List.find?_some hfound
    have hname : e'.name = d.name := CaseMode.namesEqual_sensitive_iff.1 hequal
    rw [← hname] at heq ⊢
    rw [hb.eq_of_key_eq he (List.mem_of_find?_eq_some hfound)
      (CaseMode.key_eq_of_namesEqual heq)]

/-- Databases are looked for on the right in the mode of the right schema, and on the left in that
of the left one.  So what is listed does not depend on the mode of the right schema if and only if
each database on the left is found, or not found, with the same differences in every mode; where the
names on the right are distinct without letter case, if and only if none of them is that of a
database on the left in other letter case. -/
theorem diff_rightMode (a b : Schema) :
    (a.WellFormed → ∀ mode, a.diff { b with caseMode := mode } = a.diff b ↔
      ∀ d ∈ a.databases, Option.Rel (fun e e' => d.diff a.caseMode e = d.diff a.caseMode e')
        ({ b with caseMode := mode }.database? d.name) (b.database? d.name)) ∧
    (a.WellFormed → CaseMode.insensitive.Distinct b.databaseNames →
      ((∀ mode, a.diff { b with caseMode := mode } = a.diff b) ↔
        ∀ d ∈ a.databases, ∀ e ∈ b.databases,
          CaseMode.insensitive.namesEqual e.name d.name = true → e.name = d.name)) ∧
    ∀ name,
      (.missingDatabase name .right ∈ a.diff b ↔
        ∃ d ∈ a.databases, d.name = name ∧
          ∀ e ∈ b.databases, b.caseMode.namesEqual e.name name = false) ∧
      (.missingDatabase name .left ∈ a.diff b ↔
        ∃ e ∈ b.databases, e.name = name ∧
          ∀ d ∈ a.databases, a.caseMode.namesEqual d.name name = false) :=
  ⟨diff_withMode_eq_iff,
    fun ha hb => ⟨same_of_diff_withMode_eq ha hb, diff_withMode_eq_of_same⟩,
    fun _ => ⟨missingDatabase_right_mem_diff_iff, missingDatabase_left_mem_diff_iff⟩⟩

/-- The mode of the right schema matters for a database in other letter case, and not for those in
the same. -/
theorem diff_rightMode_shop :
    let schema (mode : CaseMode) (names : List String) : Schema :=
      ⟨"utf8mb4", mode, names.map fun name => ⟨name, "utf8mb4", []⟩⟩
    let a := schema .insensitive ["Shop", "Audit"]
    let b := schema .sensitive ["shop", "Audit"]
    let c := schema .sensitive ["Audit", "Shop"]
    ¬(∀ mode, a.diff { b with caseMode := mode } = a.diff b) ∧
      (∀ mode, a.diff { c with caseMode := mode } = a.diff c) ∧
      .missingDatabase "Shop" .right ∈ a.diff b ∧ .missingDatabase "shop" .left ∉ a.diff b := by
  intro schema a b c
  have ha : a.WellFormed := by decide +kernel
  have hb : CaseMode.insensitive.Distinct b.databaseNames := by decide +kernel
  have hc : CaseMode.insensitive.Distinct c.databaseNames := by decide +kernel
  refine ⟨fun h => ?_, ((diff_rightMode a c).2.1 ha hc).2 (by decide +kernel), ?_, ?_⟩
  · have hsame := ((diff_rightMode a b).2.1 ha hb).1 h ⟨"Shop", "utf8mb4", []⟩ (by decide +kernel)
      ⟨"shop", "utf8mb4", []⟩ (by decide +kernel) (by decide +kernel)
    exact absurd hsame (by decide)
  · exact ((diff_rightMode a b).2.2 "Shop").1.2 (by decide +kernel)
  · rw [((diff_rightMode a b).2.2 "shop").2]
    decide +kernel

/-- A database in other letter case is missing on the right alone where the left schema has no
letter case, and on the left alone where the right schema has none; in one mode it is missing on
neither side or on both. -/
theorem diff_mixedModes :
    let schema (mode : CaseMode) (name : String) : Schema :=
      ⟨"utf8mb4", mode, [⟨name, "utf8mb4", []⟩]⟩
    (schema .insensitive "Shop").diff (schema .sensitive "shop") =
        [.missingDatabase "Shop" .right] ∧
      (schema .insensitive "Shop").diff (schema .insensitive "shop") = [] ∧
      (schema .sensitive "Shop").diff (schema .insensitive "shop") =
        [.missingDatabase "shop" .left] ∧
      (schema .sensitive "Shop").diff (schema .sensitive "shop") =
        [.missingDatabase "Shop" .right, .missingDatabase "shop" .left] := by
  decide +kernel

end Schema

end SchemaTrail
