import SchemaTrail.Proofs.Documents
import SchemaTrail.Proofs.WellFormed

/-!
# Applying any change

A change that is read from a document need not be one that a request resolves to.  Applying it
checks that databases and tables exist or do not exist, but not the tables that it defines.  So a
well-formed schema stays well-formed if and only if those of the definitions that it holds
afterwards are well-formed where they are (`Change.apply_wellFormed_iff`); names stay distinct as
far as their equality is an equivalence.
-/

namespace SchemaTrail

/-! ## Checking well-formedness -/

section Instances

instance (mode : CaseMode) (names : List String) : Decidable (mode.Distinct names) :=
  inferInstanceAs (Decidable (names.Pairwise _))

instance (t : Table) : Decidable t.ColumnsDistinct :=
  inferInstanceAs (Decidable (t.columns.names.Pairwise _))

instance (database : String) (t : Table) : Decidable (t.WellFormed database) :=
  decidable_of_iff (t.database = database ∧ t.ColumnsDistinct)
    ⟨fun h => ⟨h.1, h.2⟩, fun h => ⟨h.1, h.2⟩⟩

instance (p : String → Prop) [DecidablePred p] (s : Schema) : Decidable (s.AllNames p) :=
  inferInstanceAs (Decidable (∀ d ∈ s.databases, p d.name ∧ ∀ t ∈ d.tables, p t.name))

instance (s : Schema) : Decidable s.NamesDistinct :=
  decidable_of_iff (s.caseMode.Distinct s.databaseNames ∧
      ∀ d ∈ s.databases, s.caseMode.Distinct d.tableNames)
    ⟨fun h => ⟨h.1, h.2⟩, fun h => ⟨h.1, h.2⟩⟩

instance (s : Schema) : Decidable s.WellFormed :=
  decidable_of_iff (s.NamesDistinct ∧ ∀ d ∈ s.databases, ∀ t ∈ d.tables, t.WellFormed d.name)
    Schema.wellFormed_iff.symm

end Instances

/-! ## The schema after a change -/

namespace Change

variable {s s' : Schema} {c : Change}

/-- After a change to a well-formed schema, every table is well-formed or is one that the change
defines, in a database of its name. -/
theorem allTables_of_apply (hs : s.WellFormed) (h : c.apply s = .ok s') :
    s'.AllTables fun n t => t.WellFormed n ∨ t ∈ c.definitions ∧
      (s.caseMode = .sensitive → t.database = n) := by
  have hall : s.AllTables fun n t => t.WellFormed n ∨ t ∈ c.definitions ∧
      (s.caseMode = .sensitive → t.database = n) :=
    fun d hd t ht => .inl (hs.allTables d hd t ht)
  refine hall.apply h (fun n _ t ht a _ hna hat => .inr ⟨ht, fun hmode => ?_⟩) ?_
  · rw [hmode, CaseMode.namesEqual, beq_iff_eq] at hna hat
    exact (hna.trans hat).symm
  · rintro hnone n t charset (ht | ⟨ht, -⟩)
    · exact .inl ⟨ht.database_eq, ht.columns_distinct⟩
    · rw [hnone] at ht
      cases ht

theorem namesDistinct_of_apply (hs : s.WellFormed) {names : String → Prop}
    (hcoherent : s.caseMode.Coherent names) (hnames : s.AllNames names)
    (hc : ∀ a ∈ c.names, names a) (h : c.apply s = .ok s') : s'.NamesDistinct :=
  (Schema.Named.apply ⟨hcoherent, hs.namesDistinct, hnames⟩ hc h).distinct

/-- A change, whether resolved from a request or not, takes a well-formed schema to one that is
well-formed if and only if names are distinct and each definition that is held has distinct columns
and names its database as that is stored.  With letter case, and else if all names belong to a
coherent set, names are distinct in any case; with letter case databases are named as they are
stored, too. -/
theorem apply_wellFormed_iff (hs : s.WellFormed) (h : c.apply s = .ok s') :
    (s'.WellFormed ↔ s'.NamesDistinct ∧ ∀ d ∈ s'.databases, ∀ t ∈ d.tables, t ∈ c.definitions →
      t.ColumnsDistinct ∧ (s.caseMode ≠ .sensitive → t.database = d.name)) ∧
    ((s.caseMode = .sensitive ∨ ∃ names : String → Prop, s.caseMode.Coherent names ∧
      s.AllNames names ∧ ∀ a ∈ c.names, names a) → s'.NamesDistinct) := by
  constructor
  · rw [Schema.wellFormed_iff]
    refine and_congr_right fun _ => ⟨fun htables d hd t ht _ => ?_, fun hheld d hd t ht => ?_⟩
    · exact ⟨(htables d hd t ht).columns_distinct, fun _ => (htables d hd t ht).database_eq⟩
    · obtain ht' | ⟨hmem, hdatabase⟩ := allTables_of_apply hs h d hd t ht
      · exact ht'
      · obtain ⟨hcolumns, hstored⟩ := hheld d hd t ht hmem
        exact ⟨(Decidable.em _).elim hdatabase hstored, hcolumns⟩
  · rintro (hmode | ⟨names, hcoherent, hnames, hc⟩)
    · have hcoherent := CaseMode.coherent_sensitive fun _ => True
      rw [← hmode] at hcoherent
      exact namesDistinct_of_apply hs hcoherent (fun _ _ => ⟨trivial, fun _ _ => trivial⟩)
        (fun _ _ => trivial) h
    · exact namesDistinct_of_apply hs hcoherent hnames hc h

/-- Two tables that exchange their names with the help of another database. -/
theorem apply_wellFormed_exchanged :
    let table (database name column : String) : Table :=
      .create database name "utf8mb4" [⟨column, .date, 0⟩] []
    let database (name : String) (tables : List Table) : Database := ⟨name, "utf8mb4", tables⟩
    let s : Schema := ⟨"utf8mb4", .insensitive,
      [database "Shop" [table "Shop" "Old" "a", table "Shop" "New" "b"], database "Spare" []]⟩
    let c : Change := .renameTables [⟨"shop", "old", table "Spare" "Old" "a"⟩,
      ⟨"shop", "new", table "Shop" "Old" "b"⟩, ⟨"spare", "old", table "Shop" "New" "a"⟩]
    ∃ s', c.apply s = .ok s' ∧ s'.WellFormed := by
  intro table database s c
  let s' : Schema := ⟨"utf8mb4", .insensitive,
    [database "Shop" [table "Shop" "Old" "b", table "Shop" "New" "a"], database "Spare" []]⟩
  have h : c.apply s = .ok s' := Outcome.toOption_eq_some_iff.1 (by decide +kernel)
  obtain ⟨hiff, hdistinct⟩ := apply_wellFormed_iff (by decide +kernel) h
  have hascii : s.AllNames (fun a => Text.isAscii a = true) ∧
      ∀ a ∈ c.names, Text.isAscii a = true := by decide +kernel
  refine ⟨s', h, hiff.2 ⟨hdistinct (.inr ⟨_, CaseMode.coherent_isAscii _, hascii⟩), ?_⟩⟩
  decide +kernel

/-- A change that, read from its own text, takes a well-formed schema to one that is not. -/
def Spoils (c : Change) (s : Schema) : Prop :=
  s.WellFormed ∧ ofText? c.text = some c ∧ ∃ s', c.apply s = .ok s' ∧ ¬ s'.WellFormed

instance (c : Change) (s : Schema) : Decidable (c.Spoils s) :=
  decidable_of_iff
    (s.WellFormed ∧ c.lowered = c ∧ ∃ s' ∈ (c.apply s).toOption, ¬ s'.WellFormed) <| by
      simp only [Spoils, (ofText?_text_eq_self_iff c).1, Option.mem_def,
        Outcome.toOption_eq_some_iff]

/-- A definition with equal columns; one that spells its database in another way than it is stored;
and a database named by a sign that equals a stored letter only in the other direction. -/
theorem spoils_createTable_createDatabase :
    let table (database : String) (columns : List String) : Table :=
      .create database "t" "utf8mb4" (columns.map fun name => ⟨name, .date, 0⟩) []
    let schema (mode : CaseMode) (database : String) : Schema :=
      ⟨"utf8mb4", mode, [⟨database, "utf8mb4", []⟩]⟩
    (createTable "d" "t" (table "d" ["a", "A"])).Spoils (schema .sensitive "d") ∧
    (createTable "d" "t" (table "D" ["a"])).Spoils (schema .insensitive "d") ∧
    (createDatabase "\u212A" "utf8mb4").Spoils (schema .insensitive "k") := by
  decide +kernel

end Change

end SchemaTrail
