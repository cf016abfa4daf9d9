import SchemaTrail.Proofs.ColumnNames
import SchemaTrail.Proofs.DistinctNames

/-!
# Well-formed schemas

In a well-formed schema no two databases, no two tables of a database and no two columns of a table
have equal names, and every table names the database that holds it.  For a schema whose names are
known to be distinct this is a property of each table (`Schema.wellFormed_iff`).  Where moreover the
names belong to a coherent set (`Schema.Sound`), they are looked up by membership.
-/

namespace SchemaTrail

/-! ## Definitions -/

/-- The tables of the database have distinct names and columns, and name the database. -/
structure Database.WellFormed (mode : CaseMode) (d : Database) : Prop where
  tables_distinct : mode.Distinct d.tableNames
  database_eq : ∀ t ∈ d.tables, t.database = d.name
  columns_distinct : ∀ t ∈ d.tables, t.ColumnsDistinct

/-- The databases of the schema have distinct names and are well-formed. -/
structure Schema.WellFormed (s : Schema) : Prop where
  databases_distinct : s.caseMode.Distinct s.databaseNames
  databases : ∀ d ∈ s.databases, d.WellFormed s.caseMode

/-- A well-formed schema whose names belong to a coherent set. -/
structure Schema.Sound (names : String → Prop) (s : Schema) : Prop where
  coherent : s.caseMode.Coherent names
  wellFormed : s.WellFormed
  allNames : s.AllNames names

/-- A table that may be put into a schema: it names a database as that is stored, has a name of the
set and distinct columns. -/
structure Table.FitsIn (names : String → Prop) (s : Schema) (t : Table) : Prop where
  database_mem : t.database ∈ s.databaseNames
  name_mem : names t.name
  columns_distinct : t.ColumnsDistinct

/-- A table with distinct columns that names the database with a name. -/
structure Table.WellFormed (database : String) (t : Table) : Prop where
  database_eq : t.database = database
  columns_distinct : t.ColumnsDistinct

namespace Schema

variable {names : String → Prop} {s : Schema} {a b : String} {d : Database} {t : Table}

/-! ## Tables -/

theorem WellFormed.allTables (hs : s.WellFormed) : s.AllTables Table.WellFormed :=
  fun d hd t ht => ⟨(hs.databases d hd).database_eq t ht, (hs.databases d hd).columns_distinct t ht⟩

theorem WellFormed.namesDistinct (hs : s.WellFormed) : s.NamesDistinct :=
  ⟨hs.databases_distinct, fun d hd => (hs.databases d hd).tables_distinct⟩

/-- A schema is well-formed if its names are distinct and its tables are well-formed. -/
theorem wellFormed_iff : s.WellFormed ↔ s.NamesDistinct ∧ s.AllTables Table.WellFormed := by
  refine ⟨fun h => ⟨h.namesDistinct, h.allTables⟩, fun ⟨hnames, htables⟩ => ?_⟩
  refine ⟨hnames.databases, fun d hd => ⟨hnames.tables d hd, fun t ht => ?_, fun t ht => ?_⟩⟩
  · exact (htables d hd t ht).database_eq
  · exact (htables d hd t ht).columns_distinct

namespace Sound

variable (hs : s.Sound names)
include hs

theorem named : s.Named names :=
  ⟨hs.coherent, hs.wellFormed.namesDistinct, hs.allNames⟩

theorem name_mem (hd : d ∈ s.databases) : names d.name :=
  hs.named.name_mem hd

theorem tableName_mem (hd : d ∈ s.databases) (ht : t ∈ d.tables) : names t.name :=
  hs.named.tableName_mem hd ht

/-- The table that a name finds is found by the names that it is stored under, too. -/
theorem requireTable_stored (h : s.requireTable a b = .ok t) :
    s.requireTable t.database t.name = .ok t := by
  obtain ⟨d, hd, ht⟩ := requireTable_eq_ok_iff.1 h
  have hd := (mem_of_database? hd).1
  have ht := (Database.mem_of_table? ht).1
  rw [requireTable_eq_ok_iff]
  refine ⟨d, ?_, ?_⟩
  · rw [(hs.wellFormed.databases d hd).database_eq t ht]
    exact hs.named.database?_name hd
  · exact (hs.named.table?_eq_some_iff hd (hs.tableName_mem hd ht)).2
      ⟨ht, CaseMode.namesEqual_refl _ _⟩

end Sound

end Schema

end SchemaTrail
