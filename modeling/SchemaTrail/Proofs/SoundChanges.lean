import SchemaTrail.Proofs.WellFormed

/-!
# Changes keep schemas well-formed

A change that fits a sound schema (`Change.Fits`) and can be applied to it leaves a sound schema
(`Change.Fits.sound`).  Only the definitions of tables and the names of new databases have to fit;
that names are not taken is what applying a change checks itself.
-/

namespace SchemaTrail

open Outcome

/-! ## Changes that fit -/

theorem Table.FitsIn.of_sameDatabases {names : String → Prop} {s s' : Schema} {t : Table}
    (ht : t.FitsIn names s) (h : s.SameDatabases s') : t.FitsIn names s' :=
  ⟨h.databaseNames ▸ ht.database_mem, ht.name_mem, ht.columns_distinct⟩

/-- The names and definitions that a change brings into the schema are fit for it. -/
def Change.Fits (names : String → Prop) (s : Schema) : Change → Prop
  | .createDatabase database _ => names database
  | .createTable _ _ definition => definition.FitsIn names s
  | .alterTable database table _ definition =>
    names database ∧ names table ∧ definition.FitsIn names s
  | .renameTables renames =>
    ∀ r ∈ renames, names r.database ∧ names r.table ∧ r.definition.FitsIn names s
  | .alterDatabase .. | .dropDatabase _ | .dropTable .. => True

namespace Change.Fits

variable {names : String → Prop} {s s' : Schema} {c : Change} (hc : c.Fits names s)
include hc

theorem definitions_fit : ∀ t ∈ c.definitions, t.FitsIn names s := by
  cases c with
  | createTable database table definition => exact List.forall_mem_singleton.2 hc
  | alterTable database table old definition => exact List.forall_mem_singleton.2 hc.2.2
  | renameTables renames => exact List.forall_mem_map.2 fun r hr => (hc r hr).2.2
  | _ => simp [definitions]

theorem names_mem (hs : s.Sound names) : ∀ a ∈ c.names, names a := by
  have hreplacement : ∀ {database table : String} {t : Table}, names database → names table →
      t.FitsIn names s → ∀ a ∈ t.replacementNames database table, names a := by
    intro database table t hdatabase htable ht
    simp only [Table.replacementNames, List.forall_mem_cons]
    exact ⟨hdatabase, htable, hs.named.databaseName_mem ht.database_mem, ht.name_mem, by simp⟩
  cases c with
  | createDatabase database charset => exact List.forall_mem_singleton.2 hc
  | createTable database table definition =>
    simp only [Change.names, List.forall_mem_cons]
    exact ⟨hs.named.databaseName_mem hc.database_mem, hc.name_mem, by simp⟩
  | alterTable database table old definition => exact hreplacement hc.1 hc.2.1 hc.2.2
  | renameTables renames =>
    intro a ha
    obtain ⟨r, hr, ha⟩ := List.mem_flatMap.1 ha
    exact hreplacement (hc r hr).1 (hc r hr).2.1 (hc r hr).2.2 a ha
  | _ => simp [Change.names]

/-- A change that fits a sound schema leaves a sound one. -/
theorem sound (hs : s.Sound names) (h : c.apply s = .ok s') : s'.Sound names := by
  have hnames := hc.names_mem hs
  have hnamed := hs.named.apply hnames h
  refine ⟨hnamed.coherent, Schema.wellFormed_iff.2 ⟨hnamed.distinct, ?_⟩, hnamed.allNames⟩
  refine hs.wellFormed.allTables.apply h (fun n hn t ht a ha hna hat => ?_)
    fun _ _ _ _ ht => ⟨ht.database_eq, ht.columns_distinct⟩
  -- The definition names a database as that is stored, so it is put into just that one.
  have hfit := hc.definitions_fit t ht
  have ht' := hs.named.databaseName_mem hfit.database_mem
  have hn' := hs.named.databaseName_mem hn
  refine ⟨hs.named.databaseName_unique ht' hfit.database_mem hn ?_ ?_, hfit.columns_distinct⟩
  · exact CaseMode.namesEqual_refl _ _
  · exact hs.coherent.trans hn' (hnames a ha) ht' hna hat

end Change.Fits

/-! ## Updates of tables -/

namespace Schema.Sound

variable {names : String → Prop} {s s' : Schema} (hs : s.Sound names) {database table : String}
include hs

theorem takeTable (h : s.updateTable database table (fun _ => []) = .ok s') : s'.Sound names :=
  Change.Fits.sound (c := .dropTable database table) trivial hs h

theorem replaceTable {new : Table} (hfit : new.FitsIn names s) (hdatabase : names database)
    (htable : names table) (h : s.replaceTable database table new = .ok s') : s'.Sound names :=
  Change.Fits.sound (c := .alterTable database table new new) ⟨hdatabase, htable, hfit⟩ hs h

end Schema.Sound

end SchemaTrail
