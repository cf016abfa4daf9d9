import Mathlib.Data.List.Forall2
import Mathlib.Data.List.Nodup
import SchemaTrail.Proofs.AppliedChanges
import SchemaTrail.Proofs.Documents
import SchemaTrail.Schema.Difference

/-!
# Schemas without differences

`Schema.Agrees` says when two schemas describe the same: their databases correspond one by one
(`Correspond`), in corresponding databases the tables do, and in corresponding tables the columns
agree place by place.  Where no name is ambiguous (`Schema.Unambiguous`), `Schema.diff` lists
nothing if and only if the schemas agree (`Schema.diff_eq_nil_iff_agrees`): what it looks up by name
from both sides is the one thing that corresponds, and a column that is found in its own position
cannot stand in for another one.
-/

namespace SchemaTrail

/-! ## Lists that correspond -/

/-- The items of two lists belong together one by one, in whatever order they stand. -/
def Correspond {α β : Type} (R : α → β → Prop) (as : List α) (bs : List β) : Prop :=
  ∃ cs, List.Forall₂ R as cs ∧ cs.Perm bs

namespace Correspond

variable {α β : Type} {R S : α → β → Prop} {as : List α} {bs : List β}

theorem mono (h : Correspond R as bs) (hRS : ∀ a ∈ as, ∀ b ∈ bs, R a b → S a b) :
    Correspond S as bs := by
  obtain ⟨cs, hcs, hperm⟩ := h
  simp only [← hperm.mem_iff] at hRS
  rw [List.forall₂_iff_zip] at hcs
  exact ⟨cs, List.forall₂_iff_zip.2 ⟨hcs.1, fun hab =>
    hRS _ (List.of_mem_zip hab).1 _ (List.of_mem_zip hab).2 (hcs.2 hab)⟩, hperm⟩

theorem congr (h : ∀ a ∈ as, ∀ b ∈ bs, R a b ↔ S a b) :
    Correspond R as bs ↔ Correspond S as bs :=
  ⟨fun hR => hR.mono fun a ha b hb => (h a ha b hb).1,
    fun hS => hS.mono fun a ha b hb => (h a ha b hb).2⟩

theorem map_right {f : α → β} (h : ∀ a ∈ as, R a (f a)) : Correspond R as (as.map f) :=
  ⟨as.map f, List.forall₂_map_right_iff.2 (List.forall₂_same.2 h), .refl _⟩

theorem map_left {f : β → α} (h : ∀ b ∈ bs, R (f b) b) : Correspond R (bs.map f) bs :=
  ⟨bs, List.forall₂_map_left_iff.2 (List.forall₂_same.2 h), .refl _⟩

theorem exists_right (h : Correspond R as bs) : ∀ a ∈ as, ∃ b ∈ bs, R a b := by
  obtain ⟨cs, hcs, hperm⟩ := h
  simp only [← hperm.mem_iff]
  clear hperm
  induction hcs with
  | nil => simp
  | cons hab _ ih =>
    refine List.forall_mem_cons.2 ⟨⟨_, List.mem_cons_self, hab⟩, fun a ha => ?_⟩
    obtain ⟨b, hb, hR⟩ := ih a ha
    exact ⟨b, List.mem_cons_of_mem _ hb, hR⟩

theorem exists_left (h : Correspond R as bs) : ∀ b ∈ bs, ∃ a ∈ as, R a b := by
  obtain ⟨cs, hcs, hperm⟩ := h
  simp only [← hperm.mem_iff]
  clear hperm
  induction hcs with
  | nil => simp
  | cons hab _ ih =>
    refine List.forall_mem_cons.2 ⟨⟨_, List.mem_cons_self, hab⟩, fun b hb => ?_⟩
    obtain ⟨a, ha, hR⟩ := ih b hb
    exact ⟨a, List.mem_cons_of_mem _ ha, hR⟩

/-- If every item has one that belongs to it on the other side, and no two items share one, then
the lists correspond. -/
theorem of_exists (hleft : as.Pairwise fun a a' => ∀ b ∈ bs, ¬(S a b ∧ S a' b))
    (hright : bs.Pairwise fun b b' => ∀ a ∈ as, ¬(S a b ∧ S a b')) (hRS : ∀ {a b}, R a b → S a b)
    (ha : ∀ a ∈ as, ∃ b ∈ bs, R a b) (hb : ∀ b ∈ bs, ∃ a ∈ as, S a b) : Correspond R as bs := by
  induction as generalizing bs with
  | nil =>
    have hnil : bs = [] := List.eq_nil_iff_forall_not_mem.2 fun b h => by simpa using hb b h
    exact ⟨[], .nil, hnil ▸ .refl _⟩
  | cons a as ih =>
    obtain ⟨⟨b, hmem, hab⟩, ha⟩ := List.forall_mem_cons.1 ha
    obtain ⟨ha', hleft⟩ := List.pairwise_cons.1 hleft
    obtain ⟨front, back, rfl⟩ := List.append_of_mem hmem
    rw [List.pairwise_middle fun h a ha hS => h a ha hS.symm, List.pairwise_cons] at hright
    obtain ⟨hb', hright⟩ := hright
    have hsplit : ∀ {c}, c ∈ front ++ b :: back ↔ c = b ∨ c ∈ front ++ back := by
      simp [or_left_comm]
    -- What is left without `a` and `b` belongs together: nothing else belongs to one of them.
    have hrest : Correspond R as (front ++ back) := by
      refine ih (hleft.imp fun h c hc => h c (hsplit.2 (.inr hc)))
        (hright.imp fun h c hc => h c (List.mem_cons_of_mem a hc)) (fun c hc => ?_) fun d hd => ?_
      · obtain ⟨d, hd, hcd⟩ := ha c hc
        rcases hsplit.1 hd with rfl | hd
        · exact absurd ⟨hRS hab, hRS hcd⟩ (ha' c hc d hmem)
        · exact ⟨d, hd, hcd⟩
      · obtain ⟨c, hc, hcd⟩ := hb d (hsplit.2 (.inr hd))
        rcases List.mem_cons.1 hc with rfl | hc
        · exact absurd ⟨hRS hab, hcd⟩ (hb' d hd c List.mem_cons_self)
        · exact ⟨c, hc, hcd⟩
    obtain ⟨cs, hcs, hperm⟩ := hrest
    exact ⟨b :: cs, .cons hab hcs, (hperm.cons b).trans List.perm_middle.symm⟩

end Correspond

/-! ## Names that are not ambiguous -/

namespace CaseMode

/-- On the names of a set, equality is an equivalence relation. -/
def EquivalenceOn (mode : CaseMode) (names : String → Prop) : Prop :=
  Equivalence fun a b : Subtype names => mode.namesEqual a b = true

/-- Names of a set of which no two are equal. -/
structure DistinctIn (mode : CaseMode) (names : String → Prop) (xs : List String) : Prop where
  distinct : mode.Distinct xs
  mem : ∀ a ∈ xs, names a

variable {mode : CaseMode} {names : String → Prop} {a b c : String}

theorem namesEqual_storedName (mode : CaseMode) (a : String) :
    mode.namesEqual a (mode.storedName a) = true := by
  cases mode with
  | sensitive => exact namesEqual_refl _ a
  | insensitive => exact namesEqual_refl _ a
  | lowered =>
    by_cases ha : Text.isAscii a = true
    · rw [namesEqual_of_isAscii (by decide) ha, storedName, Text.lower_of_isAscii ha,
        Text.equalIgnoringCase, Text.asciiLower_asciiLower]
      exact beq_self_eq_true _
    · rw [Bool.not_eq_true] at ha
      simp [namesEqual, storedName, ha, Text.lower_lower]

theorem Coherent.equivalenceOn (h : mode.Coherent names) : mode.EquivalenceOn names where
  refl a := namesEqual_refl mode a
  symm {a b} hab := h.symm a.2 b.2 hab
  trans {a b c} hab hbc := h.trans a.2 b.2 c.2 hab hbc

namespace EquivalenceOn

variable (h : mode.EquivalenceOn names)
include h

theorem symm (ha : names a) (hb : names b) (hab : mode.namesEqual a b = true) :
    mode.namesEqual b a = true :=
  Equivalence.symm h (x := ⟨a, ha⟩) (y := ⟨b, hb⟩) hab

theorem trans (ha : names a) (hb : names b) (hc : names c) (hab : mode.namesEqual a b = true)
    (hbc : mode.namesEqual b c = true) : mode.namesEqual a c = true :=
  Equivalence.trans h (x := ⟨a, ha⟩) (y := ⟨b, hb⟩) (z := ⟨c, hc⟩) hab hbc

/-- A set of names is coherent if equality is an equivalence relation on it, and if it has the
stored form of each of its names: a name always equals its stored form. -/
theorem coherent (hstored : ∀ {a}, names a → names (mode.storedName a)) : mode.Coherent names where
  symm := h.symm
  trans := h.trans
  stored := hstored
  namesEqual_stored ha := h.symm ha (hstored ha) (namesEqual_storedName mode _)

variable {α : Type} {name : α → String} {xs ys : List α} {x : α}

/-- A name is looked up by membership. -/
theorem find?_eq_some_iff (hxs : mode.DistinctIn names (xs.map name)) (ha : names a) :
    (xs.find? fun y => mode.namesEqual (name y) a) = some x ↔
      x ∈ xs ∧ mode.namesEqual a (name x) = true := by
  have hname : ∀ {y}, y ∈ xs → names (name y) := fun hy => hxs.mem _ (List.mem_map_of_mem hy)
  constructor
  · intro hfind
    have hx := List.mem_of_find?_eq_some hfind
    have hxa := List.find?_some hfind
    exact ⟨hx, h.symm (hname hx) ha hxa⟩
  · rintro ⟨hx, hax⟩
    cases hfind : xs.find? fun y => mode.namesEqual (name y) a with
    | none =>
      exact absurd (h.symm ha (hname hx) hax) (List.find?_eq_none.1 hfind x hx)
    | some y =>
      have hy := List.mem_of_find?_eq_some hfind
      have hya := List.find?_some hfind
      rw [hxs.distinct.eq_of_namesEqual hy hx (h.trans (hname hy) ha (hname hx) hya hax)]

/-- Things with distinct names correspond if each of the one side is found on the other. -/
theorem correspond_iff_find? {R : α → α → Prop} (hxs : mode.DistinctIn names (xs.map name))
    (hys : mode.DistinctIn names (ys.map name)) :
    Correspond (fun x y => mode.namesEqual (name x) (name y) = true ∧ R x y) xs ys ↔
      (∀ x ∈ xs, ∃ y, (ys.find? fun y => mode.namesEqual (name y) (name x)) = some y ∧ R x y) ∧
        ∀ y ∈ ys, (xs.any fun x => mode.namesEqual (name x) (name y)) = true := by
  have hx : ∀ {x}, x ∈ xs → names (name x) := fun h => hxs.mem _ (List.mem_map_of_mem h)
  have hy : ∀ {y}, y ∈ ys → names (name y) := fun h => hys.mem _ (List.mem_map_of_mem h)
  constructor
  · intro hcorr
    refine ⟨fun x hxmem => ?_, fun y hymem => List.any_eq_true.2 ?_⟩
    · obtain ⟨y, hymem, hxy, hR⟩ := hcorr.exists_right x hxmem
      exact ⟨y, (h.find?_eq_some_iff hys (hx hxmem)).2 ⟨hymem, hxy⟩, hR⟩
    · obtain ⟨x, hxmem, hxy, -⟩ := hcorr.exists_left y hymem
      exact ⟨x, hxmem, hxy⟩
  · rintro ⟨hfind, hany⟩
    refine .of_exists (S := fun x y => mode.namesEqual (name x) (name y) = true) ?_ ?_ And.left
      (fun x hxmem => ?_) (fun y hymem => ?_)
    · refine (List.pairwise_map.1 hxs.distinct).imp_of_mem fun hxmem hxmem' hne y hymem hS => ?_
      have heq := h.trans (hx hxmem) (hy hymem) (hx hxmem') hS.1
        (h.symm (hx hxmem') (hy hymem) hS.2)
      exact absurd (heq.symm.trans hne.1) (by decide)
    · refine (List.pairwise_map.1 hys.distinct).imp_of_mem fun hymem hymem' hne x hxmem hS => ?_
      have heq := h.trans (hy hymem) (hx hxmem) (hy hymem')
        (h.symm (hx hxmem) (hy hymem) hS.1) hS.2
      exact absurd (heq.symm.trans hne.1) (by decide)
    · obtain ⟨y, hfound, hR⟩ := hfind x hxmem
      obtain ⟨hymem, hxy⟩ := (h.find?_eq_some_iff hys (hx hxmem)).1 hfound
      exact ⟨y, hymem, hxy, hR⟩
    · exact List.any_eq_true.1 (hany y hymem)

end EquivalenceOn

end CaseMode

/-! ## Schemas that agree -/

/-- Two columns that say the same, up to the letter case of their names and charsets. -/
structure Column.Agrees (a b : Column) : Prop where
  name : columnNamesEqual a.name b.name = true
  typeName : a.typeName = b.typeName
  charset : Option.Rel (fun x y => Text.equalIgnoringCase x y = true)
    a.kind.charset? b.kind.charset?
  signed : a.kind.signed? = b.kind.signed?
  values : a.kind.values? = b.kind.values?
  precision : a.kind.precision? = b.kind.precision?

/-- Two tables with the same charset and primary key, and the same columns in the same places. -/
structure Table.Agrees (a b : Table) : Prop where
  charset : Text.equalIgnoringCase a.charset b.charset = true
  primaryKey : List.Forall₂ (fun x y => columnNamesEqual x y = true) a.primaryKey b.primaryKey
  columns : List.Forall₂ Column.Agrees a.columns.toList b.columns.toList

/-- Two databases with the same charset and the same tables, in whatever order. -/
structure Database.Agrees (mode : CaseMode) (a b : Database) : Prop where
  charset : Text.equalIgnoringCase a.charset b.charset = true
  tables : Correspond (fun t u => mode.namesEqual t.name u.name = true ∧ t.Agrees u)
    a.tables b.tables

/-- Two schemas with the same databases, in whatever order. -/
def Schema.Agrees (a b : Schema) : Prop :=
  Correspond (fun d e => a.caseMode.namesEqual d.name e.name = true ∧ d.Agrees a.caseMode e)
    a.databases b.databases

/-- A database whose tables have distinct names of a set, each with distinct columns. -/
structure Database.Unambiguous (mode : CaseMode) (names : String → Prop) (d : Database) : Prop where
  distinct : mode.DistinctIn names d.tableNames
  tables : ∀ t ∈ d.tables, t.ColumnsDistinct

/-- A schema whose databases have distinct names of a set, each without ambiguous names. -/
structure Schema.Unambiguous (names : String → Prop) (s : Schema) : Prop where
  distinct : s.caseMode.DistinctIn names s.databaseNames
  databases : ∀ d ∈ s.databases, d.Unambiguous s.caseMode names

section Instances

variable (mode : CaseMode) (names : String → Prop) [DecidablePred names]

instance (xs : List String) : Decidable (mode.DistinctIn names xs) :=
  decidable_of_iff (mode.Distinct xs ∧ ∀ a ∈ xs, names a)
    ⟨fun h => ⟨h.1, h.2⟩, fun h => ⟨h.1, h.2⟩⟩

instance (d : Database) : Decidable (d.Unambiguous mode names) :=
  decidable_of_iff (mode.DistinctIn names d.tableNames ∧ ∀ t ∈ d.tables, t.ColumnsDistinct)
    ⟨fun h => ⟨h.1, h.2⟩, fun h => ⟨h.1, h.2⟩⟩

instance (s : Schema) : Decidable (s.Unambiguous names) :=
  decidable_of_iff (s.caseMode.DistinctIn names s.databaseNames ∧
      ∀ d ∈ s.databases, d.Unambiguous s.caseMode names)
    ⟨fun h => ⟨h.1, h.2⟩, fun h => ⟨h.1, h.2⟩⟩

end Instances

/-! ## What is compared -/

@[simp] theorem unlessHolds_eq_nil_iff {α : Type} {condition : Bool} {item : α} :
    unlessHolds condition item = [] ↔ condition = true := by
  cases condition <;> simp [unlessHolds]

/-- Nothing is listed for items that are looked up if each is found and does not differ. -/
theorem flatMap_eq_nil_iff_found {α β δ : Type} {item : α → List δ} {as : List α}
    (find : α → Option β) (compare : α → β → List δ) (hnone : ∀ a, find a = none → item a ≠ [])
    (hsome : ∀ a b, find a = some b → item a = compare a b) :
    as.flatMap item = [] ↔ ∀ a ∈ as, ∃ b, find a = some b ∧ compare a b = [] := by
  rw [List.flatMap_eq_nil_iff]
  refine forall₂_congr fun a _ => ?_
  cases h : find a with
  | none => simp [hnone a h]
  | some b => simp [hsome a b h]

theorem sameCharset_iff {a b : Option String} :
    sameCharset a b = true ↔ Option.Rel (fun x y => Text.equalIgnoringCase x y = true) a b := by
  cases a <;> cases b <;> simp [sameCharset, Option.rel_some_some]

theorem columnNamesEqual_comm (a b : String) : columnNamesEqual a b = columnNamesEqual b a := by
  rw [Bool.eq_iff_iff, columnNamesEqual_iff, columnNamesEqual_iff, eq_comm]

theorem sameKey_iff {as bs : List String} :
    sameKey as bs = true ↔ List.Forall₂ (fun x y => columnNamesEqual x y = true) as bs := by
  induction as generalizing bs with
  | nil => cases bs <;> simp [sameKey]
  | cons a as ih => cases bs <;> simp [sameKey, ih]

namespace Table

variable {a b t : Table} {c d : Column} {name : String}

theorem ColumnsDistinct.column?_eq_some_iff (ht : t.ColumnsDistinct) :
    t.column? name = some c ↔ c ∈ t.columns.toList ∧ columnNamesEqual c.name name = true := by
  rw [columnNamesEqual_iff, column?, ColumnList.find?_eq]
  constructor
  · intro h
    have hname := List.find?_some h
    exact ⟨List.mem_of_find?_eq_some h, by simpa [Column.isNamed] using hname⟩
  · rintro ⟨hc, hname⟩
    cases h : t.columns.toList.find? fun c => c.isNamed name with
    | none => exact absurd hname (by simpa [Column.isNamed] using List.find?_eq_none.1 h c hc)
    | some d =>
      have hd := List.find?_some h
      rw [Column.isNamed, decide_eq_true_eq, ← hname] at hd
      rw [List.inj_on_of_nodup_map (columnsDistinct_iff.1 ht) (List.mem_of_find?_eq_some h) hc hd]

theorem diffColumn_eq_nil_iff (h : columnNamesEqual c.name d.name = true) :
    t.diffColumn c d = [] ↔ c.position = d.position ∧ c.Agrees d := by
  rw [diffColumn]
  by_cases htype : c.typeName = d.typeName
  · simp only [htype, ne_eq, not_true_eq_false, if_false, List.append_eq_nil_iff,
      unlessHolds_eq_nil_iff, List.map_eq_nil_iff, ColumnKind.mismatches, sameCharset_iff,
      decide_eq_true_eq]
    exact and_congr_right fun _ =>
      ⟨fun ⟨⟨⟨hcharset, hsigned⟩, hvalues⟩, hprecision⟩ =>
        ⟨h, htype, hcharset, hsigned, hvalues, hprecision⟩,
      fun hagrees => ⟨⟨⟨hagrees.charset, hagrees.signed⟩, hagrees.values⟩, hagrees.precision⟩⟩
  · rw [if_pos htype]
    exact ⟨fun h => by simp at h, fun h => absurd h.2.typeName htype⟩

/-- Columns agree place by place if each is found on the other side, in its own position. -/
theorem columns_agree_iff (ha : a.ColumnsDistinct) (hb : b.ColumnsDistinct) :
    List.Forall₂ Column.Agrees a.columns.toList b.columns.toList ↔
      (∀ c ∈ a.columns.toList, ∃ d, b.column? c.name = some d ∧ a.diffColumn c d = []) ∧
        ∀ d ∈ b.columns.toList, (a.column? d.name).isSome = true := by
  rw [List.forall₂_iff_get]
  constructor
  · rintro ⟨hlen, hagree⟩
    constructor
    · intro c hc
      obtain ⟨i, hi, rfl⟩ := List.getElem_of_mem hc
      have hi' : i < b.columns.toList.length := hlen ▸ hi
      have hcd : Column.Agrees a.columns.toList[i] b.columns.toList[i] := hagree i hi hi'
      refine ⟨b.columns.toList[i], hb.column?_eq_some_iff.2 ⟨List.getElem_mem hi', ?_⟩, ?_⟩
      · rw [columnNamesEqual_comm, hcd.name]
      · rw [diffColumn_eq_nil_iff hcd.name, a.columns.position_getElem hi,
          b.columns.position_getElem hi']
        exact ⟨rfl, hcd⟩
    · intro d hd
      obtain ⟨i, hi', rfl⟩ := List.getElem_of_mem hd
      have hi : i < a.columns.toList.length := hlen ▸ hi'
      exact Option.isSome_iff_exists.2 ⟨a.columns.toList[i],
        ha.column?_eq_some_iff.2 ⟨List.getElem_mem hi, (hagree i hi hi').name⟩⟩
  · rintro ⟨hleft, hright⟩
    have hplace : ∀ i (hi : i < a.columns.toList.length), ∃ hi' : i < b.columns.toList.length,
        Column.Agrees a.columns.toList[i] b.columns.toList[i] := by
      intro i hi
      obtain ⟨d, hfound, hdiff⟩ := hleft _ (List.getElem_mem hi)
      obtain ⟨hd, hname⟩ := hb.column?_eq_some_iff.1 hfound
      rw [columnNamesEqual_comm] at hname
      obtain ⟨hposition, hagrees⟩ := (diffColumn_eq_nil_iff hname).1 hdiff
      obtain ⟨j, hj, rfl⟩ := List.getElem_of_mem hd
      rw [a.columns.position_getElem hi, b.columns.position_getElem hj] at hposition
      subst hposition
      exact ⟨hj, hagrees⟩
    -- A column on the right beyond those on the left would have the name of another one.
    have hback : ∀ j, j < b.columns.toList.length → j < a.columns.toList.length := by
      intro j hj
      obtain ⟨c, hfound⟩ := Option.isSome_iff_exists.1 (hright _ (List.getElem_mem hj))
      obtain ⟨hc, hname⟩ := ha.column?_eq_some_iff.1 hfound
      obtain ⟨i, hi, rfl⟩ := List.getElem_of_mem hc
      obtain ⟨hi', hagrees⟩ := hplace i hi
      have hkey : Text.lower b.columns.toList[i].name = Text.lower b.columns.toList[j].name := by
        rw [← columnNamesEqual_iff.1 hagrees.name, columnNamesEqual_iff.1 hname]
      have hsame := List.inj_on_of_nodup_map (columnsDistinct_iff.1 hb) (List.getElem_mem hi')
        (List.getElem_mem hj) hkey
      have hposition := congrArg Column.position hsame
      rw [b.columns.position_getElem hi', b.columns.position_getElem hj] at hposition
      omega
    refine ⟨?_, fun i hi _ => (hplace i hi).2⟩
    have hle : ∀ {m n : Nat}, (∀ i, i < m → i < n) → m ≤ n := fun {m n} h => by
      by_contra hlt
      exact absurd (h n (by omega)) (Nat.lt_irrefl n)
    exact Nat.le_antisymm (hle fun i hi => (hplace i hi).1) (hle hback)

/-- Tables with distinct columns agree if and only if nothing differs in them. -/
theorem diff_eq_nil_iff (ha : a.ColumnsDistinct) (hb : b.ColumnsDistinct) :
    a.diff b = [] ↔ a.Agrees b := by
  have hcolumns := columns_agree_iff ha hb
  rw [diff]
  simp only [List.append_eq_nil_iff, unlessHolds_eq_nil_iff, sameKey_iff, List.map_eq_nil_iff,
    List.filter_eq_nil_iff, Option.isNone_iff_eq_none, ← ne_eq, Option.ne_none_iff_isSome]
  rw [flatMap_eq_nil_iff_found (fun c : Column => b.column? c.name) a.diffColumn
    (fun c h => by simp [h]) (fun c d h => by simp [h])]
  exact ⟨fun ⟨⟨⟨hcharset, hkey⟩, hleft⟩, hright⟩ => ⟨hcharset, hkey, hcolumns.2 ⟨hleft, hright⟩⟩,
    fun h => ⟨⟨⟨h.charset, h.primaryKey⟩, (hcolumns.1 h.columns).1⟩, (hcolumns.1 h.columns).2⟩⟩

end Table

/-- Databases without ambiguous names agree if and only if nothing differs in them. -/
theorem Database.diff_eq_nil_iff {mode : CaseMode} {names : String → Prop} {a b : Database}
    (hnames : mode.EquivalenceOn names) (ha : a.Unambiguous mode names)
    (hb : b.Unambiguous mode names) : a.diff mode b = [] ↔ a.Agrees mode b := by
  have htables : Correspond (fun t u => mode.namesEqual t.name u.name = true ∧ t.Agrees u)
      a.tables b.tables ↔ (∀ t ∈ a.tables, ∃ u, b.table? mode t.name = some u ∧ t.diff u = []) ∧
        ∀ u ∈ b.tables, a.hasTable mode u.name = true := by
    rw [Correspond.congr fun t ht u hu => and_congr_right fun _ =>
      (Table.diff_eq_nil_iff (ha.tables t ht) (hb.tables u hu)).symm]
    exact hnames.correspond_iff_find? ha.distinct hb.distinct
  rw [diff]
  simp only [List.append_eq_nil_iff, unlessHolds_eq_nil_iff, List.map_eq_nil_iff,
    List.filter_eq_nil_iff, Bool.not_eq_true, Bool.not_eq_false']
  rw [flatMap_eq_nil_iff_found (fun t : Table => b.table? mode t.name) Table.diff
    (fun t h => by simp [h]) (fun t u h => by simp [h])]
  exact ⟨fun ⟨⟨hcharset, hleft⟩, hright⟩ => ⟨hcharset, htables.2 ⟨hleft, hright⟩⟩,
    fun h => ⟨⟨h.charset, (htables.1 h.tables).1⟩, (htables.1 h.tables).2⟩⟩

namespace Schema

variable {names : String → Prop} {a b : Schema}

theorem diff_eq_nil_iff_found :
    a.diff b = [] ↔ (∀ d ∈ a.databases, ∃ e, b.database? d.name = some e ∧
      d.diff a.caseMode e = []) ∧ ∀ e ∈ b.databases, a.hasDatabase e.name = true := by
  rw [diff]
  simp only [List.append_eq_nil_iff, List.map_eq_nil_iff, List.filter_eq_nil_iff,
    Bool.not_eq_true, Bool.not_eq_false']
  rw [flatMap_eq_nil_iff_found (fun d : Database => b.database? d.name) (Database.diff a.caseMode)
    (fun d h => by simp [h]) (fun d e h => by simp [h])]

theorem agrees_iff_found (hmode : b.caseMode = a.caseMode)
    (hnames : a.caseMode.EquivalenceOn names) (ha : a.Unambiguous names)
    (hb : b.Unambiguous names) :
    a.Agrees b ↔ (∀ d ∈ a.databases, ∃ e, b.database? d.name = some e ∧
      d.diff a.caseMode e = []) ∧ ∀ e ∈ b.databases, a.hasDatabase e.name = true := by
  obtain ⟨hdistinct, hdatabases⟩ := hb
  rw [hmode] at hdistinct hdatabases
  simp only [Agrees, database?, hmode]
  rw [Correspond.congr fun d hd e he => and_congr_right fun _ =>
    (Database.diff_eq_nil_iff hnames (ha.databases d hd) (hdatabases e he)).symm]
  exact hnames.correspond_iff_find? ha.distinct hdistinct

/-- The list of differences is sound and complete: for schemas in one mode whose names are not
ambiguous, nothing is listed if and only if the schemas agree. -/
theorem diff_eq_nil_iff_agrees (hmode : b.caseMode = a.caseMode)
    (hnames : a.caseMode.EquivalenceOn names) (ha : a.Unambiguous names)
    (hb : b.Unambiguous names) : a.diff b = [] ↔ a.Agrees b := by
  rw [diff_eq_nil_iff_found, agrees_iff_found hmode hnames ha hb]

/-- Tables in another order and letter case agree; columns in another order do not. -/
theorem diff_eq_nil_iff_agrees_reordered :
    let id (name : String) : Column := ⟨name, .integer .regular false, 0⟩
    let state (name : String) : Column := ⟨name, .enum ["on", "off"], 1⟩
    let table (database name charset : String) (columns : List Column) : Table :=
      .create database name charset columns (columns.take 1 |>.map Column.name)
    let schema (databases : List Database) : Schema := ⟨"utf8mb4", .insensitive, databases⟩
    let a := schema [⟨"Shop", "utf8mb4", [table "Shop" "Items" "latin1" [id "Id", state "State"],
      table "Shop" "Empty" "ascii" []]⟩, ⟨"Audit", "ascii", []⟩]
    let b := schema [⟨"AUDIT", "ascii", []⟩, ⟨"SHOP", "UTF8MB4", [table "SHOP" "EMPTY" "ASCII" [],
      table "SHOP" "ITEMS" "LATIN1" [id "ID", state "STATE"]]⟩]
    let c := schema [⟨"Shop", "utf8mb4", [table "Shop" "Items" "latin1" [state "State", id "Id"],
      table "Shop" "Empty" "ascii" []]⟩, ⟨"Audit", "ascii", []⟩]
    a.Agrees b ∧ ¬ a.Agrees c := by
  intro id state table schema a b c
  have hnames := (CaseMode.coherent_isAscii .insensitive).equivalenceOn
  have ha : a.Unambiguous fun n => Text.isAscii n = true := by decide +kernel
  have hb : b.Unambiguous fun n => Text.isAscii n = true := by decide +kernel
  have hc : c.Unambiguous fun n => Text.isAscii n = true := by decide +kernel
  have hab : b.caseMode = a.caseMode := rfl
  have hac : c.caseMode = a.caseMode := rfl
  refine ⟨(diff_eq_nil_iff_agrees hab hnames ha hb).1 (by decide +kernel), fun h => ?_⟩
  have hdiff : a.diff c ≠ [] := by decide +kernel
  exact hdiff ((diff_eq_nil_iff_agrees hac hnames ha hc).2 h)

end Schema

end SchemaTrail
