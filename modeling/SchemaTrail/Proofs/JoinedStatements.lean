import SchemaTrail.Proofs.ClauseResults
import SchemaTrail.Proofs.JoinedClauses
import SchemaTrail.Proofs.UntrackedStatements

/-!
# Statements with joined clauses

What clauses of an `ALTER TABLE` statement, or elements of a new table, ask for in statements of
their own they ask for in the statement in which they are joined by commas
(`Statement.asks_joined`).
-/

namespace SchemaTrail.Statement

open Outcome

variable {c next : Cursor} {x : Content} {w left : List Content} {selected : Option String}

/-! ## What clauses ask for -/

/-- What a part does to the columns. -/
def AlterPart.edit? : AlterPart → Option ColumnEdit
  | .column edit => some edit
  | _ => none

theorem columns_foldl_addPart (parts : List AlterPart) (e : TableEdit) :
    (parts.foldl addPart e).columns = e.columns ++ parts.filterMap AlterPart.edit? := by
  induction parts generalizing e with
  | nil => simp
  | cons p parts ih =>
    rw [List.foldl_cons, ih, List.filterMap_cons]
    cases p <;> simp [addPart, AlterPart.edit?]

theorem empty_of_addPart {e : TableEdit} {p : AlterPart} (h : addPart e p = .empty) :
    e = .empty ∧ p = .partitions := by
  obtain ⟨columns, newName, convertTo, charset, primaryKey⟩ := e
  cases p with
  | collation name => cases charset <;> simp [addPart, TableEdit.empty] at h
  | partitions => exact ⟨h, rfl⟩
  | _ => simp [addPart, TableEdit.empty] at h

theorem empty_of_foldl_addPart {parts : List AlterPart} {e : TableEdit}
    (h : parts.foldl addPart e = .empty) : e = .empty ∧ IsIdle parts := by
  induction parts generalizing e with
  | nil => exact ⟨h, by simp [IsIdle]⟩
  | cons p parts ih =>
    obtain ⟨hadd, hidle⟩ := ih h
    obtain ⟨hempty, hp⟩ := empty_of_addPart hadd
    exact ⟨hempty, List.forall_mem_cons.2 ⟨hp, hidle⟩⟩

theorem isIdle_of_alterRequest {name : TableName} {parts : List AlterPart}
    (h : alterRequest? name parts = none) : IsIdle parts := by
  rw [alterRequest?] at h
  split at h
  next hnone =>
    exact (empty_of_foldl_addPart (of_decide_eq_true (Bool.and_eq_true_iff.1 hnone).2)).2
  next => cases h

/-- What requests do to the columns of tables that there are. -/
def columnEdits (requests : List Request) : List ColumnEdit :=
  requests.flatMap fun
    | .alterTable _ e => e.columns
    | _ => []

/-- The columns of the tables that requests create. -/
def createdColumns (requests : List Request) : List Column :=
  requests.flatMap fun
    | .createTable _ (.columns columns _) _ _ => columns
    | _ => []

theorem columnEdits_alterRequest (name : TableName) (parts : List AlterPart) :
    columnEdits (alterRequest? name parts).toList = parts.filterMap AlterPart.edit? := by
  cases h : alterRequest? name parts with
  | none =>
    refine (List.filterMap_eq_nil_iff.2 fun p hp => ?_).symm
    rw [isIdle_of_alterRequest h p hp]
    rfl
  | some request =>
    rw [alterRequest?] at h
    split at h
    · cases h
    · cases h
      simp [columnEdits, editOf, columns_foldl_addPart, TableEdit.empty]

/-! ## Statements -/

/-- The name that a token is, wherever it stands. -/
def contentName (afterPoint : Bool) (x : Content) : Option String :=
  nameOf afterPoint x.1 x.2

/-- The words that a statement begins with, and the name of a table with its database. -/
def Opens (word : Keyword) (name : TableName) (head : List Content) : Prop :=
  ∃ first second point database table,
    head = [(.keyword word, first), (.keyword .table, second), database, (.symbol .dot, point),
      table] ∧ contentName false database = some name.database ∧
        contentName true table = some name.table

variable {name : TableName} {head : List Content} {P : Cursor → Prop}

theorem reads_takeKeyword {k : Keyword} {text : String} (xs : List Content) :
    ReadsContents (takeKeyword k) ((.keyword k, text) :: xs) true xs :=
  reads_takeIf (fun c hc => by simp [Cursor.kind_of_contents hc, headKind])
    fun c => Cursor.contents_advance

theorem reads_takeKeyword_none {k : Keyword} {xs : List Content} (h : headKind xs ≠ .keyword k) :
    ReadsContents (takeKeyword k) xs false xs :=
  reads_takeIf_none fun c hc => by simp [Cursor.kind_of_contents hc, h]

theorem reads_takeSymbol {s : Token.Symbol} {text : String} (xs : List Content) :
    ReadsContents (takeSymbol s) ((.symbol s, text) :: xs) true xs :=
  reads_takeIf (fun c hc => by simp [Cursor.kind_of_contents hc, headKind])
    fun c => Cursor.contents_advance

theorem ne_symbol_of_contentName {afterPoint : Bool} {text : String}
    (h : contentName afterPoint x = some text) (s : Token.Symbol) : x.1 ≠ .symbol s := by
  intro hx
  rw [contentName, hx] at h
  cases h

theorem ne_keyword_of_contentName {text : String} {k : Keyword}
    (h : contentName false x = some text) (hk : k.isReserved = true) : x.1 ≠ .keyword k := by
  intro hx
  rw [contentName, hx] at h
  simp [nameOf, hk] at h

/-- A name is no guard. -/
theorem reads_takeIfNotExists_none {text : String} (hx : contentName false x = some text)
    (xs : List Content) : ReadsContents takeIfNotExists (x :: xs) false (x :: xs) :=
  have hif : headKind (x :: xs) ≠ .keyword .ifWord := ne_keyword_of_contentName hx rfl
  (reads_takeKeyword_none hif).bind (reads_pure _ _)

theorem reads_qualified (selected : Option String) {text : String} {database table : Content}
    (hdatabase : contentName false database = some name.database)
    (htable : contentName true table = some name.table) (xs : List Content) :
    ReadsContents (readTableName selected) (database :: (.symbol .dot, text) :: table :: xs) name
      xs :=
  (reads_takeIf_none fun c hc => by
    simp [Cursor.kind_of_contents hc, headKind, ne_symbol_of_contentName hdatabase]).bind <|
  (reads_readAs hdatabase _).bind <|
  (reads_takeSymbol _).bind <| (reads_readAs htable xs).bind (reads_pure _ _)

/-- No option of `ALTER` stands in front of `TABLE`. -/
theorem reads_alterOptions {text : String} (xs : List Content) :
    ReadsContents (skipWhile isAlterOption) ((.keyword .table, text) :: xs) ()
      ((.keyword .table, text) :: xs) :=
  (Reads.many_nil ((reads_takeIf_none fun c hc => by
    rw [Cursor.kind_of_contents hc]
    rfl).bind (reads_pure _ _))).discard

/-- An `ALTER TABLE` statement goes on with its clauses behind the name of the table. -/
theorem readStatement_alter (selected : Option String) (hhead : Opens .alter name head)
    (hc : c.contents = head ++ w) :
    ∃ m, m.contents = w ∧ readStatement selected c =
      (do return (alterRequest? name (← readAlterClauses selected)).map fun r => [r]) m := by
  obtain ⟨first, second, point, database, table, rfl, hdatabase, htable⟩ := hhead
  have hkind : c.kind = .keyword .alter := Cursor.kind_of_contents hc
  obtain ⟨m₁, hm₁, hoptions⟩ := (reads_alterOptions _).exists_run (Cursor.contents_advance hc)
  obtain ⟨m₂, hm₂, htaken⟩ := (reads_takeKeyword _).exists_run hm₁
  obtain ⟨m₃, hm₃, hname⟩ := (reads_qualified selected hdatabase htable w).exists_run hm₂
  refine ⟨m₃, hm₃, ?_⟩
  rw [readStatement, kind_bind, hkind]
  show readAlter selected c.advance = _
  rw [readAlter, hoptions, readObject, htaken, if_pos rfl, readAlterTable, LawfulMonad.bind_assoc,
    hname]
  show ((readAlterClauses selected m₃).bind _).bind _ = (readAlterClauses selected m₃).bind _
  cases readAlterClauses selected m₃ <;> rfl

/-- Reads what stands behind the name of a new table and the parenthesis. -/
def readColumns (name : TableName) : Reader (Option (List Request)) := do
  let source ← readElements
  return some [.createTable name source (← readTableOptions) false]

/-- A `CREATE TABLE` statement goes on with its elements behind the name of the table. -/
theorem readStatement_create (selected : Option String) {text : String}
    (hhead : Opens .create name head) (hlike : headKind w ≠ .keyword .like)
    (hc : c.contents = head ++ (.symbol .leftParen, text) :: w) :
    ∃ m, m.contents = w ∧ readStatement selected c = readColumns name m := by
  obtain ⟨first, second, point, database, table, rfl, hdatabase, htable⟩ := hhead
  have hkind : c.kind = .keyword .create := Cursor.kind_of_contents hc
  obtain ⟨m₁, hm₁, htaken⟩ := (reads_takeKeyword _).exists_run (Cursor.contents_advance hc)
  obtain ⟨m₂, hm₂, hguard⟩ := (reads_takeIfNotExists_none hdatabase _).exists_run hm₁
  obtain ⟨m₃, hm₃, hname⟩ := (reads_qualified selected hdatabase htable _).exists_run hm₂
  obtain ⟨m₄, hm₄, houter⟩ :=
    (reads_takeKeyword_none (k := .like) (by simp [headKind])).exists_run hm₃
  obtain ⟨m₅, hm₅, hopen⟩ := (reads_takeSymbol w).exists_run hm₄
  obtain ⟨m₆, hm₆, hinner⟩ := (reads_takeKeyword_none hlike).exists_run hm₅
  refine ⟨m₆, hm₆, ?_⟩
  rw [readStatement, kind_bind, hkind]
  show readCreate selected c.advance = _
  rw [readCreate, readObject, htaken, if_pos rfl, readCreateTable, LawfulMonad.bind_assoc, hguard,
    LawfulMonad.bind_assoc, hname, readTableSource, LawfulMonad.bind_assoc, LawfulMonad.bind_assoc,
    houter, if_neg Bool.false_ne_true, LawfulMonad.bind_assoc, hopen, if_pos rfl,
    LawfulMonad.bind_assoc, hinner, if_neg Bool.false_ne_true, readColumns]
  simp only [LawfulMonad.bind_assoc, LawfulMonad.pure_bind]

/-! ### Ends of statements -/

/-- A statement does not end where tokens of a clause follow. -/
theorem eq_nil_of_expectEnd (hw : Within 0 left) (hc : c.contents = left)
    (h : expectEnd c = .ok ((), next)) : left = [] := by
  have hends := endsStatement_of_expectEnd h
  rw [Cursor.kind_of_contents hc] at hends
  exact (endsStatement_headKind hw).1 hends

/-- No options are read where a statement ends. -/
theorem reads_readTableOptions_end :
    ReadsContents readTableOptions [] none [] := by
  have hnone (k : Keyword) : ReadsContents (takeKeyword k) [] false [] :=
    reads_takeKeyword_none (by simp [headKind])
  have hcharset : ReadsContents takeCharsetOption [] none [] :=
    (hnone _).bind ((hnone _).bind ((hnone _).bind (reads_pure none _)))
  have hskip : ReadsContents skipTableOption [] none [] := reads_kind_bind (reads_pure _ _)
  have hoption : ReadsContents (readOption skipTableOption) [] none [] := hcharset.bind hskip
  exact (Reads.many_nil hoption).bind (reads_pure _ _)

/-! ## Clauses and elements of their own -/

/-- Whether all groups are closed, where `depth` ones are open. -/
def balanced (depth : Nat) : List Content → Bool
  | [] => depth = 0
  | x :: xs =>
    match x.1 with
    | .symbol .leftParen => balanced (depth + 1) xs
    | .symbol .rightParen => 0 < depth && balanced (depth - 1) xs
    | _ => balanced depth xs

/-- Tokens that may be a clause: their parentheses are balanced, and neither a semicolon nor
`PARTITION` is among them. -/
structure IsClause (w : List Content) : Prop where
  closed : balanced 0 w = true
  plain : ∀ x ∈ w, x.1 ≠ .symbol .semicolon ∧ x.1 ≠ .keyword .partition

instance (w : List Content) : Decidable (IsClause w) :=
  decidable_of_iff (balanced 0 w = true ∧
      ∀ x ∈ w, x.1 ≠ .symbol .semicolon ∧ x.1 ≠ .keyword .partition)
    ⟨fun h => ⟨h.1, h.2⟩, fun h => ⟨h.closed, h.plain⟩⟩

/-- Behind the words and the name of a table, the tokens are the rest of a statement that makes the
requests. -/
def AsksAlone (selected : Option String) (word : Keyword) (name : TableName) (body : List Content)
    (requests : List Request) : Prop :=
  ∃ head statement, Opens word name head ∧ (Cursor.ofStatement statement).contents = head ++ body ∧
    read selected statement = .ok requests

/-- What a statement asks for: it is read from the statement, and where comments are separate it is
what the statement requests. -/
def Asks (selected : Option String) (statement : String) (answer : List Request) : Prop :=
  read selected statement = .ok answer ∧
    (separate 0 statement.toList = true → requests selected statement = .ok answer)

/-- Tokens between parentheses. -/
def parenthesized (w : List Content) : List Content :=
  (.symbol .leftParen, "(") :: (w ++ [(.symbol .rightParen, ")")])

/-- Tokens that are joined by commas. -/
def joined (ws : List (List Content)) : List Content :=
  [(.symbol .comma, ",")].intercalate ws

theorem within_of_balanced {d : Nat} (hbalanced : balanced d w = true)
    (hplain : ∀ x ∈ w, x.1 ≠ .symbol .semicolon ∧ x.1 ≠ .keyword .partition)
    (heof : ∀ x ∈ w, x.1 ≠ .eof) : Within d w := by
  induction w generalizing d with
  | nil =>
    obtain rfl : d = 0 := of_decide_eq_true hbalanced
    exact .nil
  | cons x xs ih =>
    obtain ⟨⟨hsemicolon, hpartition⟩, hothers⟩ := List.forall_mem_cons.1 hplain
    obtain ⟨hx, hends⟩ := List.forall_mem_cons.1 heof
    obtain ⟨k, text⟩ := x
    rw [balanced] at hbalanced
    split at hbalanced
    next hopen =>
      obtain rfl : k = .symbol .leftParen := hopen
      exact .opens (ih hbalanced hothers hends)
    next hclose =>
      obtain rfl : k = .symbol .rightParen := hclose
      obtain ⟨hd, hbalanced⟩ := Bool.and_eq_true_iff.1 hbalanced
      obtain ⟨d, rfl⟩ := Nat.exists_eq_add_one.2 (of_decide_eq_true hd)
      exact .closes (ih hbalanced hothers hends)
    next hopen hclose =>
      refine .plain ?_ hsemicolon hpartition (ih hbalanced hothers hends)
      unfold keepsDepth
      split <;> simp_all

theorem ne_eof_of_mem_contents {statement : String}
    (hx : x ∈ (Cursor.ofStatement statement).contents) : x.1 ≠ .eof := by
  obtain ⟨t, ht, rfl⟩ := List.mem_map.1 hx
  simpa using (List.mem_filter.1 ht).2

theorem headKind_parenthesized {text : String} (h : headKind w ≠ .keyword .like) :
    headKind (w ++ [(.symbol .rightParen, text)]) ≠ .keyword .like := by
  cases w with
  | nil => simp [headKind]
  | cons x xs => exact h

theorem IsClause.within {statement : String} (hw : IsClause w)
    (h : w ⊆ (Cursor.ofStatement statement).contents) : Within 0 w :=
  within_of_balanced hw.closed hw.plain fun _ hx => ne_eof_of_mem_contents (h hx)

/-- No part of a clause is left where a statement ends behind its only clause, as no part is left
where clauses ask for nothing. -/
theorem eq_nil_of_readAlterClauses {parts : List AlterPart} (hw : Within 0 w) (hc : c.contents = w)
    (hparts : readAlterClauses selected c = .ok (parts, next))
    (hend : IsIdle parts ∨ ∃ m, expectEnd next = .ok ((), m)) : next.contents = [] := by
  obtain ⟨left, hleft, hnext, hcomma, c', last, hlast, hsubset⟩ :=
    (listing_clauses selected).exists_last hw (hc.trans (List.append_nil w).symm) hparts
  rw [List.append_nil] at hnext
  rw [hnext]
  rcases hend with hidle | ⟨m, hend⟩
  · have hends := readAlterClause_idle hlast fun p hp => hidle p (hsubset hp)
    cases left with
    | nil => rfl
    | cons x xs =>
      obtain ⟨hparen, hsemicolon, heof⟩ := hleft.head_cases
      rw [Cursor.kind_of_contents hnext] at hends hcomma
      unfold endsClause at hends
      split at hends <;> simp_all [headKind]
  · exact eq_nil_of_expectEnd hleft hnext hend

/-- A clause that is a statement's only one is read up to the end. -/
theorem AsksAlone.exists_parts {requests : List Request}
    (h : AsksAlone selected .alter name w requests) (hw : IsClause w) :
    ∃ parts, Listing.ReadsAll (readAlterClauses selected) [] w parts ∧
      columnEdits requests = parts.filterMap AlterPart.edit? := by
  obtain ⟨head, statement, hhead, hc, hread⟩ := h
  have hwithin : Within 0 w := hw.within (hc ▸ List.subset_append_right head w)
  obtain ⟨m, hm, hstatement⟩ := readStatement_alter selected hhead hc
  obtain ⟨answer, next, hanswer, hend⟩ := read_eq_ok_iff.1 hread
  rw [hstatement] at hanswer
  obtain ⟨parts, next, hparts, heq⟩ := read_bind_iff.1 hanswer
  cases heq
  refine ⟨parts, ⟨hwithin, m, next, by simp [hm], hparts, ?_⟩, ?_⟩
  · exact eq_nil_of_readAlterClauses hwithin hm hparts
      (hend.imp (fun h => isIdle_of_alterRequest (Option.map_eq_none_iff.1 h.1)) fun h => h.2)
  · rw [← columnEdits_alterRequest name]
    rcases hend with ⟨hnone, rfl⟩ | ⟨hsome, -⟩
    · rw [Option.map_eq_none_iff.1 hnone]
      rfl
    · obtain ⟨request, hrequest, rfl⟩ := Option.map_eq_some_iff.1 hsome
      rw [hrequest]
      rfl

/-- An element that is a table's only one is read up to the closing parenthesis. -/
theorem AsksAlone.exists_elements {requests : List Request}
    (h : AsksAlone selected .create name (parenthesized w) requests) (hw : IsClause w)
    (hlike : headKind w ≠ .keyword .like) :
    ∃ elements, Listing.ReadsAll (separated readElement) [(.symbol .rightParen, ")")] w elements ∧
      createdColumns requests = elementColumns elements := by
  obtain ⟨head, statement, hhead, hc, hread⟩ := h
  have hsubset : w ⊆ (Cursor.ofStatement statement).contents := by
    intro x hx
    simp [hc, parenthesized, hx]
  have hwithin : Within 0 w := hw.within hsubset
  obtain ⟨m, hm, hstatement⟩ := readStatement_create selected hhead
    (headKind_parenthesized hlike) hc
  obtain ⟨answer, next, hanswer, hend⟩ := read_eq_ok_iff.1 hread
  rw [hstatement] at hanswer
  obtain ⟨source, options, hsource, hanswer⟩ := read_bind_iff.1 hanswer
  obtain ⟨charset, _, -, heq⟩ := read_bind_iff.1 hanswer
  obtain ⟨elements, _, hgroup, hsource⟩ := read_bind_iff.1 hsource
  obtain ⟨_, closing, helements, hgroup⟩ := read_bind_iff.1 hgroup
  obtain ⟨_, _, hclose, hgroup⟩ := read_bind_iff.1 hgroup
  cases hgroup
  cases hsource
  cases heq
  obtain ⟨left, hleft, hclosing, -⟩ := (listing_elements ")").exists_last hwithin hm helements
  refine ⟨elements, ⟨hwithin, m, closing, hm, helements, ?_⟩, ?_⟩
  · cases left with
    | nil => exact hclosing
    | cons x xs =>
      have hkind : closing.kind = x.1 := Cursor.kind_of_contents hclosing
      rw [expectSymbol_eq, kind_bind, hkind, if_neg hleft.head_cases.1] at hclose
      cases hclose
  · rcases hend with ⟨hnone, -⟩ | ⟨hsome, -⟩
    · cases hnone
    · cases hsome
      exact List.append_nil _

/-! ## Joined clauses and elements -/

theorem forall₂_exists {α β γ δ : Type} {R : α → β → Prop} {S : α → γ → Prop} {f : β → δ}
    {g : γ → δ} {xs : List α} {ys : List β} (h : List.Forall₂ R xs ys)
    (hR : ∀ x ∈ xs, ∀ y, R x y → ∃ z, S x z ∧ f y = g z) :
    ∃ zs, List.Forall₂ S xs zs ∧ ys.map f = zs.map g := by
  induction h with
  | nil => exact ⟨[], .nil, rfl⟩
  | @cons x y xs ys hxy _ ih =>
    obtain ⟨hhead, htail⟩ := List.forall_mem_cons.1 hR
    obtain ⟨z, hxz, hz⟩ := hhead y hxy
    obtain ⟨zs, hzs, heq⟩ := ih htail
    exact ⟨z :: zs, .cons hxz hzs, by rw [List.map_cons, List.map_cons, hz, heq]⟩

/-- Joined clauses are read like those of their own. -/
theorem reads_joined_clauses {bodies : List (List Content)} {partss : List (List AlterPart)}
    (h : List.Forall₂ (Listing.ReadsAll (readAlterClauses selected) []) bodies partss) :
    ReadsContents (readAlterClauses selected) (joined bodies) partss.flatten [] := by
  cases h with
  | nil =>
    refine fun c hc => ⟨c, readAlterClauses_end ?_, hc⟩
    rw [Cursor.kind_of_contents hc]
    rfl
  | cons hfirst hothers =>
    have hreads := ((listing_clauses selected).reads_intercalate "," (List.cons_ne_nil _ _)
      (.cons hfirst hothers)).2
    simpa only [joined, List.append_nil] using hreads

theorem asks_of_reads {statement : String} {m : Cursor} {r : Reader (Option (List Request))}
    {P : Cursor → Prop} {answer : Option (List Request)}
    (hstatement : readStatement selected (.ofStatement statement) = r m)
    (hr : Reads r P answer fun c => c.contents = []) (hm : P m) :
    Asks selected statement (answer.getD []) := by
  obtain ⟨next, hnext, hend⟩ := hr m hm
  have hread := read_of_tokens_nil (hstatement.trans hnext) (List.map_eq_nil_iff.1 hend)
  exact ⟨hread, fun hseparate => (requests_eq_read hseparate selected).trans hread⟩

/-- Joined elements are read like those of their own. -/
theorem reads_joined_elements {bodies : List (List Content)} {elementss : List (List TableElement)}
    (hne : bodies ≠ []) (h : List.Forall₂
      (Listing.ReadsAll (separated readElement) [(.symbol .rightParen, ")")]) bodies elementss) :
    ReadsContents (readColumns name) (joined bodies ++ [(.symbol .rightParen, ")")])
      (some [.createTable name
        (.columns (elementColumns elementss.flatten) (elementKey elementss.flatten)) none false])
      [] := by
  have hclose : ReadsContents (expectSymbol .rightParen) [(.symbol .rightParen, ")")] () [] :=
    (reads_takeSymbol []).bind (reads_pure () _)
  have hgroup : ReadsContents (readGroup readElement)
      (joined bodies ++ [(.symbol .rightParen, ")")]) elementss.flatten [] :=
    ((listing_elements ")").reads_intercalate "," hne h).2.bind (hclose.bind (reads_pure _ _))
  have helements : ReadsContents readElements (joined bodies ++ [(.symbol .rightParen, ")")])
      (.columns (elementColumns elementss.flatten) (elementKey elementss.flatten)) [] :=
    hgroup.bind (reads_pure _ _)
  exact helements.bind (reads_readTableOptions_end.bind (reads_pure _ _))

theorem headKind_joined {bodies : List (List Content)}
    (h : ∀ w ∈ bodies, headKind w ≠ .keyword .like) :
    headKind (joined bodies) ≠ .keyword .like := by
  rw [joined]
  match bodies, h with
  | [], _ => simp [headKind]
  | [w], h => simpa using h w
  | w :: v :: ws, h =>
    rw [List.intercalate_cons_cons]
    cases w with
    | nil => simp [headKind]
    | cons x xs => exact h (x :: xs) List.mem_cons_self

/-- Clauses that are read from `ALTER TABLE` statements of their own are read from the statement in
which they are joined, and its edits of columns are theirs, in order.  So are elements from `CREATE
TABLE` statements, unless they begin with `LIKE`, and the columns of the new table are theirs. -/
theorem asks_joined (selected : Option String) (name : TableName) (bodies : List (List Content))
    (answers : List (List Request)) (hbodies : ∀ w ∈ bodies, IsClause w) :
    (List.Forall₂ (AsksAlone selected .alter name) bodies answers →
      ∀ head statement, Opens .alter name head →
        (Cursor.ofStatement statement).contents = head ++ joined bodies →
          ∃ answer, Asks selected statement answer ∧
            columnEdits answer = answers.flatMap columnEdits) ∧
    (bodies ≠ [] → (∀ w ∈ bodies, headKind w ≠ .keyword .like) →
      List.Forall₂ (fun w => AsksAlone selected .create name (parenthesized w)) bodies answers →
        ∀ head statement, Opens .create name head →
          (Cursor.ofStatement statement).contents = head ++ parenthesized (joined bodies) →
            ∃ key, Asks selected statement
              [.createTable name (.columns (answers.flatMap createdColumns) key) none false]) := by
  constructor
  · intro hanswers head statement hhead hc
    obtain ⟨partss, hparts, hedits⟩ :=
      forall₂_exists hanswers fun w hw requests h => h.exists_parts (hbodies w hw)
    obtain ⟨m, hm, hstatement⟩ := readStatement_alter selected hhead hc
    have hreads : ReadsContents
        (do return (alterRequest? name (← readAlterClauses selected)).map fun r => [r])
        (joined bodies) ((alterRequest? name partss.flatten).map fun r => [r]) [] :=
      (reads_joined_clauses hparts).bind (reads_pure _ _)
    refine ⟨_, asks_of_reads hstatement hreads hm, ?_⟩
    have hlist : ((alterRequest? name partss.flatten).map fun r => [r]).getD [] =
        (alterRequest? name partss.flatten).toList := by
      cases alterRequest? name partss.flatten <;> rfl
    rw [hlist, columnEdits_alterRequest, List.filterMap_flatten, List.flatMap_def, hedits]
  · intro hne hlike hanswers head statement hhead hc
    obtain ⟨elementss, helements, hcolumns⟩ := forall₂_exists hanswers fun w hw requests h =>
      h.exists_elements (hbodies w hw) (hlike w hw)
    obtain ⟨m, hm, hstatement⟩ := readStatement_create selected hhead
      (headKind_parenthesized (headKind_joined hlike)) hc
    refine ⟨elementKey elementss.flatten, ?_⟩
    have hcreated : answers.flatMap createdColumns = elementColumns elementss.flatten := by
      rw [List.flatMap_def, hcolumns, elementColumns, List.filterMap_flatten]
      rfl
    rw [hcreated]
    exact asks_of_reads hstatement (reads_joined_elements hne helements) hm

theorem asks_joined_columns :
    let a : Column := ⟨"a", .integer .regular false, 0⟩
    let b : Column := ⟨"b", .integer .regular true, 0⟩
    (∃ answer, Asks none "ALTER TABLE d.t ADD (a INT UNSIGNED, b INT), DROP c" answer ∧
      columnEdits answer = [.add a .standard false, .add b .standard false, .remove "c" false]) ∧
    ∃ key, Asks none "CREATE TABLE d.t (a INT UNSIGNED, b INT)"
      [.createTable ⟨"d", "t"⟩ (.columns [a, b] key) none false] := by
  intro a b
  let tokens (statement : String) := (Cursor.ofStatement statement).contents
  let edit (columns : List ColumnEdit) : Request :=
    .alterTable ⟨"d", "t"⟩ ⟨columns, none, none, none, none⟩
  let table (column : Column) : Request :=
    .createTable ⟨"d", "t"⟩ (.columns [column] []) none false
  have halter : Opens .alter ⟨"d", "t"⟩ (tokens "ALTER TABLE d.t") :=
    ⟨"ALTER", "TABLE", ".", (.identifier "d", "d"), (.identifier "t", "t"), by decide +kernel,
      rfl, rfl⟩
  have hcreate : Opens .create ⟨"d", "t"⟩ (tokens "CREATE TABLE d.t") :=
    ⟨"CREATE", "TABLE", ".", (.identifier "d", "d"), (.identifier "t", "t"), by decide +kernel,
      rfl, rfl⟩
  constructor
  · have hasks := (asks_joined none ⟨"d", "t"⟩
      [tokens "ADD (a INT UNSIGNED, b INT)", tokens "DROP c"]
      [[edit [.add a .standard false, .add b .standard false]], [edit [.remove "c" false]]]
      (by decide +kernel)).1
    refine hasks (.cons ⟨_, "ALTER TABLE d.t ADD (a INT UNSIGNED, b INT)", halter, ?_, ?_⟩
      (.cons ⟨_, "ALTER TABLE d.t DROP c", halter, ?_, ?_⟩ .nil)) _ _ halter ?_
    all_goals decide +kernel
  · have hasks := (asks_joined none ⟨"d", "t"⟩ [tokens "a INT UNSIGNED", tokens "b INT"]
      [[table a], [table b]] (by decide +kernel)).2
    refine hasks (by simp) (by decide +kernel)
      (.cons ⟨_, "CREATE TABLE d.t (a INT UNSIGNED)", hcreate, ?_, ?_⟩
        (.cons ⟨_, "CREATE TABLE d.t (b INT)", hcreate, ?_, ?_⟩ .nil)) _ _ hcreate ?_
    all_goals decide +kernel

end SchemaTrail.Statement
