import SchemaTrail.Proofs.GuardedClauses
import SchemaTrail.Proofs.UntrackedStatements

/-!
# Names between backquotes

A name that is written between backquotes, with each backquote in it doubled, is one token
(`Token.kinds_quotedName`), whatever else it contains.  What is read from the tokens of a statement
depends on their kinds alone (`Statement.ReadsKinds`), so that a statement about such names asks for
something about these names (`Statement.requests_quotedName`).
-/

namespace SchemaTrail

/-- A character within a name between backquotes. -/
def nameChar (c : Char) : List Char :=
  if c = '\x60' then ['\x60', '\x60'] else [c]

/-- A name between backquotes. -/
def quotedName (name : String) : String :=
  String.ofList ('\x60' :: (name.toList.flatMap nameChar ++ ['\x60']))

namespace Token

variable {c : Char} {opened : Nat} {cs rest : List Char} {k : Keyword}

/-- A name is read up to its closing backquote. -/
theorem nameBody?_flatMap_nameChar (cs : List Char) (hrest : rest.head? ≠ some '\x60') :
    nameBody? (cs.flatMap nameChar ++ '\x60' :: rest) = some (cs, rest) := by
  induction cs with
  | nil =>
    cases rest with
    | nil => rfl
    | cons d rest => simp_all [nameBody?]
  | cons c cs ih =>
    rw [List.flatMap_cons, List.append_assoc, nameChar]
    split
    next hc =>
      subst hc
      show (nameBody? (cs.flatMap nameChar ++ _)).map _ = _
      rw [ih]
      rfl
    next hc =>
      rw [List.singleton_append, nameBody?_plain hc, ih]
      rfl

/-- A name between backquotes is one token. -/
theorem kinds_quotedName (name : String) (hrest : rest.head? ≠ some '\x60') :
    kinds opened ((quotedName name).toList ++ rest) = .identifier name :: kinds opened rest := by
  have hscan : scan '\x60' (name.toList.flatMap nameChar ++ '\x60' :: rest) =
      (.identifier name, rest) := by
    simp [scan, scanName, nameBody?_flatMap_nameChar _ hrest]
  have htext : (quotedName name).toList ++ rest =
      '\x60' :: (name.toList.flatMap nameChar ++ '\x60' :: rest) := by
    simp [quotedName]
  rw [htext, kinds_cons (by decide) (by decide), hscan]

theorem kinds_dot (opened : Nat) (rest : List Char) :
    kinds opened ('.' :: rest) = .symbol .dot :: kinds opened rest := by
  rw [kinds_cons (by decide) (by decide), scan_eq_scanSymbol (by decide) (by decide)]
  rfl

/-! ## Keywords -/

/-- The keywords of statements that drop columns and rename tables. -/
def namingWords : List Keyword := [.alter, .rename, .table, .drop, .column, .to]

theorem naming_of_mem : ∀ k ∈ namingWords, wordKind k.spelling = .keyword k ∧
    k.spelling.toList.all isWordChar = true ∧
    (k.spelling.toList.head?.all fun c =>
      !c.isDigit && !Text.isBlank c && !"-#*/nN".toList.contains c) = true ∧
    1 < k.spelling.toList.length := by
  decide

/-- A keyword in front of a space is scanned as such. -/
theorem scan_keyword (hk : k ∈ namingWords) (rest : List Char) :
    ∃ c cs, k.spelling.toList ++ ' ' :: rest = c :: cs ∧ Text.isBlank c = false ∧
      c ∉ "-#*/nN".toList ∧ scan c cs = (.keyword k, ' ' :: rest) := by
  obtain ⟨hkind, hall, hhead, hlength⟩ := naming_of_mem k hk
  have hword : ∀ c ∈ k.spelling.toList, isWordChar c = true := List.all_eq_true.1 hall
  have hscanned : scanWord (k.spelling.toList ++ ' ' :: rest) = (.keyword k, ' ' :: rest) := by
    rw [scanWord_append hword (by simp; decide), String.ofList_toList, hkind]
  cases hspelling : k.spelling.toList with
  | nil => simp [hspelling] at hlength
  | cons c cs =>
    rw [hspelling] at hword hhead hlength hscanned
    obtain ⟨⟨hdigit, hblank⟩, hc⟩ : (c.isDigit = false ∧ Text.isBlank c = false) ∧
        c ∉ "-#*/nN".toList := by simpa using hhead
    have hquote : (cs ++ ' ' :: rest).head? ≠ some '\'' := by
      cases cs with
      | nil => simp at hlength
      | cons d cs =>
        rintro ⟨⟩
        exact absurd (hword '\'' (by simp)) (by decide)
    exact ⟨c, _, rfl, hblank, hc,
      (scan_eq_scanWord (hword c List.mem_cons_self) hdigit hquote).trans hscanned⟩

theorem kinds_keyword (hk : k ∈ namingWords) (opened : Nat) (rest : List Char) :
    kinds opened (k.spelling.toList ++ ' ' :: rest) = .keyword k :: kinds opened rest := by
  obtain ⟨c, cs, htext, hblank, hc, hscan⟩ := scan_keyword hk rest
  rw [htext, kinds_cons hblank hc, hscan, kinds_space]

theorem kinds_end (opened : Nat) (name : String) :
    kinds opened (quotedName name).toList = [.identifier name, .eof] := by
  have hend := @kinds_quotedName opened [] name (by simp)
  rwa [List.append_nil, kinds_nil] at hend

/-- A qualified name in front of a space. -/
theorem kinds_qualified (opened : Nat) (database name : String) (rest : List Char) :
    kinds opened ((quotedName database).toList ++ '.' :: ((quotedName name).toList ++
      ' ' :: rest)) = .identifier database :: .symbol .dot :: .identifier name ::
        kinds opened rest := by
  rw [kinds_quotedName _ (by simp), kinds_dot, kinds_quotedName _ (by simp), kinds_space]

end Token

namespace Statement

variable {α : Type} {k : Token.Kind} {ks : List Token.Kind} {wanted : Token.Kind → Bool}
  {selected : Option String}

/-! ## Reading tokens by their kinds -/

/-- Where tokens of these kinds are next, a reader gives a value and leaves tokens of such kinds. -/
abbrev ReadsKinds (r : Reader α) (ks : List Token.Kind) (a : α) (left : List Token.Kind) : Prop :=
  Reads r (fun c => c.kinds = ks) a fun c => c.kinds = left

theorem kinds_advance_of {c : Cursor} (hc : c.kinds = k :: ks) : c.advance.kinds = ks := by
  rw [c.kinds_advance, hc, List.tail_cons]

theorem reads_kind (ks : List Token.Kind) : ReadsKinds kind ks (ks.headD .eof) ks :=
  fun c hc => ⟨c, by rw [← hc, ← Cursor.kind_eq]; rfl, hc⟩

theorem reads_advance (k : Token.Kind) (ks : List Token.Kind) :
    ReadsKinds advance (k :: ks) () ks :=
  fun _ hc => ⟨_, rfl, kinds_advance_of hc⟩

theorem reads_taken (h : wanted k = true) : ReadsKinds (takeIf wanted) (k :: ks) true ks :=
  reads_takeIf (fun c hc => by rw [c.kind_eq, hc, List.headD_cons, h]) fun _ => kinds_advance_of

theorem reads_untaken (h : wanted (ks.headD .eof) = false) :
    ReadsKinds (takeIf wanted) ks false ks :=
  reads_takeIf_none fun c hc => by rw [c.kind_eq, hc, h]

theorem reads_readName (afterPoint : Bool) (what name : String) (ks : List Token.Kind) :
    ReadsKinds (readName afterPoint what) (.identifier name :: ks) name ks := by
  intro c hc
  refine ⟨c.advance, ?_, kinds_advance_of hc⟩
  obtain ⟨t, ts, htokens, ht, -⟩ := List.map_eq_cons_iff.1 hc
  rw [readName, readAs, readAsOr_eq, Cursor.contents, htokens, List.map_cons, List.head?_cons,
    Option.bind_some, ht]
  rfl

theorem reads_readTableName (selected : Option String) (d t : String) (ks : List Token.Kind) :
    ReadsKinds (readTableName selected) (.identifier d :: .symbol .dot :: .identifier t :: ks)
      ⟨d, t⟩ ks :=
  (reads_untaken rfl).bind ((reads_readName _ _ _ _).bind ((reads_taken rfl).bind
    ((reads_readName _ _ _ _).bind (reads_pure _ _))))

theorem reads_readColumnName (name : String) {ks : List Token.Kind}
    (hdot : ks.headD .eof ≠ .symbol .dot) :
    ReadsKinds readColumnName (.identifier name :: ks) name ks :=
  (reads_readName _ _ _ _).bind ((Reads.many_nil ((reads_untaken (decide_eq_false hdot)).bind
    (reads_pure _ _))).bind (reads_pure _ _))

theorem reads_takeIfExists_none (h : ks.headD .eof ≠ .keyword .ifWord) :
    ReadsKinds takeIfExists ks false ks :=
  (reads_untaken (decide_eq_false h)).bind (reads_pure _ _)

/-! ## Clauses and statements of names -/

theorem reads_readAlterClauses (selected : Option String) (name : String) :
    ReadsKinds (readAlterClauses selected) [.keyword .drop, .keyword .column, .identifier name]
      [.column (.remove name false)] [] := by
  have hname : ReadsKinds readColumnName [.identifier name] name [] :=
    reads_readColumnName name (by decide)
  have hdrop : ReadsKinds readDrop [.keyword .column, .identifier name]
      [.column (.remove name false)] [] :=
    (reads_kind _).bind ((reads_taken rfl).discard.bind
      ((reads_takeIfExists_none (by simp)).bind (hname.bind
        ((reads_untaken rfl).discard.bind (reads_pure _ _)))))
  have hclause : ReadsKinds (readAlterClause selected)
      [.keyword .drop, .keyword .column, .identifier name] [.column (.remove name false)] [] :=
    (reads_kind _).bind ((reads_advance _ _).bind hdrop)
  have hnext : ReadsKinds (readNextClause selected) [] none [] :=
    (reads_untaken rfl).bind (reads_pure _ _)
  have hmore : ReadsKinds (readMoreClauses selected) [] [] [] :=
    hnext.many_nil.map List.flatten
  exact (reads_kind _).bind (hclause.bind (hmore.bind (reads_pure _ _)))

theorem reads_alterTable (selected : Option String) (d t name : String) :
    ReadsKinds (readStatement selected) [.keyword .alter, .keyword .table, .identifier d,
        .symbol .dot, .identifier t, .keyword .drop, .keyword .column, .identifier name]
      (some [.alterTable ⟨d, t⟩ ⟨[.remove name false], none, none, none, none⟩]) [] := by
  have htable : ReadsKinds (readAlterTable selected) [.identifier d, .symbol .dot, .identifier t,
      .keyword .drop, .keyword .column, .identifier name]
        (some (.alterTable ⟨d, t⟩ ⟨[.remove name false], none, none, none, none⟩)) [] :=
    (reads_readTableName _ _ _ _).bind ((reads_readAlterClauses _ _).bind (reads_pure _ _))
  exact (reads_kind _).bind ((reads_advance _ _).bind
    ((Reads.many_nil ((reads_untaken rfl).bind (reads_pure _ _))).discard.bind
      ((reads_taken rfl).bind (htable.bind (reads_pure _ _)))))

theorem reads_renameTable (selected : Option String) (d t d' t' : String) :
    ReadsKinds (readStatement selected) [.keyword .rename, .keyword .table, .identifier d,
        .symbol .dot, .identifier t, .keyword .to, .identifier d', .symbol .dot, .identifier t']
      (some [.renameTables [(⟨d, t⟩, ⟨d', t'⟩)]]) [] := by
  have hto : ReadsKinds (expectKeyword .to) [.keyword .to, .identifier d', .symbol .dot,
      .identifier t'] () [.identifier d', .symbol .dot, .identifier t'] :=
    (reads_taken rfl).bind (reads_pure _ _)
  have htables : ReadsKinds (readRenameTables selected) [.identifier d, .symbol .dot, .identifier t,
      .keyword .to, .identifier d', .symbol .dot, .identifier t']
        (.renameTables [(⟨d, t⟩, ⟨d', t'⟩)]) [] :=
    Reads.bind (Reads.bind ((reads_readTableName _ _ _ _).bind (hto.bind
      ((reads_readTableName _ _ _ _).bind (reads_pure _ _)))) ((Reads.many_nil
        ((reads_untaken rfl).bind (reads_pure _ _))).bind (reads_pure _ _))) (reads_pure _ _)
  exact (reads_kind _).bind ((reads_advance _ _).bind ((reads_taken rfl).bind
    (htables.bind (reads_pure _ _))))

/-- A statement whose tokens are all read asks for what is read. -/
theorem Reads.read {statement : String} {requests : List Request}
    (h : ReadsKinds (readStatement selected) ks (some requests) [])
    (hkinds : Token.kinds 0 statement.toList = ks ++ [.eof]) (hks : .eof ∉ ks) :
    Statement.read selected statement = .ok requests := by
  have hcode : (Cursor.ofStatement statement).kinds = ks := by
    rw [Cursor.kinds_ofStatement, Token.code, hkinds, List.filter_append]
    simpa using fun k hk => ne_of_mem_of_not_mem hk hks
  obtain ⟨next, hnext, hend⟩ := h _ hcode
  exact read_of_tokens_nil hnext (List.map_eq_nil_iff.1 hend)

/-- A statement about tables is looked at up to the word for a table only. -/
theorem separate_table {k : Keyword} (hk : k ∈ Token.namingWords) (rest : List Char) :
    separate 0 (k.spelling.toList ++ ' ' :: (Keyword.table.spelling.toList ++ ' ' :: rest)) =
      true := by
  obtain ⟨d, ds, htable, hblank', hd, hscan'⟩ :=
    Token.scan_keyword (by decide : Keyword.table ∈ Token.namingWords) rest
  obtain ⟨c, cs, htext, hblank, hc, hscan⟩ := Token.scan_keyword hk (d :: ds)
  rw [htable, htext]
  have hcode : Token.codeAfter 0 (c :: cs) = c :: cs := Token.codeAfter_of_not_blank hblank hc
  refine separate_of_keyword (gapSeparate_of_not_blank hblank (by simp_all)) hcode
    (congrArg Prod.fst hscan) fun _ => ?_
  rw [hscan, Token.skipGap_of_not_blank hblank (by simp_all)]
  refine separate_of_keyword ?_ ((Token.codeAfter_space 0 _).trans
    (Token.codeAfter_of_not_blank hblank' hd)) (congrArg Prod.fst hscan')
    fun hleading => absurd hleading (by decide)
  rw [gapSeparate_blank (by decide), gapSeparate_of_not_blank hblank' (by simp_all)]

/-- Statements about names between backquotes ask for something about these names, whatever they
are and whatever database is selected. -/
theorem requests_quotedName (selected : Option String) (d t c : String) :
    requests selected ("ALTER TABLE " ++ quotedName d ++ "." ++ quotedName t ++ " DROP COLUMN " ++
        quotedName c) =
      .ok [.alterTable ⟨d, t⟩ ⟨[.remove c false], none, none, none, none⟩] ∧
    requests selected ("RENAME TABLE " ++ quotedName d ++ "." ++ quotedName t ++ " TO " ++
        quotedName d ++ "." ++ quotedName c) =
      .ok [.renameTables [(⟨d, t⟩, ⟨d, c⟩)]] := by
  have halter : ("ALTER TABLE " ++ quotedName d ++ "." ++ quotedName t ++ " DROP COLUMN " ++
      quotedName c).toList = Keyword.alter.spelling.toList ++ ' ' ::
        (Keyword.table.spelling.toList ++ ' ' :: ((quotedName d).toList ++ '.' ::
          ((quotedName t).toList ++ ' ' :: (Keyword.drop.spelling.toList ++ ' ' ::
            (Keyword.column.spelling.toList ++ ' ' :: (quotedName c).toList))))) := by
    simp [Keyword.spelling]
  have hrename : ("RENAME TABLE " ++ quotedName d ++ "." ++ quotedName t ++ " TO " ++
      quotedName d ++ "." ++ quotedName c).toList = Keyword.rename.spelling.toList ++ ' ' ::
        (Keyword.table.spelling.toList ++ ' ' :: ((quotedName d).toList ++ '.' ::
          ((quotedName t).toList ++ ' ' :: (Keyword.to.spelling.toList ++ ' ' ::
            ((quotedName d).toList ++ '.' :: (quotedName c).toList))))) := by
    simp [Keyword.spelling]
  constructor
  · rw [requests_eq_read (halter ▸ separate_table (by decide) _)]
    refine (reads_alterTable selected d t c).read ?_ (by simp)
    rw [halter, Token.kinds_keyword (by decide), Token.kinds_keyword (by decide),
      Token.kinds_qualified, Token.kinds_keyword (by decide), Token.kinds_keyword (by decide),
      Token.kinds_end]
    rfl
  · rw [requests_eq_read (hrename ▸ separate_table (by decide) _)]
    refine (reads_renameTable selected d t d c).read ?_ (by simp)
    rw [hrename, Token.kinds_keyword (by decide), Token.kinds_keyword (by decide),
      Token.kinds_qualified, Token.kinds_keyword (by decide), Token.kinds_quotedName _ (by simp),
      Token.kinds_dot, Token.kinds_end]
    rfl

end Statement

end SchemaTrail
