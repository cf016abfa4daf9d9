import SchemaTrail.Proofs.Coverage
import SchemaTrail.Proofs.TokenEnds

/-!
# Executable comments

A text consists of gaps and tokens, up to a comment or token that is still open at its end
(`Token.exists_parts`).  Where none is, what follows behind a space is read anew
(`Token.Parts.kinds`).  So code in an executable comment has the tokens that it has outside of it
(`Token.kinds_executable`).
-/

namespace SchemaTrail.Token

variable {c : Char} {k : Kind} {ks : List Kind} {opened opened' : Nat} {cs rest v : List Char}

/-! ## Gaps piece by piece -/

theorem skipGap_blank (hc : Text.isBlank c = true) (opened : Nat) (cs : List Char) :
    skipGap opened (c :: cs) = skipGap opened cs := by
  have hne : c ∉ "-#*/".toList := fun hmem => by
    have hcases : c = '-' ∨ c = '#' ∨ c = '*' ∨ c = '/' := by simpa using hmem
    rcases hcases with rfl | rfl | rfl | rfl <;> exact absurd hc (by decide)
  rw [skipGap.eq_def]
  split <;> simp_all

/-- The marks with which a comment to the end of the line begins. -/
def lineMarks : List (List Char) := ["--".toList, "#".toList]

theorem skipGap_line {mark line : List Char} (hmark : mark ∈ lineMarks) (hline : '\n' ∉ line)
    (opened : Nat) (cs : List Char) :
    skipGap opened (mark ++ line ++ '\n' :: cs) = skipGap opened cs := by
  have hskip : skipLine (line ++ '\n' :: cs) = '\n' :: cs := by
    rw [skipLine, List.dropWhile_append_of_pos fun c hc => ?_]
    · simp
    · simpa using ne_of_mem_of_not_mem hc hline
  have hcases : mark = ['-', '-'] ∨ mark = ['#'] := by simpa [lineMarks] using hmark
  rw [← skipGap_blank (c := '\n') rfl opened cs, List.append_assoc]
  rcases hcases with rfl | rfl
  · rw [List.cons_append, List.cons_append, List.nil_append, skipGap, hskip]
  · rw [List.cons_append, List.nil_append, skipGap, hskip]

/-- What a mark is made of does not begin behind a text, so that the mark does not either. -/
theorem prefix_of_prefix_append {mark w : List Char} (h : mark <+: w ++ v)
    (hv : ∀ c ∈ v.head?, c ∉ mark) : mark <+: w := by
  induction w generalizing mark with
  | nil =>
    cases mark with
    | nil => exact List.nil_prefix
    | cons c mark =>
      obtain ⟨rest, rfl⟩ := h
      exact absurd List.mem_cons_self (hv c rfl)
  | cons c w ih =>
    cases mark with
    | nil => exact List.nil_prefix
    | cons d mark =>
      obtain ⟨rfl, htail⟩ := List.cons_prefix_cons.1 h
      exact List.cons_prefix_cons.2
        ⟨rfl, ih htail fun c hc hmem => hv c hc (List.mem_cons_of_mem d hmem)⟩

theorem skipBlock_append {body : List Char} (hbody : ¬['*', '/'] <:+: body) (cs : List Char) :
    skipBlock (body ++ '*' :: '/' :: cs) = cs := by
  induction body with
  | nil => rfl
  | cons c body ih =>
    rw [List.infix_cons_iff, not_or] at hbody
    rw [List.cons_append, skipBlock.eq_def]
    split
    next heq => cases heq
    next heq =>
      obtain ⟨rfl, hrest⟩ := List.cons.inj heq
      cases body with
      | nil => cases hrest
      | cons d body =>
        cases hrest
        exact absurd ⟨body, rfl⟩ hbody.1
    next heq =>
      obtain ⟨-, rfl⟩ := List.cons.inj heq
      exact ih hbody.2

theorem skipVersion?_eq_none (h : ∀ mark ∈ executableMarks, ¬mark <+: cs) :
    skipVersion? cs = none := by
  unfold skipVersion?
  split
  next rest => exact absurd ⟨rest, rfl⟩ (h "!".toList (by decide))
  next rest => exact absurd ⟨rest, rfl⟩ (h "M!".toList (by decide))
  next => rfl

theorem skipGap_block {body : List Char} (hmark : ∀ mark ∈ executableMarks, ¬mark <+: body)
    (hbody : ¬['*', '/'] <:+: body) (opened : Nat) (cs : List Char) :
    skipGap opened ('/' :: '*' :: body ++ '*' :: '/' :: cs) = skipGap opened cs := by
  have hversion : skipVersion? (body ++ '*' :: '/' :: cs) = none := by
    refine skipVersion?_eq_none fun mark hmem hprefix => ?_
    have hstar : ∀ mark ∈ executableMarks, '*' ∉ mark := by decide
    exact hmark mark hmem (prefix_of_prefix_append hprefix (by simpa using hstar mark hmem))
  rw [List.cons_append, List.cons_append, skipGap]
  split
  next heq =>
    rw [hversion] at heq
    cases heq
  next => exact congrArg (skipGap opened) (skipBlock_append hbody cs)

theorem skipVersion?_append {mark digits : List Char} (hmark : mark ∈ executableMarks)
    (hdigits : ∀ d ∈ digits, d.isDigit = true) (hend : ∀ c ∈ cs.head?, c.isDigit = false) :
    skipVersion? (mark ++ digits ++ cs) = some cs := by
  have hdrop : (digits ++ cs).dropWhile Char.isDigit = cs := by
    rw [List.dropWhile_append_of_pos hdigits]
    cases cs with
    | nil => rfl
    | cons c cs => simp [hend c rfl]
  have hcases : mark = ['!'] ∨ mark = ['M', '!'] := by simpa [executableMarks] using hmark
  rw [List.append_assoc]
  rcases hcases with rfl | rfl
  all_goals exact congrArg some hdrop

theorem skipGap_executable {mark digits : List Char} (hmark : mark ∈ executableMarks)
    (hdigits : ∀ d ∈ digits, d.isDigit = true) (hend : ∀ c ∈ cs.head?, c.isDigit = false)
    (opened : Nat) :
    skipGap opened ('/' :: '*' :: (mark ++ digits ++ cs)) = skipGap (opened + 1) cs := by
  have hversion := skipVersion?_append hmark hdigits hend
  rw [skipGap]
  split
  next heq =>
    rw [hversion] at heq
    cases heq
    rfl
  next heq =>
    rw [hversion] at heq
    cases heq

theorem skipGap_close (opened : Nat) (cs : List Char) :
    skipGap (opened + 1) ('*' :: '/' :: cs) = skipGap opened cs := by
  rw [skipGap, if_pos (Nat.succ_pos opened), Nat.add_sub_cancel]

/-! ## Where tokens begin -/

/-- The marks with which gaps begin where executable comments are open or not. -/
def gapMarks (opened : Nat) : List (List Char) :=
  lineMarks ++ ["/*".toList] ++ if opened = 0 then [] else ["*/".toList]

/-- A text begins neither with a blank nor with the mark of a gap. -/
def BeginsToken (opened : Nat) (cs : List Char) : Prop :=
  (∀ c ∈ cs.head?, Text.isBlank c = false) ∧ ∀ mark ∈ gapMarks opened, ¬mark <+: cs

theorem space_not_mem_gapMarks : ∀ mark ∈ gapMarks opened, ' ' ∉ mark := by
  unfold gapMarks
  split <;> decide

instance (opened : Nat) (cs : List Char) : Decidable (BeginsToken opened cs) :=
  decidable_of_iff (cs.head?.any Text.isBlank = false ∧ ∀ mark ∈ gapMarks opened, ¬mark <+: cs) <|
    and_congr_left' (Option.any_eq_false _ _)

theorem skipGap_of_beginsToken (h : BeginsToken opened cs) : skipGap opened cs = (opened, cs) := by
  have hmark (mark : List Char) {rest : List Char} (hmem : mark ∈ lineMarks ++ ["/*".toList])
      (heq : mark ++ rest = cs) : False :=
    h.2 mark (List.mem_append_left _ hmem) ⟨rest, heq⟩
  rw [skipGap.eq_def]
  split
  · exact (hmark "--".toList (by decide) rfl).elim
  · exact (hmark "#".toList (by decide) rfl).elim
  next rest =>
    split
    next hopened =>
      refine absurd ⟨rest, rfl⟩ (h.2 "*/".toList (List.mem_append_right _ ?_))
      rw [if_neg (Nat.pos_iff_ne_zero.1 hopened)]
      exact List.mem_singleton_self _
    next => rfl
  · exact (hmark "/*".toList (by decide) rfl).elim
  next c rest _ _ _ _ => rw [if_neg (by simp [h.1 c rfl])]
  · rfl

theorem BeginsToken.append (h : BeginsToken opened cs) (hcs : cs ≠ []) (hv : IsSpaced v) :
    BeginsToken opened (cs ++ v) := by
  obtain ⟨c, cs, rfl⟩ := List.exists_cons_of_ne_nil hcs
  refine ⟨h.1, fun mark hmark hprefix => h.2 mark hmark (prefix_of_prefix_append hprefix ?_)⟩
  rintro c hc
  rw [hv c hc]
  exact space_not_mem_gapMarks mark hmark

theorem kinds_of_firstToken? (hbegins : BeginsToken opened cs)
    (h : firstToken? cs = some (k, rest)) : kinds opened cs = k :: kinds opened rest := by
  have hgap := skipGap_of_beginsToken hbegins
  have hcode : codeAfter opened cs = dropNational cs := by rw [codeAfter, hgap]
  unfold firstToken? at h
  split at h
  · cases h
  next c after hdrop =>
    rw [kinds_of_codeAfter_cons (hcode.trans hdrop), hgap, Option.some.inj h]

/-! ## Parts of a text -/

/-- How a text is read, which a space follows, up to its rest: gaps and tokens that end within it.
The numbers tell how many executable comments are open before and after. -/
inductive Parts : Nat → List Char → Nat → List Char → List Kind → Prop
  | done (opened : Nat) (cs : List Char) : Parts opened cs opened cs []
  | blank {opened opened' : Nat} {c : Char} {cs rest : List Char} {ks : List Kind}
    (hc : Text.isBlank c = true) (h : Parts opened cs opened' rest ks) :
    Parts opened (c :: cs) opened' rest ks
  /-- A comment to the end of the line. -/
  | line {opened opened' : Nat} {mark line cs rest : List Char} {ks : List Kind}
    (hmark : mark ∈ lineMarks) (hline : '\n' ∉ line) (h : Parts opened cs opened' rest ks) :
    Parts opened (mark ++ line ++ '\n' :: cs) opened' rest ks
  | block {opened opened' : Nat} {body cs rest : List Char} {ks : List Kind}
    (hmark : ∀ mark ∈ executableMarks, ¬mark <+: body) (hbody : ¬['*', '/'] <:+: body)
    (h : Parts opened cs opened' rest ks) :
    Parts opened ('/' :: '*' :: body ++ '*' :: '/' :: cs) opened' rest ks
  /-- The opener of an executable comment, with all digits of its version. -/
  | executable {opened opened' : Nat} {mark digits cs rest : List Char} {ks : List Kind}
    (hmark : mark ∈ executableMarks) (hdigits : ∀ d ∈ digits, d.isDigit = true)
    (hend : ∀ c ∈ cs.head?, c.isDigit = false) (h : Parts (opened + 1) cs opened' rest ks) :
    Parts opened ('/' :: '*' :: (mark ++ digits ++ cs)) opened' rest ks
  /-- The end of an executable comment. -/
  | close {opened opened' : Nat} {cs rest : List Char} {ks : List Kind}
    (h : Parts opened cs opened' rest ks) :
    Parts (opened + 1) ('*' :: '/' :: cs) opened' rest ks
  | token {opened opened' : Nat} {text cs rest : List Char} {k : Kind} {ks : List Kind}
    (hbegins : BeginsToken opened (text ++ cs))
    (htoken : firstToken? (text ++ cs ++ [' ']) = some (k, cs ++ [' ']))
    (h : Parts opened cs opened' rest ks) : Parts opened (text ++ cs) opened' rest (k :: ks)

/-- What is read of a text is read whatever follows behind a space. -/
theorem Parts.kinds (h : Parts opened cs opened' rest ks) (hv : IsSpaced v) :
    Token.kinds opened (cs ++ v) = ks ++ Token.kinds opened' (rest ++ v) := by
  induction h with
  | done => rfl
  | @blank opened _ c cs _ _ hc _ ih =>
    rw [← ih]
    exact kinds_eq_of_skipGap (skipGap_blank hc opened (cs ++ v))
  | @line opened _ mark line cs _ _ hmark hline _ ih =>
    rw [← ih, List.append_assoc, List.cons_append]
    exact kinds_eq_of_skipGap (skipGap_line hmark hline opened (cs ++ v))
  | @block opened _ body cs _ _ hmark hbody _ ih =>
    rw [← ih, List.append_assoc]
    exact kinds_eq_of_skipGap (skipGap_block hmark hbody opened (cs ++ v))
  | @executable opened _ mark digits cs _ _ hmark hdigits hend _ ih =>
    rw [← ih, List.cons_append, List.cons_append, List.append_assoc]
    refine kinds_eq_of_skipGap (skipGap_executable hmark hdigits (fun c hc => ?_) opened)
    cases cs with
    | nil =>
      rw [hv c hc]
      rfl
    | cons d cs => exact hend c hc
  | @close opened _ cs _ _ _ ih =>
    rw [← ih]
    exact kinds_eq_of_skipGap (skipGap_close opened (cs ++ v))
  | @token opened _ text cs _ k _ hbegins htoken _ ih =>
    have hne : text ++ cs ≠ [] := fun hnil => by
      rw [hnil] at htoken
      exact ne_nil_of_append_space (Prod.mk.inj (Option.some.inj htoken)).2.symm
    rw [kinds_of_firstToken? (hbegins.append hne hv) (firstToken?_cuts htoken hv), ih]
    rfl

/-! ## Every text has parts -/

/-- What is open at the end of a text, so that a space behind it would belong to it: a comment or a
token. -/
inductive IsOpen (opened : Nat) : List Char → Prop
  | line {mark line : List Char} (hmark : mark ∈ lineMarks) (hline : '\n' ∉ line) :
    IsOpen opened (mark ++ line)
  | block {body : List Char} (hmark : ∀ mark ∈ executableMarks, ¬mark <+: body)
    (hbody : ¬['*', '/'] <:+: body) : IsOpen opened ('/' :: '*' :: body)
  | token {cs : List Char} {k : Kind} (hbegins : BeginsToken opened cs)
    (htoken : firstToken? (cs ++ [' ']) = some (k, [])) : IsOpen opened cs

theorem exists_firstToken? (c : Char) (cs : List Char) :
    ∃ k rest, firstToken? (c :: cs) = some (k, rest) ∧ rest <:+ cs := by
  by_cases hnational : c ∈ ['n', 'N'] ∧ cs.head? = some '\''
  · obtain ⟨hletter, hhead⟩ := hnational
    obtain ⟨body, rfl⟩ := List.head?_eq_some_iff.1 hhead
    have hdrop : dropNational (c :: '\'' :: body) = '\'' :: body := by
      have hcases : c = 'n' ∨ c = 'N' := by simpa using hletter
      rcases hcases with rfl | rfl <;> rfl
    exact ⟨_, _, firstToken?_eq hdrop, (scan_suffix '\'' body).trans (List.suffix_cons _ _)⟩
  · have hdrop : dropNational (c :: cs) = c :: cs :=
      dropNational_of_head? fun hletter hhead => hnational ⟨hletter, hhead⟩
    exact ⟨_, _, firstToken?_eq hdrop, scan_suffix c cs⟩

/-- Where a token begins, it is open at the end of the text, or what follows it is left. -/
theorem BeginsToken.cases (hbegins : BeginsToken opened cs) (hcs : cs ≠ []) :
    IsOpen opened cs ∨ ∃ text rest k, cs = text ++ rest ∧ text ≠ [] ∧
      firstToken? (text ++ rest ++ [' ']) = some (k, rest ++ [' ']) := by
  obtain ⟨c, cs, rfl⟩ := List.exists_cons_of_ne_nil hcs
  obtain ⟨k, after, htoken, front, hfront⟩ := exists_firstToken? c (cs ++ [' '])
  rcases List.eq_nil_or_concat after with rfl | ⟨rest, last, rfl⟩
  · exact .inl (.token hbegins htoken)
  · rw [List.concat_eq_append, ← List.append_assoc] at hfront
    obtain ⟨rfl, hlast⟩ := List.append_inj' hfront rfl
    cases hlast
    refine .inr ⟨c :: front, rest, k, rfl, List.cons_ne_nil _ _, ?_⟩
    rw [List.concat_eq_append] at htoken
    exact htoken

/-- Where no token begins, a comment is open at the end of the text, or a gap is read. -/
theorem exists_gap (hbegins : ¬BeginsToken opened cs) :
    IsOpen opened cs ∨ ∃ between ds, ds.length < cs.length ∧ ∀ opened' rest ks,
      Parts between ds opened' rest ks → Parts opened cs opened' rest ks := by
  by_cases hblank : ∃ c ∈ cs.head?, Text.isBlank c = true
  · obtain ⟨c, hhead, hc⟩ := hblank
    obtain ⟨ds, rfl⟩ := List.head?_eq_some_iff.1 hhead
    exact .inr ⟨opened, ds, Nat.lt_succ_self _, fun _ _ _ => .blank hc⟩
  obtain ⟨mark, hmark, tail, rfl⟩ : ∃ mark ∈ gapMarks opened, mark <+: cs := by
    by_contra hnone
    simp only [not_exists, not_and] at hblank hnone
    exact hbegins ⟨fun c hc => Bool.eq_false_iff.2 (hblank c hc), hnone⟩
  rcases List.mem_append.1 hmark with hmark | hmark
  · rcases List.mem_append.1 hmark with hline | hblock
    · obtain ⟨line, htail, hnewline, hend⟩ := exists_line tail
      cases hskip : skipLine tail with
      | nil =>
        rw [hskip, List.append_nil] at htail
        exact .inl (.line hline (htail ▸ hnewline))
      | cons c ds =>
        rw [hskip] at htail hend
        cases hend c rfl
        rw [htail, ← List.append_assoc]
        exact .inr ⟨opened, ds, by simp; omega, fun _ _ _ => .line hline hnewline⟩
    · obtain rfl : mark = "/*".toList := List.mem_singleton.1 hblock
      cases hversion : skipVersion? tail with
      | some code =>
        obtain ⟨mark, hmark, digits, rfl, hdigits, hend⟩ := exists_of_skipVersion? hversion
        exact .inr ⟨opened + 1, code, by simp; omega,
          fun _ _ _ => .executable hmark hdigits hend⟩
      | none =>
        rcases skipBlock_cases tail with ⟨body, htail, hbody⟩ | ⟨-, hbody⟩
        · have hmark := not_mark_of_skipVersion? hversion ⟨_, htail.symm⟩
          rw [htail]
          exact .inr ⟨opened, skipBlock tail, by simp; omega, fun _ _ _ => .block hmark hbody⟩
        · exact .inl (.block (not_mark_of_skipVersion? hversion List.prefix_rfl) hbody)
  · split at hmark
    next => cases hmark
    next hopened =>
      obtain rfl : mark = "*/".toList := List.mem_singleton.1 hmark
      obtain ⟨between, rfl⟩ := Nat.exists_eq_succ_of_ne_zero hopened
      exact .inr ⟨between, tail, Nat.lt_add_of_pos_right Nat.two_pos, fun _ _ _ => .close⟩

/-- Every text has parts up to what is open at its end. -/
theorem exists_parts (opened : Nat) (cs : List Char) :
    ∃ opened' rest ks, Parts opened cs opened' rest ks ∧ (rest = [] ∨ IsOpen opened' rest) := by
  induction hlength : cs.length using Nat.strongRecOn generalizing opened cs with
  | ind n ih =>
    subst hlength
    by_cases hnil : cs = []
    · exact ⟨opened, cs, [], .done _ _, .inl hnil⟩
    by_cases hbegins : BeginsToken opened cs
    · rcases hbegins.cases hnil with hopen | ⟨text, rest, k, rfl, htext, htoken⟩
      · exact ⟨opened, cs, [], .done _ _, .inr hopen⟩
      · have hlt : rest.length < (text ++ rest).length := by
          simp [List.length_pos_iff.2 htext]
        obtain ⟨opened', rest', ks, hparts, hend⟩ := ih _ hlt opened rest rfl
        exact ⟨opened', rest', k :: ks, .token hbegins htoken hparts, hend⟩
    · rcases exists_gap hbegins with hopen | ⟨between, ds, hlt, hgap⟩
      · exact ⟨opened, cs, [], .done _ _, .inr hopen⟩
      · obtain ⟨opened', rest, ks, hparts, hend⟩ := ih _ hlt between ds rfl
        exact ⟨opened', rest, ks, hgap _ _ _ hparts, hend⟩

/-! ## Code in executable comments -/

/-- Code that a space follows and that leaves the executable comments as they are: blanks, closed
comments, and tokens without a fault.  Comments to the end of the line, executable ones and ends of
comments are not among it. -/
inductive Plain : List Char → List Kind → Prop
  | nil : Plain [] []
  | blank {c : Char} {cs : List Char} {ks : List Kind} (hc : Text.isBlank c = true)
    (h : Plain cs ks) : Plain (c :: cs) ks
  | block {body cs : List Char} {ks : List Kind} (hmark : ∀ mark ∈ executableMarks, ¬mark <+: body)
    (hbody : ¬['*', '/'] <:+: body) (h : Plain cs ks) :
    Plain ('/' :: '*' :: body ++ '*' :: '/' :: cs) ks
  | token {text cs : List Char} {k : Kind} {ks : List Kind} (hbegins : BeginsToken 1 (text ++ cs))
    (htoken : firstToken? (text ++ cs ++ [' ']) = some (k, cs ++ [' ']))
    (hfault : ∀ fault, k ≠ .error fault) (h : Plain cs ks) : Plain (text ++ cs) (k :: ks)

/-- What begins a token where an executable comment is open does so everywhere. -/
theorem BeginsToken.of_opened (h : BeginsToken 1 cs) (opened : Nat) : BeginsToken opened cs := by
  refine ⟨h.1, fun mark hmark => h.2 mark ?_⟩
  have hsubset : gapMarks opened ⊆ gapMarks 1 := by
    unfold gapMarks
    split <;> decide
  exact hsubset hmark

theorem Plain.parts (h : Plain cs ks) (opened : Nat) : Parts opened cs opened [] ks := by
  induction h with
  | nil => exact .done opened []
  | blank hc _ ih => exact .blank hc ih
  | block hmark hbody _ ih => exact .block hmark hbody ih
  | token hbegins htoken _ _ ih => exact .token (hbegins.of_opened opened) htoken ih

/-- Code has its tokens also where nothing follows it. -/
theorem Plain.kinds (h : Plain cs ks) (opened : Nat) : Token.kinds opened cs = ks ++ [.eof] := by
  simpa [kinds_nil] using (h.parts opened).kinds isSpaced_nil

/-- What follows behind a space is read anew. -/
theorem Parts.kinds_space (h : Parts opened cs opened' [] ks) (rest : List Char) :
    Token.kinds opened (cs ++ ' ' :: rest) = ks ++ Token.kinds opened' rest := by
  rw [h.kinds (isSpaced_space rest), List.nil_append, Token.kinds_space]

/-- Code in an executable comment has the tokens that it has outside of it. -/
theorem kinds_executable {pre body mark digits : List Char} {ks' : List Kind}
    (hpre : Parts opened pre opened' [] ks) (hbody : Plain body ks')
    (hmark : mark ∈ executableMarks) (hdigits : ∀ d ∈ digits, d.isDigit = true)
    (post : List Char) :
    Token.kinds opened (pre ++ ' ' :: '/' :: '*' :: (mark ++ digits ++
        ' ' :: (body ++ ' ' :: '*' :: '/' :: ' ' :: post))) =
      Token.kinds opened (pre ++ ' ' :: (body ++ ' ' :: post)) := by
  have hopen : ∀ cs, Token.kinds opened' ('/' :: '*' :: (mark ++ digits ++ ' ' :: cs)) =
      Token.kinds (opened' + 1) cs := fun cs => by
    rw [kinds_eq_of_skipGap (skipGap_executable hmark hdigits (by simp) opened'), Token.kinds_space]
  have hclose : ∀ cs, Token.kinds (opened' + 1) ('*' :: '/' :: cs) = Token.kinds opened' cs :=
    fun cs => kinds_eq_of_skipGap (skipGap_close opened' cs)
  rw [hpre.kinds_space, hpre.kinds_space, hopen, (hbody.parts _).kinds_space,
    (hbody.parts _).kinds_space, hclose, Token.kinds_space]

/-- A text that ends outside of comments and tokens, code in an executable comment, and any text
behind it have the tokens that they have where the code is in no comment. -/
theorem tokenize_executable {pre body mark digits : String} {ks' : List Kind}
    (hpre : Parts 0 pre.toList opened [] ks) (hbody : Plain body.toList ks')
    (hmark : mark.toList ∈ executableMarks) (hdigits : ∀ d ∈ digits.toList, d.isDigit = true)
    (post : String) :
    (tokenize (pre ++ " /*" ++ mark ++ digits ++ " " ++ body ++ " */ " ++ post)).map Token.kind =
      (tokenize (pre ++ " " ++ body ++ " " ++ post)).map Token.kind := by
  have hkinds := kinds_executable hpre hbody hmark hdigits post.toList
  rw [map_kind_tokenize, map_kind_tokenize]
  simpa using hkinds

/-- A text and a comment hold what would be the end of the executable comment elsewhere. -/
theorem tokenize_executable_version :
    let pre := "a #c\n"
    let body := "'*/'/* */n'b'"
    let post := "; 'd"
    Parts 0 pre.toList 0 [] [.identifier "a"] ∧ Plain body.toList [.string "*/", .string "b"] ∧
      "M!".toList ∈ executableMarks ∧ (∀ d ∈ "50100".toList, d.isDigit = true) ∧
      (tokenize (pre ++ " /*" ++ "M!" ++ "50100" ++ " " ++ body ++ " */ " ++ post)).map Token.kind =
        (tokenize (pre ++ " " ++ body ++ " " ++ post)).map Token.kind := by
  intro pre body post
  have hline : Parts 0 (['#'] ++ ['c'] ++ '\n' :: []) 0 [] [] :=
    .line (by decide) (by decide) (.done 0 [])
  have hpre : Parts 0 pre.toList 0 [] [.identifier "a"] := by
    have htext : pre.toList = ['a'] ++ [' ', '#', 'c', '\n'] := by decide
    rw [htext]
    exact .token (by decide) (by decide) (.blank rfl hline)
  have hlast : Plain ("n'b'".toList ++ []) [.string "b"] :=
    .token (by decide) (by decide) (by simp) .nil
  have hblock : Plain ('/' :: '*' :: [' '] ++ '*' :: '/' :: ("n'b'".toList ++ [])) [.string "b"] :=
    .block (by decide) (by decide) hlast
  have hbody : Plain body.toList [.string "*/", .string "b"] := by
    have htext : body.toList =
        "'*/'".toList ++ ('/' :: '*' :: [' '] ++ '*' :: '/' :: ("n'b'".toList ++ [])) := by decide
    rw [htext]
    exact .token (by decide) (by decide) (by simp) hblock
  have hdigits : ∀ d ∈ "50100".toList, d.isDigit = true := List.all_eq_true.1 rfl
  exact ⟨hpre, hbody, by decide, hdigits,
    tokenize_executable hpre hbody (by decide) hdigits _⟩

end SchemaTrail.Token
