import SchemaTrail.Text.LetterCase

/-!
# Keywords

The words that the grammar of statements knows.  The names of column types are not among them.
-/

namespace SchemaTrail

/-- A keyword. -/
inductive Keyword where
  | create | alter | drop | rename | select | database | schema | table
  | tables | column | index | key | keys | view | temporary | add
  | change | modify | convert | first | after | to | asWord | enable
  | disable | order | byWord | algorithm | lock | partition | online | offline
  | ignore | ifWord | not | exists | like | or | replace | primary
  | unique | fulltext | spatial | foreign | references | constraint | check | cascade
  | restrict | usingWord | asc | desc | default | null | unsigned | signed
  | zerofill | binary | national | varying | precision | character | charset | set
  | collate | comment | autoIncrement | generated | always | virtual | stored | on
  | update | definer
  deriving DecidableEq, Repr

namespace Keyword

/-- All keywords. -/
def all : List Keyword :=
  [.create, .alter, .drop, .rename, .select, .database, .schema, .table, .tables, .column, .index,
    .key, .keys, .view, .temporary, .add, .change, .modify, .convert, .first, .after, .to,
    .asWord, .enable, .disable, .order, .byWord, .algorithm, .lock, .partition, .online, .offline,
    .ignore, .ifWord, .not, .exists, .like, .or, .replace, .primary, .unique, .fulltext, .spatial,
    .foreign, .references, .constraint, .check, .cascade, .restrict, .usingWord, .asc, .desc,
    .default, .null, .unsigned, .signed, .zerofill, .binary, .national, .varying, .precision,
    .character, .charset, .set, .collate, .comment, .autoIncrement, .generated, .always, .virtual,
    .stored, .on, .update, .definer]

/-- The keyword in capitals. -/
def spelling : Keyword → String
  | .create => "CREATE"
  | .alter => "ALTER"
  | .drop => "DROP"
  | .rename => "RENAME"
  | .select => "SELECT"
  | .database => "DATABASE"
  | .schema => "SCHEMA"
  | .table => "TABLE"
  | .tables => "TABLES"
  | .column => "COLUMN"
  | .index => "INDEX"
  | .key => "KEY"
  | .keys => "KEYS"
  | .view => "VIEW"
  | .temporary => "TEMPORARY"
  | .add => "ADD"
  | .change => "CHANGE"
  | .modify => "MODIFY"
  | .convert => "CONVERT"
  | .first => "FIRST"
  | .after => "AFTER"
  | .to => "TO"
  | .asWord => "AS"
  | .enable => "ENABLE"
  | .disable => "DISABLE"
  | .order => "ORDER"
  | .byWord => "BY"
  | .algorithm => "ALGORITHM"
  | .lock => "LOCK"
  | .partition => "PARTITION"
  | .online => "ONLINE"
  | .offline => "OFFLINE"
  | .ignore => "IGNORE"
  | .ifWord => "IF"
  | .not => "NOT"
  | .exists => "EXISTS"
  | .like => "LIKE"
  | .or => "OR"
  | .replace => "REPLACE"
  | .primary => "PRIMARY"
  | .unique => "UNIQUE"
  | .fulltext => "FULLTEXT"
  | .spatial => "SPATIAL"
  | .foreign => "FOREIGN"
  | .references => "REFERENCES"
  | .constraint => "CONSTRAINT"
  | .check => "CHECK"
  | .cascade => "CASCADE"
  | .restrict => "RESTRICT"
  | .usingWord => "USING"
  | .asc => "ASC"
  | .desc => "DESC"
  | .default => "DEFAULT"
  | .null => "NULL"
  | .unsigned => "UNSIGNED"
  | .signed => "SIGNED"
  | .zerofill => "ZEROFILL"
  | .binary => "BINARY"
  | .national => "NATIONAL"
  | .varying => "VARYING"
  | .precision => "PRECISION"
  | .character => "CHARACTER"
  | .charset => "CHARSET"
  | .set => "SET"
  | .collate => "COLLATE"
  | .comment => "COMMENT"
  | .autoIncrement => "AUTO_INCREMENT"
  | .generated => "GENERATED"
  | .always => "ALWAYS"
  | .virtual => "VIRTUAL"
  | .stored => "STORED"
  | .on => "ON"
  | .update => "UPDATE"
  | .definer => "DEFINER"

/-- The keyword that a word is, in any letter case. -/
def ofWord? (word : String) : Option Keyword :=
  all.find? (·.spelling = Text.asciiUpper word)

/-- Whether the keyword has to be quoted to be a name. -/
def isReserved : Keyword → Bool
  | .tables | .view | .temporary | .modify | .first | .after | .enable | .disable
  | .algorithm | .online | .offline | .national | .signed | .charset | .comment | .autoIncrement
  | .always | .definer => false
  | _ => true

/-- A word with its first letter in capitals only. -/
def capitalize (word : String) : String :=
  match word.toList with
  | [] => ""
  | c :: rest => String.ofList (c.toUpper :: rest.map Char.toLower)

/-- The parts of the keyword, each with a capital and joined. -/
def name (k : Keyword) : String :=
  String.join ((k.spelling.splitOn "_").map capitalize)

end Keyword

end SchemaTrail
