set_option autoImplicit false

/-!
# Why a full-text query is refused

## Main definitions

* `EntityFinder.FullText.QueryFault`: the causes.
* `EntityFinder.FullText.QueryFault.message`: the wording of each.
-/

namespace EntityFinder.FullText

/-- Why a query text has no meaning. -/
inductive QueryFault where
  /-- A character or word that cannot stand where it stands; the empty text is the end. -/
  | unexpected (written : String)
  /-- A quote that is never closed. -/
  | unterminated
  /-- A column that the table does not have. -/
  | noSuchColumn (name : String)
  /-- A distance that is no number. -/
  | noDistance (written : String)
  /-- A query that begins with an asterisk asks for a service that the table does not offer. -/
  | noSuchService (name : String)
  /-- A query with too many parts inside one another to be read. -/
  | tooNested
  /-- A query whose parts are joined in too many levels. -/
  | tooHigh
  deriving DecidableEq, Repr

/-- The wording of a fault. -/
def QueryFault.message : QueryFault → String
  | unexpected written => "fts5: syntax error near \"" ++ written ++ "\""
  | unterminated => "unterminated string"
  | noSuchColumn name => "no such column: " ++ name
  | noDistance written => "expected integer, got \"" ++ written ++ "\""
  | noSuchService name => "unknown special query: " ++ name
  | tooNested => "fts5: parser stack overflow"
  | tooHigh => "fts5 expression tree is too large (maximum depth 256)"

end EntityFinder.FullText
