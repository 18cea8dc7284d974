import EntityFinder.Criteria.Basic
import EntityFinder.Error
import EntityFinder.Text.Blank

set_option autoImplicit false

/-!
# The query of a set of criteria

Each entry becomes a term `property:value`, and the terms are joined by `AND` in the order of the
entries. A value with white space inside becomes a phrase in double quotes, unless it is a
parenthesised group, which the caller wrote in the query language himself. Quotes inside a phrase
are left as they are.

## Main definitions

* `EntityFinder.Criteria.term`: the term of one entry.
* `EntityFinder.Criteria.compile`: the query, or the refusal of empty criteria.
-/

namespace EntityFinder.Criteria

/-- Whether a value, blanks around it apart, is written between parentheses. -/
def isGroup (value : List Char) : Bool :=
  let inner := Text.trimChars value
  2 ≤ inner.length && inner.head? == some '(' && inner.getLast? == some ')'

/-- Whether a value has to be quoted: it has white space inside and is no group. -/
def needsQuotes (value : List Char) : Bool :=
  (Text.trimChars value).any Text.isBlank && !isGroup value

/-- The value as it stands in a term. -/
def termValue (value : List Char) : List Char :=
  if needsQuotes value then '"' :: value ++ ['"'] else value

/-- The term of one entry. -/
def term (property value : String) : String :=
  property ++ ":" ++ String.ofList (termValue value.toList)

/-- What stands between two terms. -/
def termSeparator : String := " AND "

/-- The query that lists every node of an entity. -/
def matchAllQuery : String := "id:*"

/-- The query that the criteria stand for; empty criteria stand for none. -/
def compile (c : Criteria) : Except FinderError String :=
  if c.isEmpty then .error .emptyCriteria
  else .ok (termSeparator.intercalate (c.entries.map fun (property, value) => term property value))

end EntityFinder.Criteria
