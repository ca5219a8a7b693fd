import Gateway.Diagnostic

/-!
# Rejected input

Why a request was refused before any statement was built from it. Each cause carries the text it is
about; its wording, code, kind and hint are functions of the cause.
-/

namespace Gateway.Sql

/-- What is wrong with a filter. -/
inductive FilterFlaw where
  /-- The language of a full-text operator has no closing bracket. -/
  | openLanguage
  /-- A language was given to an operator that takes none. -/
  | strayLanguage
  /-- A logical group is not in brackets. -/
  | bareGroup
  /-- A logical group has no member. -/
  | emptyGroup
  /-- A group member has no operator. -/
  | missingOperator
  /-- The value of `in` is not in brackets. -/
  | bareList
deriving DecidableEq, Repr

/-- The wording of a flaw. -/
def FilterFlaw.reason : FilterFlaw → String
  | .openLanguage => "unterminated language specifier"
  | .strayLanguage => "only full-text operators accept a language"
  | .bareGroup => "logical groups must be wrapped in parentheses"
  | .emptyGroup => "empty logical group"
  | .missingOperator => "expected column.operator.value"
  | .bareList => "in expects a parenthesized list such as (1,2,3)"

/-- What is wrong with the shape of a body. -/
inductive PayloadFlaw where
  /-- An insert body is neither an object nor an array. -/
  | notRows
  /-- An item of an insert body is not an object. -/
  | itemNotObject
  /-- An update body is not an object. -/
  | notObject
deriving DecidableEq, Repr

/-- The wording of a body's flaw. -/
def PayloadFlaw.reason : PayloadFlaw → String
  | .notRows => "expected an object or an array of objects"
  | .itemNotObject => "array items must be objects"
  | .notObject => "expected an object"

/-- The two parameters that choose a page of rows. -/
inductive PageParameter where
  | limit
  | offset
deriving DecidableEq, Repr

/-- The name of a paging parameter. -/
def PageParameter.name : PageParameter → String
  | .limit => "limit"
  | .offset => "offset"

/-- The cause of a refusal. -/
inductive Rejection where
  /-- A name has a character that names may not have. -/
  | invalidIdentifier (raw : String)
  /-- A filter on `subject` has a flaw. -/
  | malformedFilter (subject : String) (flaw : FilterFlaw)
  /-- A filter operator is not known. -/
  | unknownOperator (token : String)
  /-- The value of `is` is none of the four it may be. -/
  | invalidIsValue (raw : String)
  /-- Brackets or quotes do not pair up. -/
  | unbalancedParentheses (text : String)
  /-- An item of a select list, or a declared relationship, cannot be read. -/
  | malformedSelect (item : String)
  /-- A related table is asked for inside a related table. -/
  | nestedEmbed (item : String)
  /-- A paging parameter is not a number of rows. -/
  | invalidLimit (parameter : PageParameter) (value : String)
  /-- A delete has no filter. -/
  | unfilteredDelete
  /-- The body holds nothing to write. -/
  | emptyPayload
  /-- The body has the wrong shape. -/
  | invalidPayload (flaw : PayloadFlaw)
  /-- The conflict target does not list valid names. -/
  | invalidConflictTarget (raw : String)
deriving DecidableEq, Repr

namespace Rejection

/-- A text between double quotes, for use in a message. -/
def quote (text : String) : String :=
  "\"" ++ text ++ "\""

/-- The wording of a refusal. -/
def message : Rejection → String
  | invalidIdentifier raw => "invalid identifier " ++ quote raw
  | malformedFilter subject flaw => "malformed filter on " ++ quote subject ++ ": " ++ flaw.reason
  | unknownOperator token => "unknown operator " ++ quote token
  | invalidIsValue raw => "\"is\" expects null, true, false or unknown, got " ++ quote raw
  | unbalancedParentheses text => "unbalanced parentheses in " ++ quote text
  | malformedSelect item => "malformed select item " ++ quote item
  | nestedEmbed item => "nested embedding is not supported in " ++ quote item
  | invalidLimit parameter value => "invalid " ++ parameter.name ++ " value " ++ quote value
  | unfilteredDelete => "DELETE requires at least one filter"
  | emptyPayload => "request body must not be empty"
  | invalidPayload flaw => "invalid request body: " ++ flaw.reason
  | invalidConflictTarget raw => "invalid conflict target " ++ quote raw

/-- The stable code of a refusal. -/
def code : Rejection → String
  | invalidIdentifier _ => "QUERY_001"
  | malformedFilter _ _ => "QUERY_002"
  | unknownOperator _ => "QUERY_003"
  | invalidIsValue _ => "QUERY_004"
  | unbalancedParentheses _ => "QUERY_005"
  | malformedSelect _ => "QUERY_006"
  | nestedEmbed _ => "QUERY_007"
  | invalidLimit _ _ => "QUERY_008"
  | unfilteredDelete => "QUERY_009"
  | emptyPayload => "QUERY_010"
  | invalidPayload _ => "QUERY_011"
  | invalidConflictTarget _ => "QUERY_012"

/-- A bad conflict target is a conflict; every other refusal is a matter of validation. -/
def kind : Rejection → ErrorKind
  | invalidConflictTarget _ => .conflict
  | _ => .validation

/-- What the client may do about it. -/
def hint : Rejection → Option String
  | invalidIdentifier _ =>
    some ("Identifiers start with a letter or underscore followed by letters, digits, "
      ++ "underscores or hyphens")
  | malformedFilter _ _ => some "Filters are written as column=operator.value"
  | unknownOperator _ =>
    some ("Supported operators: eq, neq, gt, gte, lt, lte, like, ilike, is, in, cs, cd, ov, "
      ++ "fts, plfts, phfts, wfts")
  | nestedEmbed _ => some "Only one level of embedding is supported"
  | invalidLimit _ _ => some "limit and offset must be non-negative integers"
  | unfilteredDelete => some "Add a filter such as ?id=eq.1 to select the rows to delete"
  | invalidConflictTarget _ => some "on_conflict must list valid column names"
  | _ => none

/-- A refusal as a client sees it. -/
def diagnostic (r : Rejection) : Diagnostic where
  code := r.code
  kind := r.kind
  message := r.message
  hint := r.hint

end Rejection

end Gateway.Sql
