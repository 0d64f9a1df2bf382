import DataGrid.Store.Error

/-!
# DataGrid.Error -- why a grid request fails

Failures are of two families. The first four are the fault of the request or of the column
configuration and answer with status 400; a missing text index, a date format that cannot
be used, and any other failure of the store answer with status 500. What a store said is
never shown to a client.
-/

namespace DataGrid

/-- A failure of a grid request. -/
inductive GridError where
  /-- A condition names a column that cannot be filtered. -/
  | missingConditionColumn (column resource : String)
  /-- A sortation names a column that cannot be sorted. -/
  | missingSortationColumn (column resource : String)
  /-- A search met no searchable column, or one that cannot be filtered. -/
  | missingSearchColumn (column : Option String) (resource : String)
  /-- A condition is incomplete. -/
  | missingConditionField
  /-- The store has no text index to search. -/
  | missingSearchIndex (resource : String)
  /-- The date format of the resource is malformed. -/
  | invalidDateFormat (format : String)
  /-- Any other failure of the store. -/
  | store (cause : StoreError)
deriving DecidableEq, Repr

namespace GridError

/-- A failure of the store as a failure of the request: a missing text index becomes a
cause of its own. -/
def ofStore (cause : StoreError) (resource : String) : GridError :=
  if cause.isMissingIndex then .missingSearchIndex resource else .store cause

/-- The wording of a failure. -/
def message : GridError → String
  | missingConditionColumn column resource =>
    "Column '" ++ column ++ "' cannot be used as condition! Have you forgotten to add it to '"
      ++ resource ++ "' conditions?"
  | missingSortationColumn column resource =>
    "Column '" ++ column ++ "' cannot be used as sortation! Have you forgotten to add it to '"
      ++ resource ++ "' sortations?"
  | missingSearchColumn (some column) resource =>
    "Column '" ++ column ++ "' cannot be used for searching! Have you forgotten to add it to '"
      ++ resource ++ "' conditions?"
  | missingSearchColumn none resource =>
    "Column cannot be used for searching! Have you forgotten to add searchable columns to '"
      ++ resource ++ "'?"
  | missingConditionField =>
    "Advanced filter must have 'column', 'operator' and 'value' field!"
  | missingSearchIndex resource =>
    "Column cannot be used for searching! Missing TEXT index on '" ++ resource ++
      "' searchable columns!"
  | invalidDateFormat format =>
    "Date format '" ++ format ++ "' is not a valid chrono format string"
  | store cause => cause.message

/-- The number by which clients tell failures apart. -/
def code : GridError → Nat
  | missingConditionColumn _ _ => 1
  | missingSortationColumn _ _ => 2
  | missingSearchColumn _ _ => 3
  | missingConditionField => 4
  | missingSearchIndex _ => 5
  | invalidDateFormat _ => 6
  | store _ => 7

/-- The request itself is at fault. -/
def isClientError : GridError → Bool
  | missingConditionColumn _ _ | missingSortationColumn _ _ | missingSearchColumn _ _
  | missingConditionField => true
  | missingSearchIndex _ | invalidDateFormat _ | store _ => false

/-- The program breaks off, and there is no response. -/
def breaksOff : GridError → Bool
  | store cause => cause.breaksOff
  | _ => false

/-- The status that a response to the failure has. -/
def status (e : GridError) : Nat := if e.isClientError then 400 else 500

/-- What a client is told. -/
def clientMessage : GridError → String
  | store _ => "A database error occurred"
  | other => other.message

end GridError
end DataGrid
