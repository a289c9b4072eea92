import DocumentFilter.Filter.Parse

/-!
# Settings

What an administrator may set: a limit for the nesting of groups, and what a query on the resource
has when the client does not say.
-/

namespace DocumentFilter

/-- What a query has where the client does not say. -/
structure ResourceDefaults where
  /-- The greatest number of documents. -/
  top : Option Nat := none
  /-- The number of documents to leave out at the start. -/
  skip : Option Nat := none
  /-- The order, in the clauses of a client. -/
  orderby : Option String := none
  /-- The field to sort by when the number of documents is limited and no order is given. -/
  orderbyPaged : String := "_id"
  /-- The projection; a client cannot choose another one. -/
  select : Option String := none
deriving DecidableEq, Repr

/-- The settings of a run. -/
structure Settings where
  /-- A label for these settings. -/
  profileName : String := "base"
  /-- How deep groups may be nested. -/
  maxDepth : Nat := defaultMaxDepth
  resource : ResourceDefaults := {}
deriving DecidableEq, Repr

end DocumentFilter
