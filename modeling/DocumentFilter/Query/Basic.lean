import DocumentFilter.Predicate.Compile
import DocumentFilter.Predicate.Json
import DocumentFilter.Query.SortOrder
import DocumentFilter.Settings.Basic

/-!
# Queries

A query on a resource, from the options of a client and the defaults of the resource.
-/

namespace DocumentFilter

/-- What a client asks for. -/
structure QueryOptions where
  filter : Option String := none
  orderby : Option String := none
  top : Option Nat := none
  skip : Option Nat := none
  select : Option String := none
deriving DecidableEq, Repr

namespace QueryOptions

/-- The limit and the offset of a client count where they are given, and zero counts as none. -/
def positive (asked default : Option Nat) : Option Nat := (asked <|> default).filter (0 < ·)

/-- The greatest number of documents. -/
def limit (options : QueryOptions) (defaults : ResourceDefaults) : Option Nat :=
  positive options.top defaults.top

/-- The number of documents to leave out at the start. -/
def offset (options : QueryOptions) (defaults : ResourceDefaults) : Option Nat :=
  positive options.skip defaults.skip

/-- A text that does not consist of blank characters alone. -/
def nonBlank (text : Option String) : Option String := text.filter (!Text.allBlank ·)

/-- The order that is asked for; the empty text asks for none. -/
def order (options : QueryOptions) (defaults : ResourceDefaults) : Option String :=
  options.orderby.filter (!·.isEmpty) <|> defaults.orderby.filter (!·.isEmpty)

/-- The sort order.  An order that is given but has no clause that can be read gives none. -/
def sort (options : QueryOptions) (defaults : ResourceDefaults) : Option String :=
  match options.order defaults with
  | some order => SortOrder.translate order
  | none =>
    if (options.limit defaults).isSome && !defaults.orderbyPaged.isEmpty then
      some defaults.orderbyPaged
    else none

/-- The projection; that of the resource comes first. -/
def projection (options : QueryOptions) (defaults : ResourceDefaults) : Option String :=
  nonBlank defaults.select <|> nonBlank options.select

/-- The predicate; a blank filter lets every document pass. -/
def predicate (options : QueryOptions) (maxDepth : Nat) : Except FilterError Predicate :=
  match nonBlank options.filter with
  | some filter => compile filter maxDepth
  | none => .ok {}

end QueryOptions

/-- A query as the document store takes it. -/
structure Query where
  filter : Predicate := {}
  sort : Option String := none
  limit : Option Nat := none
  skip : Option Nat := none
  projection : Option String := none

namespace Query

/-- The query of a client on a resource. -/
def build (options : QueryOptions) (settings : Settings) : Except FilterError Query :=
  (options.predicate settings.maxDepth).map fun filter =>
    { filter
      sort := options.sort settings.resource
      limit := options.limit settings.resource
      skip := options.offset settings.resource
      projection := options.projection settings.resource }

/-- A member that is left out when there is no value. -/
def member {α : Type} (key : String) (toJson : α → Json) (value : Option α) :
    List (String × Json) :=
  (value.map fun v => (key, toJson v)).toList

/-- The query as JSON. -/
def toJson (query : Query) : Json :=
  .object (("filter", query.filter.toJson) ::
    (member "sort" Json.string query.sort ++
      member "limit" (Json.number ∘ Int.ofNat) query.limit ++
      member "skip" (Json.number ∘ Int.ofNat) query.skip ++
      member "projection" Json.string query.projection))

end Query
end DocumentFilter
