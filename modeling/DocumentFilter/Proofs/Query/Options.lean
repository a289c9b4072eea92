import DocumentFilter.Proofs.Query.BlankFilter
import DocumentFilter.Proofs.Query.SortOrder

/-!
# Options and defaults

What a query has comes from the options of a client and the defaults of the resource.  A number
counts where it is given, a projection where it is not blank, and an order where it is not the empty
text.  Only the filter can make a query fail, and a limited query has a sort unless an order was
given that says nothing.
-/

namespace DocumentFilter

namespace QueryOptions

variable {options : QueryOptions} {defaults : ResourceDefaults}

theorem positive_eq_some_iff {asked default : Option Nat} {n : Nat} :
    positive asked default = some n ↔
      0 < n ∧ (asked = some n ∨ asked = none ∧ default = some n) := by
  rw [positive, Option.filter_eq_some_iff, decide_eq_true_iff, and_comm]
  cases asked with
  | none => simp
  | some m => simp

theorem positive_ne_zero (asked default : Option Nat) : positive asked default ≠ some 0 := by
  intro h
  exact Nat.lt_irrefl 0 (positive_eq_some_iff.mp h).1

theorem nonBlank_eq_some_iff {text : Option String} {given : String} :
    nonBlank text = some given ↔ text = some given ∧ Text.allBlank given = false := by
  rw [nonBlank, Option.filter_eq_some_iff, Bool.not_eq_true']

theorem predicate_eq_error_iff {maxDepth : Nat} {fault : FilterError} :
    options.predicate maxDepth = .error fault ↔
      ∃ filter, options.filter = some filter ∧ Text.allBlank filter = false ∧
        compile filter maxDepth = .error fault := by
  rw [predicate]
  cases hfilter : nonBlank options.filter with
  | none =>
      constructor
      · intro h
        cases h
      · rintro ⟨filter, hgiven, hblank, _⟩
        rw [nonBlank_eq_some_iff.mpr ⟨hgiven, hblank⟩] at hfilter
        cases hfilter
  | some filter =>
      obtain ⟨hgiven, hblank⟩ := nonBlank_eq_some_iff.mp hfilter
      constructor
      · intro h
        exact ⟨filter, hgiven, hblank, h⟩
      · rintro ⟨other, hother, _, h⟩
        obtain rfl : filter = other := Option.some.inj (hgiven.symm.trans hother)
        exact h

/-- A projection of the resource leaves the client no choice. -/
theorem projection_of_select {configured : String} (hselect : defaults.select = some configured)
    (hblank : Text.allBlank configured = false) (options : QueryOptions) :
    options.projection defaults = some configured := by
  rw [projection, nonBlank_eq_some_iff.mpr ⟨hselect, hblank⟩]
  rfl

theorem filter_orElse_filter_eq_some_iff {α : Type} {accepts : α → Bool} {first second : Option α}
    {chosen : α} : (first.filter accepts <|> second.filter accepts) = some chosen ↔
      accepts chosen = true ∧
        (first = some chosen ∨ (∀ a ∈ first, ¬ accepts a = true) ∧ second = some chosen) := by
  rw [Option.orElse_eq_orElse, Option.orElse_eq_or, Option.or_eq_some_iff,
    Option.filter_eq_some_iff, Option.filter_eq_some_iff, Option.filter_eq_none_iff]
  constructor
  · rintro (⟨hfirst, haccepts⟩ | ⟨hnone, hsecond, haccepts⟩)
    · exact ⟨haccepts, .inl hfirst⟩
    · exact ⟨haccepts, .inr ⟨hnone, hsecond⟩⟩
  · rintro ⟨haccepts, hfirst | ⟨hnone, hsecond⟩⟩
    · exact .inl ⟨hfirst, haccepts⟩
    · exact .inr ⟨hnone, hsecond, haccepts⟩

theorem projection_eq_some_iff {chosen : String} :
    options.projection defaults = some chosen ↔ Text.allBlank chosen = false ∧
      (defaults.select = some chosen ∨
        (∀ configured ∈ defaults.select, Text.allBlank configured = true) ∧
          options.select = some chosen) := by
  rw [projection, nonBlank, nonBlank, filter_orElse_filter_eq_some_iff]
  simp only [Bool.not_eq_true', Bool.not_eq_false]

/-- An order is given: the client asks for it, or it is the default and the client asks for none. -/
def Gives (options : QueryOptions) (defaults : ResourceDefaults) (order : String) : Prop :=
  order ≠ "" ∧ (options.orderby = some order ∨
    (∀ asked ∈ options.orderby, asked = "") ∧ defaults.orderby = some order)

theorem order_eq_some_iff {order : String} :
    options.order defaults = some order ↔ options.Gives defaults order := by
  rw [Gives, QueryOptions.order, filter_orElse_filter_eq_some_iff]
  simp

theorem order_eq_none_iff :
    options.order defaults = none ↔
      (∀ asked ∈ options.orderby, asked = "") ∧ ∀ default ∈ defaults.orderby, default = "" := by
  rw [QueryOptions.order, Option.orElse_eq_orElse, Option.orElse_eq_or, Option.or_eq_none_iff,
    Option.filter_eq_none_iff, Option.filter_eq_none_iff]
  simp

theorem sort_of_order {order : String} (h : options.order defaults = some order) :
    options.sort defaults = SortOrder.translate order := by
  rw [QueryOptions.sort, h]

/-- Without an order the limit decides. -/
theorem sort_of_no_order (h : options.order defaults = none) :
    options.sort defaults =
      if (options.limit defaults).isSome ∧ defaults.orderbyPaged ≠ "" then
        some defaults.orderbyPaged
      else none := by
  rw [QueryOptions.sort, h]
  simp

theorem sort_ne_empty : options.sort defaults ≠ some "" := by
  cases horder : options.order defaults with
  | some order =>
      rw [sort_of_order horder]
      exact SortOrder.translate_ne_empty order
  | none =>
      rw [sort_of_no_order horder]
      intro h
      split at h
      · rename_i hpaged
        exact hpaged.2 (Option.some.inj h)
      · cases h

/-- Only an order that says nothing leaves a limited query without a sort. -/
theorem exists_order_of_sort_eq_none (hsort : options.sort defaults = none)
    (hlimit : (options.limit defaults).isSome) (hpaged : defaults.orderbyPaged ≠ "") :
    ∃ order, options.Gives defaults order ∧
      ∀ clause ∈ SortOrder.clauses order,
        Pattern.find? SortKey.clausePattern true clause = none := by
  cases horder : options.order defaults with
  | none =>
      rw [sort_of_no_order horder, if_pos ⟨hlimit, hpaged⟩] at hsort
      cases hsort
  | some order =>
      rw [sort_of_order horder] at hsort
      exact ⟨order, order_eq_some_iff.mp horder, SortOrder.translate_eq_none_iff.mp hsort⟩

end QueryOptions

namespace Query

/-- What the options of a client and the defaults of a resource come to in a query. -/
structure Resolves (options : QueryOptions) (defaults : ResourceDefaults) (query : Query) :
    Prop where
  /-- The limit is what the client asks for, or else the default, if that is positive. -/
  limit_iff (n : Nat) : query.limit = some n ↔
    0 < n ∧ (options.top = some n ∨ options.top = none ∧ defaults.top = some n)
  limit_ne_zero : query.limit ≠ some 0
  /-- The offset likewise. -/
  skip_iff (n : Nat) : query.skip = some n ↔
    0 < n ∧ (options.skip = some n ∨ options.skip = none ∧ defaults.skip = some n)
  skip_ne_zero : query.skip ≠ some 0
  /-- The projection is that of the resource, and what the client selects only where the resource
  has none. -/
  projection_iff (chosen : String) : query.projection = some chosen ↔
    Text.allBlank chosen = false ∧ (defaults.select = some chosen ∨
      (∀ configured ∈ defaults.select, Text.allBlank configured = true) ∧
        options.select = some chosen)
  projection_not_blank : ∀ chosen ∈ query.projection, Text.allBlank chosen = false
  sort_ne_empty : query.sort ≠ some ""
  /-- An order that is given is translated, whatever it says. -/
  sort_of_order (order : String) : options.Gives defaults order →
    query.sort = SortOrder.translate order
  /-- A limited query without a sort was given an order of which no clause can be read. -/
  unsorted : query.limit.isSome → query.sort = none → defaults.orderbyPaged ≠ "" →
    ∃ order, options.Gives defaults order ∧
      ∀ clause ∈ SortOrder.clauses order,
        Pattern.find? SortKey.clausePattern true clause = none
  /-- Where no order is given, the sort for paging is that of the limited queries alone. -/
  sorted_by_paged : (∀ asked ∈ options.orderby, asked = "") →
    (∀ default ∈ defaults.orderby, default = "") →
    (query.sort = some defaults.orderbyPaged ↔ query.limit.isSome ∧ defaults.orderbyPaged ≠ "")

theorem build_eq_ok_iff {options : QueryOptions} {settings : Settings} {query : Query} :
    build options settings = .ok query ↔
      ∃ filter, options.predicate settings.maxDepth = .ok filter ∧
        { filter
          sort := options.sort settings.resource
          limit := options.limit settings.resource
          skip := options.offset settings.resource
          projection := options.projection settings.resource } = query :=
  Except.map_eq_ok_iff

theorem resolves_of_build {options : QueryOptions} {settings : Settings} {query : Query}
    (h : build options settings = .ok query) : query.Resolves options settings.resource := by
  obtain ⟨filter, _, rfl⟩ := build_eq_ok_iff.mp h
  constructor
  case limit_iff => apply QueryOptions.positive_eq_some_iff
  case limit_ne_zero => apply QueryOptions.positive_ne_zero
  case skip_iff => apply QueryOptions.positive_eq_some_iff
  case skip_ne_zero => apply QueryOptions.positive_ne_zero
  case projection_iff => apply QueryOptions.projection_eq_some_iff
  case projection_not_blank =>
    intro chosen hchosen
    exact (QueryOptions.projection_eq_some_iff.mp hchosen).1
  case sort_ne_empty => apply QueryOptions.sort_ne_empty
  case sort_of_order =>
    intro order hgives
    exact QueryOptions.sort_of_order (QueryOptions.order_eq_some_iff.mpr hgives)
  case unsorted =>
    intro hlimit hsort hpaged
    exact QueryOptions.exists_order_of_sort_eq_none hsort hlimit hpaged
  case sorted_by_paged =>
    intro hasked hdefault
    have horder := QueryOptions.order_eq_none_iff.mpr ⟨hasked, hdefault⟩
    rw [QueryOptions.sort_of_no_order horder]
    simp

/-- The predicate of a query and its faults come from the filter and the limit of depth alone; where
the resource has a projection, it makes no difference what the client selects; and every query that
is built resolves the options against the defaults. -/
theorem build_resolves (options : QueryOptions) (settings : Settings) :
    (∀ fault, build options settings = .error fault ↔
      ∃ filter, options.filter = some filter ∧ Text.allBlank filter = false ∧
        compile filter settings.maxDepth = .error fault) ∧
    (∀ (otherOptions : QueryOptions) (otherSettings : Settings),
      otherOptions.filter = options.filter → otherSettings.maxDepth = settings.maxDepth →
      (build otherOptions otherSettings).map Query.filter =
        (build options settings).map Query.filter) ∧
    (∀ configured ∈ settings.resource.select, Text.allBlank configured = false →
      ∀ select, build { options with select } settings = build options settings) ∧
    ∀ query, build options settings = .ok query → query.Resolves options settings.resource := by
  refine ⟨fun fault => ?_, fun otherOptions otherSettings hfilter hdepth => ?_,
    fun configured hselect hblank select => ?_, fun query => resolves_of_build⟩
  · rw [build, Except.map_eq_error_iff, QueryOptions.predicate_eq_error_iff]
  · rw [map_filter_build, map_filter_build, QueryOptions.predicate, QueryOptions.predicate,
      hfilter, hdepth]
  · rw [build, build, QueryOptions.projection_of_select hselect hblank,
      QueryOptions.projection_of_select hselect hblank]
    rfl

/-- A blank order is given and says nothing, while the empty one is not given.  The projection is
not the one that the client selects. -/
theorem build_resolves_blank_order :
    let settings : Settings := { resource := { top := some 5, select := some "-secret" } }
    let blank : QueryOptions := { orderby := some " ", select := some "secret" }
    let empty : QueryOptions := { orderby := some "", select := some "secret" }
    (build empty settings).map Query.filter = (build blank settings).map Query.filter ∧
    build { blank with select := none } settings = build blank settings ∧
    (∃ query, build blank settings = .ok query ∧ query.limit.isSome ∧ query.sort = none ∧
      query.projection = some "-secret" ∧
      ∃ order, blank.Gives settings.resource order ∧
        ∀ clause ∈ SortOrder.clauses order,
          Pattern.find? SortKey.clausePattern true clause = none) ∧
    ∃ query, build empty settings = .ok query ∧ query.limit.isSome ∧ query.sort = some "_id" := by
  intro settings blank empty
  have hblank : Text.allBlank "-secret" = false := by decide
  obtain ⟨_, hfilter, hselect, hresolves⟩ := build_resolves blank settings
  refine ⟨hfilter empty settings rfl rfl, hselect "-secret" rfl hblank none, ?_, ?_⟩
  · have hquery := hresolves _ rfl
    have hgives : blank.Gives settings.resource " " := ⟨by decide, .inl rfl⟩
    have htranslate : SortOrder.translate " " = none := by decide
    have hsort : blank.sort settings.resource = none :=
      (hquery.sort_of_order " " hgives).trans htranslate
    have hprojection := (hquery.projection_iff "-secret").mpr ⟨hblank, .inl rfl⟩
    exact ⟨_, rfl, rfl, hsort, hprojection, hquery.unsorted rfl hsort (by decide)⟩
  · have hquery := (build_resolves empty settings).2.2.2 _ rfl
    have hasked : ∀ asked ∈ empty.orderby, asked = "" := by simp [empty]
    have hdefault : ∀ default ∈ settings.resource.orderby, default = "" := by simp [settings]
    exact ⟨_, rfl, rfl, (hquery.sorted_by_paged hasked hdefault).mpr ⟨rfl, by decide⟩⟩

end Query
end DocumentFilter
