import DocumentFilter.Proofs.Filter.Soundness
import DocumentFilter.Proofs.Token.RoundTrip
import DocumentFilter.Query.Basic

/-!
# Blank filters in queries

A query leaves a filter out when it consists of blank characters, and a filter is otherwise compiled
as it is.  Among the blank characters only the space is one of the language of filters, so a filter
that is left out need not be one that the compiler takes for empty.
-/

namespace DocumentFilter

namespace Token

theorem starts_of_isBlank {c : Char} (hblank : Text.isBlank c = true) (hspace : c ≠ ' ')
    (kind : TokenKind) : starts kind c = false := by
  rw [Bool.eq_false_iff]
  intro hstarts
  obtain rfl | hrange := toNat_of_starts hstarts
  · exact hspace rfl
  · have houtside := Text.toNat_of_isBlank hblank
    omega

theorem Lexeme.read_of_not_starts {position : Nat} {first : Char} {rest : List Char}
    (h : ∀ kind, starts kind first = false) :
    read position first rest = .error (.unexpectedCharacter first position) := by
  have hspace : ¬ first = ' ' := by simpa [starts] using h .whitespace
  have hquote : ¬ first = '\'' := by simpa [starts] using h .string
  have hdigit : ¬ first.isDigit = true := by simpa [starts] using h .number
  have hword : ¬ isWordStart first = true := by simpa [starts] using h .word
  have hopening : ¬ first = '(' := by simpa [starts] using h .openParen
  have hclosing : ¬ first = ')' := by simpa [starts] using h .closeParen
  have hsymbol : ¬ isSymbol first = true := by simpa [starts] using h .symbol
  rw [read, if_neg hspace, if_neg hquote, if_neg hdigit, if_neg hword, if_neg hopening,
    if_neg hclosing, if_neg hsymbol]

theorem readAll_spaces (position : Nat) {spaces tail : List Char} (hspaces : ∀ c ∈ spaces, c = ' ')
    (htail : ∀ c ∈ tail.head?, c ≠ ' ') :
    ∃ tokens, (∀ token ∈ tokens, token.kind = .whitespace) ∧
      readAll position (spaces ++ tail) =
        (readAll (position + spaces.length) tail).map (tokens ++ ·) := by
  cases spaces with
  | nil =>
      refine ⟨[], by simp, ?_⟩
      change readAll position tail = (readAll position tail).map id
      cases readAll position tail <;> rfl
  | cons first more =>
      obtain ⟨rfl, hmore⟩ := List.forall_mem_cons.mp hspaces
      have hrun : Lexeme.run .whitespace (· = ' ') ' ' (more ++ tail) =
          ⟨.whitespace, ' ' :: more, more.length⟩ :=
        Lexeme.run_append .whitespace ' ' (by simpa using hmore) (by simpa using htail)
      refine ⟨[⟨.whitespace, String.ofList (' ' :: more), position⟩], by simp, ?_⟩
      rw [List.cons_append, readAll_cons, Lexeme.read, if_pos rfl, hrun, Except.bind,
        List.drop_left, List.length_cons, Nat.add_assoc, Nat.add_comm 1]
      rfl

end Token

/-- A filter of spaces lets every document pass. -/
theorem compile_of_spaces {filter : String} (hspaces : ∀ c ∈ filter.toList, c = ' ')
    (maxDepth : Nat) : compile filter maxDepth = .ok {} := by
  obtain ⟨tokens, hblank, hread⟩ := @Token.readAll_spaces 0 filter.toList [] hspaces (by simp)
  rw [List.append_nil, Token.readAll, Except.map, List.append_nil] at hread
  have hroot := resolve_of_blank maxDepth (Token.dropSpaces_eq_nil_iff.mpr hblank)
  rw [compile, parse_eq_ok_iff.mpr ⟨tokens, hread, hroot⟩]
  rfl

/-- A filter is refused for its first character after spaces if no token starts with it. -/
theorem compile_of_not_starts {filter : String} {spaces rest : List Char} {c : Char}
    (hfilter : filter.toList = spaces ++ c :: rest) (hspaces : ∀ space ∈ spaces, space = ' ')
    (hstarts : ∀ kind, Token.starts kind c = false) (maxDepth : Nat) :
    compile filter maxDepth = .error (.lex (.unexpectedCharacter c spaces.length)) := by
  have hspace : c ≠ ' ' := by simpa [Token.starts] using hstarts .whitespace
  have htail : ∀ other ∈ (c :: rest).head?, other ≠ ' ' := by simpa
  obtain ⟨tokens, _, hread⟩ := Token.readAll_spaces 0 hspaces htail
  have htokens : tokenize filter = .error (.unexpectedCharacter c spaces.length) := by
    rw [tokenize, hfilter, hread, Token.readAll_cons, Token.Lexeme.read_of_not_starts hstarts,
      Nat.zero_add]
    rfl
  rw [compile, parse, htokens]
  rfl

/-- The other options have no part in the predicate of a query, nor in its faults. -/
theorem Query.map_filter_build (options : QueryOptions) (settings : Settings) :
    (Query.build options settings).map Query.filter = options.predicate settings.maxDepth := by
  rw [build]
  cases options.predicate settings.maxDepth <;> rfl

theorem QueryOptions.predicate_of_filter {options : QueryOptions} {filter : String}
    (h : options.filter = some filter) (maxDepth : Nat) :
    options.predicate maxDepth =
      if Text.allBlank filter then .ok {} else compile filter maxDepth := by
  rw [predicate, h, nonBlank, Option.filter_some]
  cases Text.allBlank filter <;> rfl

/-- A query and the compiler agree on every filter but those of blank characters that are not all
spaces.  Such a filter is refused by the compiler for the first of these characters, and in a query
it lets every document pass. -/
theorem Query.build_agrees_or_blank (options : QueryOptions) (settings : Settings)
    (filter : String) :
    (Query.build { options with filter := some filter } settings).map Query.filter =
        compile filter settings.maxDepth ∧
      (Text.allBlank filter = false ∨ ∀ c ∈ filter.toList, c = ' ') ∨
    (Query.build { options with filter := some filter } settings).map Query.filter = .ok {} ∧
      Text.allBlank filter = true ∧
      ∃ spaces c rest, filter.toList = spaces ++ c :: rest ∧ (∀ space ∈ spaces, space = ' ') ∧
        c ≠ ' ' ∧ compile filter settings.maxDepth =
          .error (.lex (.unexpectedCharacter c spaces.length)) := by
  rw [map_filter_build, QueryOptions.predicate_of_filter rfl]
  cases hblank : Text.allBlank filter with
  | false => exact .inl ⟨by simp, .inl rfl⟩
  | true =>
      rw [if_pos rfl]
      cases hfirst : filter.toList.find? (· ≠ ' ') with
      | none =>
          have hspaces : ∀ c ∈ filter.toList, c = ' ' := by simpa using hfirst
          exact .inl ⟨(compile_of_spaces hspaces settings.maxDepth).symm, .inr hspaces⟩
      | some c =>
          obtain ⟨hfound, spaces, rest, hfilter, hbefore⟩ :=
            List.find?_eq_some_iff_append.mp hfirst
          have hc : Text.isBlank c = true :=
            List.all_eq_true.mp hblank c (by rw [hfilter]; simp)
          have hspace : c ≠ ' ' := by simpa using hfound
          have hspaces : ∀ space ∈ spaces, space = ' ' := by simpa using hbefore
          have hstarts := Token.starts_of_isBlank hc hspace
          exact .inr ⟨rfl, rfl, spaces, c, rest, hfilter, hspaces, hspace,
            compile_of_not_starts hfilter hspaces hstarts settings.maxDepth⟩

/-- A tab: the compiler refuses it, and a query takes it for no filter at all. -/
theorem Query.build_tab_disagrees :
    compile "\t" ({} : Settings).maxDepth = .error (.lex (.unexpectedCharacter '\t' 0)) ∧
      (Query.build { filter := some "\t" } {}).map Query.filter = .ok {} ∧
      ¬ ∀ (options : QueryOptions) (settings : Settings) (filter : String),
        (Query.build { options with filter := some filter } settings).map Query.filter =
          compile filter settings.maxDepth := by
  have hcompile : compile "\t" ({} : Settings).maxDepth =
      .error (.lex (.unexpectedCharacter '\t' 0)) := by
    have htext : "\t".toList = ['\t'] := by decide
    rw [compile, parse, tokenize, htext]
    with_unfolding_all rfl
  have hbuild : (Query.build { filter := some "\t" } {}).map Query.filter = .ok {} := by
    have hblank : Text.allBlank "\t" = true := by decide
    rw [map_filter_build, QueryOptions.predicate_of_filter rfl, hblank, if_pos rfl]
  refine ⟨hcompile, hbuild, fun hagree => ?_⟩
  have htab := hagree {} {} "\t"
  rw [hcompile, hbuild] at htab
  cases htab

end DocumentFilter
