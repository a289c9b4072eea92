import DocumentFilter.Main
import DocumentFilter.Proofs.CommandLine.Run
import DocumentFilter.Proofs.Filter.Agreement
import DocumentFilter.Proofs.Filter.Faults
import DocumentFilter.Proofs.Filter.Interpolation
import DocumentFilter.Proofs.Filter.Placement
import DocumentFilter.Proofs.Filter.Threshold
import DocumentFilter.Proofs.Pattern.Literal
import DocumentFilter.Proofs.Predicate.Composition
import DocumentFilter.Proofs.Predicate.Contents
import DocumentFilter.Proofs.Predicate.Dates
import DocumentFilter.Proofs.Predicate.Decoding
import DocumentFilter.Proofs.Predicate.Flattening
import DocumentFilter.Proofs.Predicate.Insertion
import DocumentFilter.Proofs.Predicate.Meaning
import DocumentFilter.Proofs.Predicate.Strict
import DocumentFilter.Proofs.Query.BlankFilter
import DocumentFilter.Proofs.Query.Options
import DocumentFilter.Proofs.Query.SortOrder
import DocumentFilter.Proofs.Token.Faults
