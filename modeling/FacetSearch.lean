import FacetSearch.Main
import FacetSearch.Service.Engine
import FacetSearch.Sql.Step
import FacetSearch.Proofs.Assembling
import FacetSearch.Proofs.Binding
import FacetSearch.Proofs.BoundTexts
import FacetSearch.Proofs.GroupPattern
import FacetSearch.Proofs.Answers
import FacetSearch.Proofs.Extractions
import FacetSearch.Proofs.Outline
import FacetSearch.Proofs.Rebinding
import FacetSearch.Files.Tree
import FacetSearch.Http.Address
import FacetSearch.Http.App
import FacetSearch.Http.Start
import FacetSearch.Proofs.Refusals
import FacetSearch.Proofs.FiniteNumbers
import FacetSearch.Proofs.RowTests
import FacetSearch.Proofs.Defects
import FacetSearch.Proofs.Exchanges
import FacetSearch.Proofs.RequestLimits
import FacetSearch.Proofs.Decoded
import FacetSearch.Proofs.Reported
import FacetSearch.Proofs.Bodies
import FacetSearch.Proofs.Catalogued
import FacetSearch.Proofs.Spellings
import FacetSearch.Proofs.Cells
import FacetSearch.Proofs.Reloading
import FacetSearch.Proofs.Repeats
import FacetSearch.Proofs.Windows
import FacetSearch.Proofs.Domains
import FacetSearch.Proofs.Integers
import FacetSearch.Proofs.Composites
import FacetSearch.Proofs.DateForms
import FacetSearch.Proofs.MergedIdentifiers
import FacetSearch.Proofs.NormalForm
import FacetSearch.Proofs.Shorthands
import FacetSearch.Proofs.Fallbacks
import FacetSearch.Proofs.CatalogFiles
import FacetSearch.Proofs.Identifiers
import FacetSearch.Proofs.JoinedExpressions
import FacetSearch.Proofs.RepeatedOptions
import FacetSearch.Proofs.ReflectedCatalogs
import FacetSearch.Proofs.DatabaseAddresses
