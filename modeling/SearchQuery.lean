import SearchQuery.Draft.Operation
import SearchQuery.Main
import SearchQuery.Rendering.Solr
import SearchQuery.Proofs.Rendering.Independence
import SearchQuery.Proofs.Rendering.Expression
import SearchQuery.Proofs.Draft.Resolution
import SearchQuery.Proofs.Rendering.Inertness
import SearchQuery.Proofs.Rendering.RangeClauses
import SearchQuery.Proofs.Rendering.Structure
import SearchQuery.Proofs.Rendering.ExcludedRanges
import SearchQuery.Proofs.Request.Contribution
import SearchQuery.Proofs.Query.Exchange
import SearchQuery.Proofs.Rendering.FilterParts
import SearchQuery.Proofs.Rendering.ODataFilter
import SearchQuery.Proofs.Rendering.BracketFilter
import SearchQuery.Proofs.Request.Validity
import SearchQuery.Proofs.Request.Verdict
import SearchQuery.Proofs.Request.SurplusValues
import SearchQuery.Proofs.Query.FirstUndecided
import SearchQuery.Proofs.Rendering.ExcludedGroups
import SearchQuery.Proofs.Draft.Keys
import SearchQuery.Proofs.Number.PlainNumerals
import SearchQuery.Proofs.Calendar.Bounds
import SearchQuery.Proofs.Draft.Built
import SearchQuery.Proofs.Request.FilterNumbers
import SearchQuery.Proofs.Request.Effects
import SearchQuery.Proofs.Draft.Removal
import SearchQuery.Proofs.Draft.Hoisting
import SearchQuery.Proofs.Query.Defaults
import SearchQuery.Proofs.Text.Cutting
import SearchQuery.Proofs.Request.EntryText
import SearchQuery.Proofs.Request.OpenRanges
import SearchQuery.Proofs.Calendar.Characters
import SearchQuery.Proofs.Request.DateNumerals
import SearchQuery.Proofs.Calendar.Succession
import SearchQuery.Proofs.Calendar.Midnights
import SearchQuery.Proofs.Rendering.Delimiters
import SearchQuery.Proofs.Rendering.Runs
import SearchQuery.Proofs.Draft.Groups
import SearchQuery.Proofs.Number.ReadBack
import SearchQuery.Proofs.Rendering.LeafReadings
import SearchQuery.Proofs.Rendering.Scoring
