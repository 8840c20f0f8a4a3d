import CodeSplit.Abort
import CodeSplit.Main
import CodeSplit.Proofs.Isolation
import CodeSplit.Proofs.Mentions
import CodeSplit.Proofs.Unrelated
import CodeSplit.Proofs.UnreadableSources
import CodeSplit.Proofs.Reordering
import CodeSplit.Proofs.TierPriority
import CodeSplit.Proofs.Totality
import CodeSplit.Proofs.RememberedWalks
import CodeSplit.Proofs.UnusedComponents
import CodeSplit.Proofs.RidingAlong
import CodeSplit.Proofs.SourceEdges
import CodeSplit.Proofs.Problems
import CodeSplit.Proofs.EntryStyles
import CodeSplit.Proofs.EntryKeys
import CodeSplit.Proofs.Prose
import CodeSplit.Proofs.Dependents
import CodeSplit.Proofs.SharedPlacing
import CodeSplit.Proofs.CommandRuns
import CodeSplit.Proofs.ManifestReading
import CodeSplit.Proofs.Resplitting
import CodeSplit.Proofs.Preorder
import CodeSplit.Proofs.CycleClasses
import CodeSplit.Proofs.Refusals
import CodeSplit.Proofs.BundleGroups
import CodeSplit.Proofs.ManifestViews
import CodeSplit.Proofs.NormalTags
import CodeSplit.Proofs.CaselessSearch
import CodeSplit.Proofs.CanonicalGroups
import CodeSplit.Proofs.DisplayedPaths
import CodeSplit.Proofs.Assembly
