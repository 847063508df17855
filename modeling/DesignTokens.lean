import DesignTokens.Main
import DesignTokens.Proofs.AliasSemantics
import DesignTokens.Proofs.AgreeingResolvers
import DesignTokens.Proofs.NumeralTexts
import DesignTokens.Proofs.OwnLeaves
import DesignTokens.Proofs.RuntimeValues
import DesignTokens.Tools.ServerOptions
import DesignTokens.Tools.Session
import DesignTokens.Proofs.RestoredTrees
import DesignTokens.Proofs.RestoredStores
import DesignTokens.Proofs.ReadMappings
import DesignTokens.Proofs.AcceptedBrands
import DesignTokens.Proofs.BrandNames
import DesignTokens.Proofs.Braces
import DesignTokens.Proofs.RuleBlocks
import DesignTokens.Proofs.EmbeddedReferences
import DesignTokens.Proofs.MergedStores
import DesignTokens.Proofs.SettledValues
import DesignTokens.Proofs.ReferenceGraphs
import DesignTokens.Proofs.ReferenceCycles
import DesignTokens.Proofs.FileTrees
import DesignTokens.Proofs.CurrentCatalogs
import DesignTokens.Proofs.DeclaredVariables
import DesignTokens.Proofs.ExtendedStores
import DesignTokens.Proofs.ReorderedData
import DesignTokens.Proofs.ReorderedFields
import DesignTokens.Proofs.ThemeIndependence
import DesignTokens.Proofs.TotalGeneration
import DesignTokens.Proofs.ReorderedTrees
import DesignTokens.Proofs.ReorderedStores
import DesignTokens.Proofs.EndlessRecords
import DesignTokens.Proofs.RefusedFiles
import DesignTokens.Proofs.ContainedListings
import DesignTokens.Proofs.ServedCalls
import DesignTokens.Proofs.ListedStores
import DesignTokens.Proofs.KeptTokenFiles
import DesignTokens.Proofs.AgreeingTrees
import DesignTokens.Proofs.ConfinedAccess
import DesignTokens.Proofs.ReadDeclarations
import DesignTokens.Proofs.ResolvedOrigins
import DesignTokens.Proofs.KebabNames
import DesignTokens.Proofs.ListedVariables
import DesignTokens.Proofs.CountedVariables
import DesignTokens.Proofs.HeaderMarks
import DesignTokens.Proofs.SemanticAliases
import DesignTokens.Proofs.SubtreeTraversals
import DesignTokens.Proofs.ClassifiedData
import DesignTokens.Proofs.LeafOrder
import DesignTokens.Proofs.NameClashes
import DesignTokens.Proofs.KebabForms
