import CatalogClasses.Main
import CatalogClasses.Workspace
import CatalogClasses.Proofs.Survivors
import CatalogClasses.Proofs.Blocks
import CatalogClasses.Proofs.Names
import CatalogClasses.Proofs.Pruning
import CatalogClasses.Proofs.Exclusion
import CatalogClasses.Proofs.ExcludedEntries
import CatalogClasses.Proofs.TypeNames
import CatalogClasses.Proofs.Literals
import CatalogClasses.Proofs.PrunedWalk
import CatalogClasses.Proofs.Comments
import CatalogClasses.Proofs.Documentation
import CatalogClasses.Proofs.Traversal
import CatalogClasses.Proofs.Failures
import CatalogClasses.Proofs.FirstPass
import CatalogClasses.Proofs.SeparateExclusion
import CatalogClasses.Proofs.OneLine
import CatalogClasses.Proofs.LiteralLines
import CatalogClasses.Proofs.WholeLines
import CatalogClasses.Proofs.DeclaredTypes
import CatalogClasses.Proofs.FittingDefaults
import CatalogClasses.Proofs.Nesting
import CatalogClasses.Proofs.Composition
import CatalogClasses.Proofs.Entities
import CatalogClasses.Proofs.Summaries
import CatalogClasses.Proofs.AllOrNothing
import CatalogClasses.Proofs.OwnFailures
import CatalogClasses.Proofs.TypeGrammar
import CatalogClasses.Proofs.AssignedTypes
import CatalogClasses.Proofs.PascalCase
import CatalogClasses.Proofs.PropertyNames
import CatalogClasses.Proofs.FieldsAndProperties
import CatalogClasses.Proofs.Warnings
import CatalogClasses.Proofs.ArrayCreations
import CatalogClasses.Proofs.NamespaceIndent
import CatalogClasses.Proofs.LiteralGrammar
import CatalogClasses.Proofs.RefusedTypes
import CatalogClasses.Proofs.EntryAtFault
import CatalogClasses.Proofs.DistinctKeys
import CatalogClasses.Proofs.EchoedTexts
import CatalogClasses.Proofs.OptionsByField
import CatalogClasses.Proofs.MergedOptions
import CatalogClasses.Proofs.NestedWriting
