import EntityMapping.Catalog
import EntityMapping.Json.Written
import EntityMapping.Record.Data
import EntityMapping.Proofs.Document.Placement
import EntityMapping.Proofs.Document.Spelling
import EntityMapping.Proofs.Document.Advance
import EntityMapping.Proofs.Document.Readers
import EntityMapping.Proofs.Document.DefinitionReaders
import EntityMapping.Proofs.Document.DefinitionForms
import EntityMapping.Proofs.Document.DocumentReader
import EntityMapping.Proofs.Document.CanonicalSpelling
import EntityMapping.Proofs.Document.SpelledDefinitions
import EntityMapping.Proofs.Document.Grammar
import EntityMapping.Proofs.Document.MovedSpelling
import EntityMapping.Proofs.Document.PieceContext
import EntityMapping.Proofs.Document.Cutting
import EntityMapping.Proofs.Document.DocumentContext
import EntityMapping.Proofs.Record.WellFormed
import EntityMapping.Proofs.Settings.ReadSettings
import EntityMapping.Proofs.Settings.Evaluation
import EntityMapping.Proofs.Document.Liberties
import EntityMapping.Proofs.Document.Gaps
import EntityMapping.Proofs.Document.Tiling
import EntityMapping.Proofs.Document.Insertion
import EntityMapping.Proofs.Document.AlikeDefinitions
import EntityMapping.Proofs.Record.Identifier
import EntityMapping.Proofs.Settings.Identifier
import EntityMapping.Proofs.Catalog.Coherence
import EntityMapping.Proofs.Catalog.Availability
import EntityMapping.Proofs.Catalog.Freshness
import EntityMapping.Proofs.Settings.Contribution
import EntityMapping.Proofs.Settings.Decisive
import EntityMapping.Proofs.Settings.KeyGeneration
import EntityMapping.Proofs.Settings.Declarations
import EntityMapping.Proofs.Settings.Independence
import EntityMapping.Proofs.Document.Steps
import EntityMapping.Proofs.Document.Guidance
import EntityMapping.Proofs.Document.GuidedReaders
import EntityMapping.Proofs.Document.GuidedDefinitions
import EntityMapping.Proofs.Document.FirstMistake
import EntityMapping.Proofs.Document.TokenEnds
import EntityMapping.Proofs.Source.Place
import EntityMapping.Proofs.Document.ErrorPlaces
import EntityMapping.Proofs.Document.Nesting
import EntityMapping.Proofs.Settings.Faults
import EntityMapping.Proofs.Settings.TrueFaults
import EntityMapping.Proofs.Files.Listing
import EntityMapping.Proofs.Catalog.Listing
import EntityMapping.Proofs.Settings.FieldOrder
import EntityMapping.Proofs.Settings.RepeatedArguments
import EntityMapping.Proofs.Document.WrittenString
import EntityMapping.Proofs.Document.Escapes
import EntityMapping.Proofs.Document.Indentation
import EntityMapping.Proofs.Document.WrittenBlock
import EntityMapping.Proofs.Source.Underline
import EntityMapping.Proofs.Source.Offsets
import EntityMapping.Proofs.Settings.ExplicitStrategy
import EntityMapping.Proofs.Settings.Reevaluation
import EntityMapping.Proofs.Settings.JoinColumns
import EntityMapping.Proofs.Settings.ForeignKeys
import EntityMapping.Proofs.Document.TokenPatterns
import EntityMapping.Proofs.Document.LongestMatch
import EntityMapping.Proofs.Document.IntegerLiterals
import EntityMapping.Proofs.Document.TypeTexts
import EntityMapping.Proofs.Document.TypeHosts
import EntityMapping.Proofs.Overriding
import EntityMapping.Proofs.Files.BoundTypes
import EntityMapping.Proofs.Files.LongPaths
import EntityMapping.Proofs.Files.Order
import EntityMapping.Proofs.Files.Walk
import EntityMapping.Proofs.Catalog.MergedView
import EntityMapping.Proofs.Catalog.Transience
import EntityMapping.Proofs.Settings.Navigation
import EntityMapping.Proofs.Record.MappingLists
import EntityMapping.Proofs.Text.Capitals
import EntityMapping.Proofs.Record.Vocabulary
import EntityMapping.Proofs.Document.Programs
import EntityMapping.Proofs.Document.Execution
import EntityMapping.Proofs.Document.Allowances
import EntityMapping.Proofs.Document.FollowedReaders
import EntityMapping.Proofs.Document.FollowedDefinitions
import EntityMapping.Proofs.Document.Progress
