import ApiReview.Address.Basic
import ApiReview.Address.Builder
import ApiReview.Address.Reader
import ApiReview.Address.Token
import ApiReview.Calendar
import ApiReview.CodeLocation
import ApiReview.CommandLine.Arguments
import ApiReview.CommandLine.Command
import ApiReview.CommandLine.Run
import ApiReview.Fault
import ApiReview.Files.Name
import ApiReview.Files.SettingsFile
import ApiReview.Files.SpecFile
import ApiReview.Files.Tree
import ApiReview.Finding
import ApiReview.Fix.Basic
import ApiReview.Fix.Builder
import ApiReview.Json.Reader
import ApiReview.Json.Writable
import ApiReview.Json.Writer
import ApiReview.Node.Access
import ApiReview.Node.Basic
import ApiReview.Node.Display
import ApiReview.Node.Equality
import ApiReview.Node.Graph
import ApiReview.Node.Shape
import ApiReview.Number.Binary64
import ApiReview.Number.Decimal
import ApiReview.Number.Integer
import ApiReview.Number.Power
import ApiReview.Number.Shortest
import ApiReview.Patch.Change
import ApiReview.Patch.Edit
import ApiReview.Patch.Editable
import ApiReview.Patch.Session
import ApiReview.Path.Basic
import ApiReview.Path.Segment
import ApiReview.Path.Singleton
import ApiReview.Path.Words
import ApiReview.Proofs.Address.Anchored
import ApiReview.Proofs.Address.Located
import ApiReview.Proofs.Address.Tokens
import ApiReview.Proofs.Address.Written
import ApiReview.Proofs.Fix.Targets
import ApiReview.Proofs.Node.Alike
import ApiReview.Proofs.Node.Members
import ApiReview.Proofs.Node.Named
import ApiReview.Proofs.Node.Way
import ApiReview.Proofs.Outcome
import ApiReview.Proofs.Patch.Atomicity
import ApiReview.Proofs.Patch.Parents
import ApiReview.Proofs.Patch.Place
import ApiReview.Proofs.Patch.Planned
import ApiReview.Proofs.Review.Calls
import ApiReview.Proofs.Rules.AddedParameters
import ApiReview.Proofs.Rules.Findings
import ApiReview.Proofs.Rules.FixResolution
import ApiReview.Proofs.Rules.JudgedDefinitions
import ApiReview.Proofs.Rules.NextPageToken
import ApiReview.Proofs.Rules.OperationFixes
import ApiReview.Proofs.Rules.PageSizes
import ApiReview.Proofs.Rules.RequestBody
import ApiReview.Proofs.Spec.EditedOperation
import ApiReview.Proofs.Spec.Operations
import ApiReview.Proofs.Spec.ParameterLists
import ApiReview.Proofs.Spec.QueryDeclarations
import ApiReview.Proofs.Spec.ReferenceChains
import ApiReview.Proofs.Spec.ResponseSchemas
import ApiReview.Proofs.Text.LetterCase
import ApiReview.Repair
import ApiReview.Review
import ApiReview.Rule.Basic
import ApiReview.Rule.Guideline
import ApiReview.Rule.Registry
import ApiReview.Rule.Scripted
import ApiReview.Rules.Errors
import ApiReview.Rules.Idempotency
import ApiReview.Rules.ListMethods
import ApiReview.Rules.ResourceNames
import ApiReview.Rules.Standard
import ApiReview.Rules.StandardMethods
import ApiReview.Settings
import ApiReview.Spec.Operation
import ApiReview.Spec.Reference
import ApiReview.Spec.Response
import ApiReview.Text.Basic
import ApiReview.Text.CaseTable
import ApiReview.Text.Casing
import ApiReview.Text.ClassTable
import ApiReview.Text.Letter
import ApiReview.Text.Span
import ApiReview.Validation.Basic
import ApiReview.Validation.Records
import ApiReview.Validation.Scalar
import ApiReview.Word.Ending
import ApiReview.Word.Lexicon
import ApiReview.Word.Memory
import ApiReview.Word.RecencyCache
import ApiReview.Word.Tag
import ApiReview.Word.Vocabulary
import ApiReview.Yaml.Cursor
import ApiReview.Yaml.Failure
import ApiReview.Yaml.Outline
import ApiReview.Yaml.Reader
import ApiReview.Yaml.Scalar
import ApiReview.Yaml.ScalarText
import ApiReview.Yaml.Token
import ApiReview.Yaml.Token.Lexer
import ApiReview.Yaml.Writer
import ApiReview.Main
import ApiReview.Proofs.Rules.DefinitionFixes
import ApiReview.Proofs.Address.Exact
import ApiReview.Proofs.Patch.Agreement
import ApiReview.Proofs.Patch.Faults
import ApiReview.Proofs.Patch.Recorded
import ApiReview.Proofs.Node.Json
import ApiReview.Proofs.Patch.Again
import ApiReview.Proofs.Address.Filtered
import ApiReview.Proofs.Review.Policies
import ApiReview.Proofs.Review.Dispatch
import ApiReview.Proofs.Review.Selection
import ApiReview.Proofs.Spec.ReferenceAddresses
import ApiReview.Proofs.Fix.Replay
import ApiReview.Proofs.Word.Memory
import ApiReview.Proofs.Rules.ConsistentCasing
import ApiReview.Proofs.Review.PathOrder
import ApiReview.Proofs.Review.OrdinaryDocuments
import ApiReview.Proofs.Correlation
import ApiReview.Proofs.Patch.Pointer
import ApiReview.Proofs.Patch.Placement
import ApiReview.Proofs.Fix.Confinement
import ApiReview.Proofs.Node.Renumbering
import ApiReview.Proofs.Patch.Renumbering
import ApiReview.Proofs.Patch.Indistinct
import ApiReview.Proofs.Repair
import ApiReview.Proofs.Patch.Renaming
import ApiReview.Proofs.Patch.Summary
import ApiReview.Proofs.Address.Readable
import ApiReview.Proofs.Node.Symmetry
import ApiReview.Proofs.Patch.Merging
import ApiReview.Proofs.Patch.Stale
import ApiReview.Proofs.Address.Parameters
import ApiReview.Proofs.Spec.FoundAddresses
import ApiReview.Proofs.Text.Lowered
import ApiReview.Proofs.Path.HeadWords
import ApiReview.Proofs.Word.Endings
import ApiReview.Proofs.Word.Plurals
import ApiReview.Proofs.Word.Spelling
import ApiReview.Proofs.Path.PluralSegments
import ApiReview.Proofs.Rules.FlaggedSegments
import ApiReview.Proofs.Rules.PluralResources
import ApiReview.Proofs.Path.Placeholders
import ApiReview.Proofs.Path.ConvertedPlaceholders
import ApiReview.Proofs.Path.PluralPlaceholders
import ApiReview.Proofs.Rules.RenamedTemplates
import ApiReview.Proofs.Spec.EscapedReferences
import ApiReview.Proofs.Spec.ReferenceLimits
import ApiReview.Proofs.Spec.ParameterOverrides
import ApiReview.Proofs.Fix.RenamedDefinitions
import ApiReview.Proofs.Rules.NestedIdentifiers
import ApiReview.Proofs.Rules.BareVerbs
import ApiReview.Proofs.Word.PartsOfSpeech
import ApiReview.Proofs.Word.Turns
import ApiReview.Proofs.Word.ReturnRules
import ApiReview.Proofs.Word.RoundTrips
import ApiReview.Proofs.Path.DelimitedStyles
import ApiReview.Proofs.Rule.RegistryViews
import ApiReview.Proofs.Files.LoadFailures
import ApiReview.Proofs.Review.StrictMode
import ApiReview.Proofs.Spec.OperationLocations
