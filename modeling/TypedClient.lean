import TypedClient.Text.Numeric
import TypedClient.Text.Quoted
import TypedClient.Text.Utf8
import TypedClient.Text.IdentifierChar
import TypedClient.Region
import TypedClient.Naming
import TypedClient.TypeText.Grammar
import TypedClient.Document.Arena
import TypedClient.OperationTable
import TypedClient.Corrections
import TypedClient.Reading
import TypedClient.Extraction.Extract
import TypedClient.Registry.Summary
import TypedClient.Source.Generate
import TypedClient.Files.Tree
import TypedClient.Main
import TypedClient.Wire.Call
import TypedClient.Wire.MapKey
import TypedClient.Wire.Sendable
import TypedClient.Wire.PointInTime
import TypedClient.Wire.Query
import TypedClient.Wire.SpellRange
import TypedClient.Wire.UriTemplate
import TypedClient.Proofs.TypeGrammar
import TypedClient.Proofs.Outcome
import TypedClient.Proofs.FirstOccurrences
import TypedClient.Proofs.Registry.Declare
import TypedClient.Proofs.Extraction.Declarations
import TypedClient.Proofs.Extraction.Members
import TypedClient.Proofs.Extraction.Passes
import TypedClient.Proofs.Extraction.ClassTable
import TypedClient.Proofs.Extraction.Handles
import TypedClient.Proofs.Document.Relabel
import TypedClient.Proofs.Document.Search
import TypedClient.Proofs.Document.Numbering
import TypedClient.Proofs.Extraction.Interchange
import TypedClient.Proofs.Extraction.Reordering
import TypedClient.Proofs.Wire.MapKeys
import TypedClient.Proofs.Extraction.Names
import TypedClient.Proofs.Source.TypeNames
import TypedClient.Proofs.Wire.Templates
import TypedClient.Proofs.Naming.LetterCase
import TypedClient.Proofs.Text.CodeMasks
import TypedClient.Proofs.Naming.Words
import TypedClient.Proofs.Naming.Acronyms
import TypedClient.Proofs.Naming.NormalForm
import TypedClient.Proofs.Naming.Idempotence
import TypedClient.Proofs.Extraction.Origins
import TypedClient.Proofs.Source.ResultTypes
import TypedClient.Proofs.OperationTable
import TypedClient.Proofs.Source.MethodNames
import TypedClient.Proofs.Refusal
import TypedClient.Proofs.Source.TypeExpr
import TypedClient.Proofs.Source.Containment
import TypedClient.Proofs.Source.Refusals
import TypedClient.Proofs.Grouping
import TypedClient.Proofs.Registry.Listed
import TypedClient.Proofs.Registry.Runs
import TypedClient.Proofs.Extraction.DocumentOrder
import TypedClient.Proofs.Extraction.References
import TypedClient.Proofs.Extraction.Skipped
import TypedClient.Proofs.Wire.Percent
import TypedClient.Proofs.Wire.Expansion
import TypedClient.Proofs.Extraction.Parameters
import TypedClient.Proofs.Source.SnakeCase
import TypedClient.Proofs.Source.Accessors
import TypedClient.Proofs.Files.Tree
import TypedClient.Proofs.Region
import TypedClient.Proofs.Source.Readable
import TypedClient.Proofs.CommandLine.Changes
import TypedClient.Proofs.Document.FlatText
import TypedClient.Proofs.Document.Arena
import TypedClient.Proofs.Naming.Letters
import TypedClient.Proofs.Naming.Spelling
import TypedClient.Proofs.Source.FieldNames
import TypedClient.Proofs.Source.Arguments
import TypedClient.Proofs.Region.Order
import TypedClient.Proofs.Region.Numbering
import TypedClient.Proofs.OperationLookup
import TypedClient.Proofs.Source.TypeTexts
import TypedClient.Proofs.Source.Documentation
import TypedClient.Proofs.Text.Pieces
import TypedClient.Proofs.Text.StrayReturn
import TypedClient.Proofs.Source.Formatting
import TypedClient.Proofs.Text.Quoted
import TypedClient.Proofs.Text.Decimal
import TypedClient.Proofs.Json.Integers
import TypedClient.Proofs.Text.Utf8
import TypedClient.Proofs.Wire.SpellRange
import TypedClient.Proofs.Wire.Query
import TypedClient.Proofs.Extraction.LegalValues
import TypedClient.Proofs.Extraction.IdWidth
