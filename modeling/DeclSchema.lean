import DeclSchema.Source.Grammar
import DeclSchema.Number.Numeral
import DeclSchema.Number.Shortest
import DeclSchema.Text.Printable
import DeclSchema.Text.WordCharacter
import DeclSchema.Text.UpperCase
import DeclSchema.Text.LowerCase
import DeclSchema.Shape.Display
import DeclSchema.Declaration
import DeclSchema.Log
import DeclSchema.Source.Template
import DeclSchema.Source.ShapeReading
import DeclSchema.Source.Declarations
import DeclSchema.Schema.Document
import DeclSchema.Schema.Fault
import DeclSchema.Schema.Reading.Definitions
import DeclSchema.Schema.Printer
import DeclSchema.Schema.Kind
import DeclSchema.Extraction
import DeclSchema.Assembly
import DeclSchema.Conversion
import DeclSchema.FileConversion
import DeclSchema.Text.Similarity
import DeclSchema.Command
import DeclSchema.Main
import DeclSchema.Proofs.Assembly.OperationTypes
import DeclSchema.Proofs.Assembly.Reclassification
import DeclSchema.Proofs.Assembly.ArgumentBinding
import DeclSchema.Proofs.Assembly.Stages
import DeclSchema.Proofs.Assembly.Outcome
import DeclSchema.Proofs.Assembly.NormalForm
import DeclSchema.Proofs.Assembly.PlainPart
import DeclSchema.Proofs.Assembly.Places
import DeclSchema.Proofs.Schema.PlainDefinitions
import DeclSchema.Proofs.Schema.PlainReading
import DeclSchema.Proofs.Schema.PlainPrinting
import DeclSchema.Proofs.Text.UpperCase
import DeclSchema.Proofs.Assembly.Plainness
import DeclSchema.Proofs.Lowering.Meaning
import DeclSchema.Proofs.Lowering.Decoding
import DeclSchema.Proofs.Lowering.Emission
import DeclSchema.Proofs.Assembly.Sessions
import DeclSchema.Proofs.Source.RoundTrip
import DeclSchema.Proofs.Source.Walk
import DeclSchema.Proofs.Conversion.Endings
import DeclSchema.Proofs.Files.Writing
import DeclSchema.Proofs.Schema.JoinedReading
import DeclSchema.Proofs.Schema.JoinedDocuments
import DeclSchema.Proofs.Lowering.Joining
import DeclSchema.Proofs.Lowering.ArgumentNames
import DeclSchema.Proofs.Lowering.Arguments
import DeclSchema.Proofs.Lowering.Collecting
import DeclSchema.Proofs.Lowering.SchemaTypes
import DeclSchema.Proofs.Schema.StrayTexts
import DeclSchema.Proofs.Schema.StrayReading
import DeclSchema.Proofs.Schema.StrayDocuments
import DeclSchema.Proofs.Lowering.LoneNames
import DeclSchema.Proofs.Source.EmbeddedTexts
import DeclSchema.Proofs.Command.Verbosity
import DeclSchema.Proofs.Assembly.FirstOccurrences
import DeclSchema.Proofs.Assembly.BindingOrder
import DeclSchema.Proofs.Finish.Headers
import DeclSchema.Proofs.Finish.Filters
import DeclSchema.Proofs.Source.FirstFault
import DeclSchema.Proofs.Source.TemplateSegments
import DeclSchema.Proofs.Source.ShapeContents
import DeclSchema.Proofs.Source.IrrelevantSyntax
import DeclSchema.Proofs.Source.Integers
