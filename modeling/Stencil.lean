import Stencil.Entries
import Stencil.Text.Blank
import Stencil.Text.Fields
import Stencil.Text.Position
import Stencil.Text.Identifier
import Stencil.Path
import Stencil.Tag
import Stencil.CompileError
import Stencil.Token
import Stencil.Token.Piece
import Stencil.Token.Reader
import Stencil.Node
import Stencil.Node.Blocks
import Stencil.Text.Classes
import Stencil.Text.CaseTable
import Stencil.Text.Casing
import Stencil.Text.Humps
import Stencil.Decimal.Shortest
import Stencil.Decimal.Numeral
import Stencil.Json
import Stencil.Value
import Stencil.Context
import Stencil.Text.Quoted
import Stencil.Filter
import Stencil.Render
import Stencil.Template
import Stencil.Document
import Stencil.Json.Number
import Stencil.Json.Quoted
import Stencil.Json.Reader
import Stencil.Settings
import Stencil.ClassSpec
import Stencil.ClassSpec.Data
import Stencil.ClassSpec.Validity
import Stencil.ClassSpec.View
import Stencil.Generator
import Stencil.Workspace
import Stencil.Toml
import Stencil.Toml.Quoted
import Stencil.Toml.Datetime
import Stencil.Toml.Scalar
import Stencil.Toml.Tree
import Stencil.Toml.Reader
import Stencil.Settings.Key
import Stencil.Settings.Assignment
import Stencil.Settings.Layers
import Stencil.Settings.File
import Stencil.Proofs.Meaning
import Stencil.Proofs.Reads
import Stencil.Proofs.Marks
import Stencil.Proofs.Cutting
import Stencil.Proofs.Spelling
import Stencil.Proofs.Reading
import Stencil.Proofs.Relocation
import Stencil.Proofs.Printing
import Stencil.Proofs.MissingFilters
import Stencil.Proofs.Tiling
import Stencil.Proofs.Joining
import Stencil.Proofs.Nesting
import Stencil.Proofs.ErrorPlaces
import Stencil.Proofs.Completion
import Stencil.Proofs.Equivalence
import Stencil.Proofs.Scopes
import Stencil.Proofs.Positions
import Stencil.Proofs.Renaming
import Stencil.Proofs.Quoting
import Stencil.Proofs.Grammar
import Stencil.Proofs.Chains
import Stencil.Proofs.Histories
import Stencil.Proofs.Sharing
import Stencil.Proofs.Generation
import Stencil.Proofs.ExposedNames
import Stencil.Proofs.Steps
import Stencil.Proofs.TomlStrings
import Stencil.Proofs.TomlLines
import Stencil.Proofs.SavedSettings
import Stencil.Proofs.JsonStrings
import Stencil.Proofs.JsonData
import Stencil.Proofs.Serialization
import Stencil.Proofs.Usability
import Stencil.Proofs.ClassContexts
import Stencil.Proofs.PrimaryFields
import Stencil.Proofs.Lowering
import Stencil.Proofs.TomlTables
import Stencil.Proofs.LayeredSettings
import Stencil.Proofs.CamelCase
import Stencil.Proofs.Separators
import Stencil.Proofs.Stages
import Stencil.Proofs.Rounds
import Stencil.Proofs.ProgressNames
import Stencil.Proofs.FilePaths
import Stencil.Proofs.PathTexts
import Stencil.Proofs.LineColumns
import Stencil.Proofs.TitleWords
