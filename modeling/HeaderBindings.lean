import HeaderBindings.Text.Character
import HeaderBindings.Text.Slice
import HeaderBindings.Text.Lines
import HeaderBindings.Text.WordRun
import HeaderBindings.Text.Pascal
import HeaderBindings.Preprocessor.Conditions
import HeaderBindings.Model.Signature
import HeaderBindings.Header.Marker
import HeaderBindings.Header.Docs
import HeaderBindings.Header.EnumDeclaration
import HeaderBindings.Header.FunctionDeclaration
import HeaderBindings.Header.Scan
import HeaderBindings.Extraction
import HeaderBindings.Text.Decode
import HeaderBindings.Toml.Reader
import HeaderBindings.Files.Tree
import HeaderBindings.Run.Command
import HeaderBindings.Main
import HeaderBindings.Binding.Exports
import HeaderBindings.Binding.Native.Header
import HeaderBindings.Binding.Managed.Source
import HeaderBindings.Model.Fingerprint
import HeaderBindings.Proofs.Text.Slice
import HeaderBindings.Proofs.Typing.Spelling
import HeaderBindings.Proofs.Typing.GroupConvention
import HeaderBindings.Proofs.Binding.Folding
import HeaderBindings.Proofs.Outcome
import HeaderBindings.Proofs.Interface.Declared
import HeaderBindings.Proofs.Interface.EnumIndex
import HeaderBindings.Proofs.Interface.Resolution
import HeaderBindings.Proofs.Related
import HeaderBindings.Proofs.Interface.KnownTypes
import HeaderBindings.Proofs.Interface.WellFormed
import HeaderBindings.Proofs.Interface.GroupedArguments
import HeaderBindings.Proofs.Binding.BinaryInterface
import HeaderBindings.Proofs.Binding.CallSites
import HeaderBindings.Proofs.Binding.Helpers
import HeaderBindings.Proofs.Binding.Symbols
import HeaderBindings.Proofs.Binding.Templates
import HeaderBindings.Proofs.Binding.CommonHead
import HeaderBindings.Proofs.Header.InactiveLines
import HeaderBindings.Proofs.Header.FunctionText
import HeaderBindings.Proofs.Header.DeclarationLine
import HeaderBindings.Proofs.Header.Effect
import HeaderBindings.Proofs.Interface.HeaderOrder
import HeaderBindings.Proofs.Header.Layout
import HeaderBindings.Proofs.Run.HeaderFiles
import HeaderBindings.Proofs.Json.Lexing
import HeaderBindings.Proofs.Json.RoundTrip
import HeaderBindings.Proofs.Model.RoundTrip
import HeaderBindings.Proofs.Json.Dump
import HeaderBindings.Proofs.Model.Fingerprint
import HeaderBindings.Proofs.Files.Tree
import HeaderBindings.Proofs.Run.Frame
import HeaderBindings.Proofs.Binding.EnumTable
import HeaderBindings.Proofs.Binding.EnumMembers
import HeaderBindings.Proofs.Binding.HoistedDefaults
import HeaderBindings.Proofs.Binding.TrailingDefaults
import HeaderBindings.Proofs.Binding.ParameterNames
import HeaderBindings.Proofs.Header.Brackets
import HeaderBindings.Proofs.Header.Prototype
import HeaderBindings.Proofs.Header.UnnamedParameter
import HeaderBindings.Proofs.Header.StringDefault
import HeaderBindings.Proofs.Header.EnumText
import HeaderBindings.Proofs.Header.DocComment
import HeaderBindings.Proofs.Interface.BorrowedDocs
import HeaderBindings.Proofs.Interface.EnumTypes
import HeaderBindings.Proofs.Binding.KeptNumbers
import HeaderBindings.Proofs.Binding.DocsPieces
import HeaderBindings.Proofs.Binding.DocsOrder
import HeaderBindings.Proofs.Xml.Content
import HeaderBindings.Proofs.Binding.RenderedDocs
import HeaderBindings.Proofs.Interface.Pairing
import HeaderBindings.Proofs.Binding.CallGuards
import HeaderBindings.Proofs.Binding.PropertyAccessors
import HeaderBindings.Proofs.Binding.PropertyNames
import HeaderBindings.Proofs.Preprocessor.Outline
import HeaderBindings.Proofs.Interface.LastDeclaration
import HeaderBindings.Proofs.Header.Attribution
import HeaderBindings.Proofs.Binding.ConstructorCalls
import HeaderBindings.Proofs.Binding.AccessLabels
import HeaderBindings.Proofs.Binding.LongestHead
import HeaderBindings.Proofs.Header.ClosingParen
import HeaderBindings.Proofs.Text.LineReplacement
import HeaderBindings.Proofs.Run.Definitions
import HeaderBindings.Proofs.Header.LineComment
import HeaderBindings.Proofs.Text.LineScan
