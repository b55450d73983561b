import Bindery.Report
import Bindery.CommandLine.Arguments
import Bindery.CommandLine.Command
import Bindery.Decimal.Shortest
import Bindery.Declaration.Attribute
import Bindery.Declaration.Basic
import Bindery.Declaration.Content
import Bindery.Declaration.Library
import Bindery.Declaration.Dump
import Bindery.Declaration.Fault
import Bindery.Declaration.Form
import Bindery.Declaration.Walk
import Bindery.Digest.Md5
import Bindery.Emit.BindingModule
import Bindery.Emit.Code
import Bindery.Emit.Code.Given
import Bindery.Emit.Layout
import Bindery.Emit.NameIndex
import Bindery.Emit.Template
import Bindery.Fault
import Bindery.Files.Path
import Bindery.Files.Tree
import Bindery.Graph.Basic
import Bindery.Graph.Change
import Bindery.Graph.Snapshot
import Bindery.Graph.View
import Bindery.Header.Build
import Bindery.Header.Declarator
import Bindery.Header.Enumeration
import Bindery.Header.Members
import Bindery.Header.Parse
import Bindery.Header.Search
import Bindery.Header.SyntaxNode
import Bindery.Header.TreeData
import Bindery.Initializer.Expression
import Bindery.Initializer.Given
import Bindery.Initializer.Grammar
import Bindery.Initializer.Literal
import Bindery.Initializer.Meaning
import Bindery.Initializer.Nesting
import Bindery.Initializer.Number
import Bindery.Initializer.Respelling
import Bindery.Initializer.Token
import Bindery.Loose.Basic
import Bindery.Loose.BindingModule
import Bindery.Loose.Edit
import Bindery.Loose.Layout
import Bindery.Loose.NameIndex
import Bindery.Loose.Sweep
import Bindery.Loose.Passes
import Bindery.Loose.Rearrange
import Bindery.Loose.Request
import Bindery.Main
import Bindery.Naming.Basic
import Bindery.Naming.Given
import Bindery.Options.Basic
import Bindery.Options.Given
import Bindery.Options.Load
import Bindery.Pass.Basic
import Bindery.Pass.Names
import Bindery.Pass.Incomplete
import Bindery.Pass.Schedule
import Bindery.Pass.Visitor
import Bindery.Proofs.CommandLine.Command
import Bindery.Proofs.Declaration.Coherent
import Bindery.Proofs.Declaration.Creation
import Bindery.Proofs.Declaration.Kept
import Bindery.Proofs.Declaration.Links
import Bindery.Proofs.Declaration.Lists
import Bindery.Proofs.Declaration.Operations
import Bindery.Proofs.Declaration.Parents
import Bindery.Proofs.Declaration.Pruned
import Bindery.Proofs.Declaration.Ranked
import Bindery.Proofs.Declaration.Removal
import Bindery.Proofs.Declaration.Renumber
import Bindery.Proofs.Declaration.Renumbered
import Bindery.Proofs.Declaration.Slots
import Bindery.Proofs.Declaration.Sorted
import Bindery.Proofs.Declaration.Traversals
import Bindery.Proofs.Declaration.Tree
import Bindery.Proofs.Declaration.Walk
import Bindery.Proofs.Emit.Bindings
import Bindery.Proofs.Emit.Bound
import Bindery.Proofs.Emit.Dependencies
import Bindery.Proofs.Emit.Docstring
import Bindery.Proofs.Emit.Exports
import Bindery.Proofs.Emit.LayoutOrder
import Bindery.Proofs.Emit.Lines
import Bindery.Proofs.Emit.NameIndex
import Bindery.Proofs.Emit.Readings
import Bindery.Proofs.Emit.RenumberedLayout
import Bindery.Proofs.Emit.RenumberedModule
import Bindery.Proofs.Emit.Resolved
import Bindery.Proofs.Emit.Shown
import Bindery.Proofs.Emit.Underlying
import Bindery.Proofs.Emit.Withheld
import Bindery.Proofs.Files.Tree
import Bindery.Proofs.Header.Accesses
import Bindery.Proofs.Header.Declarators
import Bindery.Proofs.Header.Declared
import Bindery.Proofs.Header.Declaring
import Bindery.Proofs.Header.Enumeration
import Bindery.Proofs.Header.FaultSearch
import Bindery.Proofs.Header.Fields
import Bindery.Proofs.Header.Flat
import Bindery.Proofs.Header.Graft
import Bindery.Proofs.Header.Grown
import Bindery.Proofs.Header.Growth
import Bindery.Proofs.Header.Levels
import Bindery.Proofs.Header.Members
import Bindery.Proofs.Header.Namespaces
import Bindery.Proofs.Header.Obstacles
import Bindery.Proofs.Header.Readers
import Bindery.Proofs.Header.Resembling
import Bindery.Proofs.Header.Standing
import Bindery.Proofs.Header.Storage
import Bindery.Proofs.Header.Unit
import Bindery.Proofs.Initializer.Arithmetic
import Bindery.Proofs.Initializer.BitLength
import Bindery.Proofs.Initializer.Constant
import Bindery.Proofs.Initializer.Exact
import Bindery.Proofs.Initializer.Faithful
import Bindery.Proofs.Initializer.Numbers
import Bindery.Proofs.Initializer.Parsed
import Bindery.Proofs.Initializer.Respelled
import Bindery.Proofs.Initializer.Scanned
import Bindery.Proofs.Initializer.Spaced
import Bindery.Proofs.Initializer.Spending
import Bindery.Proofs.Initializer.Worth
import Bindery.Proofs.Naming.Names
import Bindery.Proofs.Outcome
import Bindery.Proofs.Pass.Builtins
import Bindery.Proofs.Pass.Changes
import Bindery.Proofs.Pass.CleanNames
import Bindery.Proofs.Pass.Cleaned
import Bindery.Proofs.Pass.Incomplete
import Bindery.Proofs.Pass.KeptNames
import Bindery.Proofs.Pass.Merged
import Bindery.Proofs.Pass.Merging
import Bindery.Proofs.Pass.ModuleNames
import Bindery.Proofs.Pass.Overloads
import Bindery.Proofs.Pass.Renumbered
import Bindery.Proofs.Pass.Sound
import Bindery.Proofs.Pass.Visiting
import Bindery.Proofs.Run.Course
import Bindery.Proofs.Run.Enactment
import Bindery.Proofs.Run.EndingHeaders
import Bindery.Proofs.Run.FailedHeaders
import Bindery.Proofs.Run.Protocol
import Bindery.Proofs.Run.Stages
import Bindery.Proofs.Run.Unfinished
import Bindery.Proofs.Signature.Pieces
import Bindery.Proofs.Signature.Settled
import Bindery.Proofs.Step
import Bindery.Proofs.Transform.Loading
import Bindery.Proofs.Transform.Registry
import Bindery.Proofs.TypeTable.Arrays
import Bindery.Proofs.TypeTable.Founded
import Bindery.Proofs.TypeTable.Layers
import Bindery.Proofs.TypeTable.Marks
import Bindery.Proofs.TypeTable.Pointers
import Bindery.Run
import Bindery.Script.Misuse
import Bindery.Script.Raised
import Bindery.Signature.Normal
import Bindery.Text.Blank
import Bindery.Text.CharacterName
import Bindery.Text.CharacterName.Table
import Bindery.Text.CodeRange
import Bindery.Text.Identifier
import Bindery.Text.Identifier.Spelling
import Bindery.Text.Lowercase
import Bindery.Text.Quoted
import Bindery.Text.Utf8
import Bindery.Text.Word
import Bindery.Transform.Description
import Bindery.Transform.Installed
import Bindery.Transform.Loader
import Bindery.Transform.Registry
import Bindery.Transform.Request
import Bindery.Transform.Script
import Bindery.Transform.Selector
import Bindery.TypeTable.Descent
import Bindery.TypeTable.Descriptor
import Bindery.TypeTable.Given
import Bindery.TypeTable.Lookup
import Bindery.Value.Basic
import Bindery.Value.Compare
import Bindery.Value.Misfit
import Bindery.Value.Printer
import Bindery.Value.Reader
import Bindery.Value.Sorting
import Bindery.Proofs.Options.Adjusted
import Bindery.Proofs.Options.Checked
import Bindery.Proofs.Declaration.Dump
import Bindery.Proofs.Options.Mapping
import Bindery.Proofs.Options.Placed
import Bindery.Proofs.Transform.History
