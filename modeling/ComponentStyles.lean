import ComponentStyles.Build
import ComponentStyles.Bundle
import ComponentStyles.Component
import ComponentStyles.Fault
import ComponentStyles.Injection
import ComponentStyles.Json.Complaint
import ComponentStyles.Json.Equality
import ComponentStyles.Json.Reader
import ComponentStyles.Json.Scan
import ComponentStyles.Json.Skip
import ComponentStyles.Json.Value
import ComponentStyles.ModuleId.Basic
import ComponentStyles.ModuleId.Import
import ComponentStyles.Number.Binary64
import ComponentStyles.Number.Shortest
import ComponentStyles.Proofs.Build.Detection
import ComponentStyles.Proofs.Build.History
import ComponentStyles.Proofs.Build.Imports
import ComponentStyles.Proofs.Build.Independence
import ComponentStyles.Proofs.Build.Order
import ComponentStyles.Proofs.Build.Owner
import ComponentStyles.Proofs.Build.PlainFile
import ComponentStyles.Proofs.Build.Repeat
import ComponentStyles.Proofs.Build.Root
import ComponentStyles.Proofs.Build.Run
import ComponentStyles.Proofs.Build.Step
import ComponentStyles.Proofs.Build.Styles
import ComponentStyles.Proofs.Bundle.Bytewise
import ComponentStyles.Proofs.Bundle.Callee
import ComponentStyles.Proofs.Bundle.Draft
import ComponentStyles.Proofs.Bundle.Emitted
import ComponentStyles.Proofs.Bundle.Resolve
import ComponentStyles.Proofs.Bundle.Routine
import ComponentStyles.Proofs.Component.Files
import ComponentStyles.Proofs.Component.Literal
import ComponentStyles.Proofs.Component.Placeholder
import ComponentStyles.Proofs.Component.Styles
import ComponentStyles.Proofs.Injection.Boundary
import ComponentStyles.Proofs.Injection.Offsets
import ComponentStyles.Proofs.Injection.Splice
import ComponentStyles.Proofs.Json.Equality
import ComponentStyles.Proofs.ModuleId.Key
import ComponentStyles.Proofs.ModuleId.Query
import ComponentStyles.Proofs.ModuleId.Resolve
import ComponentStyles.Proofs.ModuleId.Separation
import ComponentStyles.Proofs.Number.Value
import ComponentStyles.Proofs.Script.Imports
import ComponentStyles.Proofs.Script.Placement
import ComponentStyles.Proofs.Script.Tree
import ComponentStyles.Proofs.Session.Exhaustion
import ComponentStyles.Proofs.Session.Names
import ComponentStyles.Proofs.Session.Registry
import ComponentStyles.Proofs.Session.Run
import ComponentStyles.Proofs.Shape.Delivery
import ComponentStyles.Proofs.Shape.Marker
import ComponentStyles.Proofs.Shape.Process
import ComponentStyles.Proofs.Shape.Recognition
import ComponentStyles.Proofs.Shape.Registration
import ComponentStyles.Proofs.Text.Bytes
import ComponentStyles.Proofs.Text.Occurrence
import ComponentStyles.Proofs.Text.Percent
import ComponentStyles.Proofs.Text.Position
import ComponentStyles.Proofs.Text.Split
import ComponentStyles.Proofs.Tree.Attribute
import ComponentStyles.Proofs.Tree.Contents
import ComponentStyles.Proofs.Tree.OfText
import ComponentStyles.Proofs.Tree.Place
import ComponentStyles.Proofs.Tree.Preorder
import ComponentStyles.Proofs.Tree.Search
import ComponentStyles.Proofs.Tree.Walk
import ComponentStyles.Report
import ComponentStyles.Script.Diagnostic
import ComponentStyles.Script.Grammar.Basic
import ComponentStyles.Script.Grammar.Bindings
import ComponentStyles.Script.Grammar.Declarations
import ComponentStyles.Script.Grammar.Expressions
import ComponentStyles.Script.Grammar.Functions
import ComponentStyles.Script.Grammar.Literals
import ComponentStyles.Script.Grammar.Markup
import ComponentStyles.Script.Grammar.Modules
import ComponentStyles.Script.Grammar.Operands
import ComponentStyles.Script.Grammar.Operators
import ComponentStyles.Script.Grammar.State
import ComponentStyles.Script.Grammar.Statements
import ComponentStyles.Script.Grammar.Targets
import ComponentStyles.Script.Grammar.Types
import ComponentStyles.Script.Grammar.Whole
import ComponentStyles.Script.Outline
import ComponentStyles.Script.Reader
import ComponentStyles.Script.Token.Basic
import ComponentStyles.Script.Token.Escape
import ComponentStyles.Script.Token.Lexer
import ComponentStyles.Script.Token.Number
import ComponentStyles.Script.Token.Quoted
import ComponentStyles.Script.Token.Trivia
import ComponentStyles.Script.Tree
import ComponentStyles.Session
import ComponentStyles.Settings.Basic
import ComponentStyles.Settings.OfJson
import ComponentStyles.Settings.OfText
import ComponentStyles.Shape
import ComponentStyles.Text.Basic
import ComponentStyles.Text.Category
import ComponentStyles.Text.CharClass
import ComponentStyles.Text.Percent
import ComponentStyles.Text.Position
import ComponentStyles.Text.Quoted
import ComponentStyles.Text.Substring
import ComponentStyles.Text.Utf8
import ComponentStyles.Tree.Data
import ComponentStyles.Tree.Node
import ComponentStyles.Tree.OfText
import ComponentStyles.Tree.Path
import ComponentStyles.Tree.Search
import ComponentStyles.Tree.Walk
