import GoIdl.Text.Class
import GoIdl.Text.Blank
import GoIdl.Text.Lines
import GoIdl.Text.Quoted
import GoIdl.Text.LetterCase
import GoIdl.Text.EditDistance
import GoIdl.Json.Reader
import GoIdl.Json.Writer
import GoIdl.Disk.Path
import GoIdl.Syntax.Token
import GoIdl.Syntax.Lexeme
import GoIdl.Syntax.Semicolon
import GoIdl.Syntax.Comment
import GoIdl.Syntax.TypeExprPrinter
import GoIdl.Syntax.Literal
import GoIdl.Syntax.Parser.Advance
import GoIdl.Syntax.Diagnosis
import GoIdl.Syntax.Source
import GoIdl.Naming
import GoIdl.Tag
import GoIdl.Metadata
import GoIdl.Scalar
import GoIdl.Arguments
import GoIdl.Outcome
import GoIdl.Output.Segment
import GoIdl.Output.CommentText
import GoIdl.Disk.Write
import GoIdl.Definition.Tree
import GoIdl.Definition.Session
import GoIdl.Package.Loading
import GoIdl.Compile.Run
import GoIdl.Text.Similarity
import GoIdl.Disk.Reading
import GoIdl.Definition.Export
import GoIdl.Output.Delivery
import GoIdl.Template.Rendering
import GoIdl.CommandLine.Run
import GoIdl.Main
import GoIdl.Proofs.Session.ErrorField
import GoIdl.Proofs.Compile.References
import GoIdl.Proofs.Compile.Exclusion
import GoIdl.Proofs.Compile.Objects
import GoIdl.Proofs.Session.Calls
import GoIdl.Proofs.Compile.Serving
import GoIdl.Proofs.Compile.Queries
import GoIdl.Proofs.Compile.Collapse
import GoIdl.Proofs.Compile.Termination
import GoIdl.Proofs.Compile.FromDisk
import GoIdl.Proofs.Compile.Aliases
import GoIdl.Proofs.Disk.Places
import GoIdl.Proofs.Text.Utf8
import GoIdl.Proofs.Compile.InlineStructs
import GoIdl.Proofs.Text.Bounds
import GoIdl.Proofs.Compile.Refusals
import GoIdl.Proofs.Tag.Merging
import GoIdl.Proofs.Definition.ReadBack
import GoIdl.Proofs.Output.Segments
import GoIdl.Proofs.Syntax.RoundTrip
import GoIdl.Proofs.Package.History
import GoIdl.Proofs.Package.Caches
import GoIdl.Proofs.Session.Keeping
import GoIdl.Proofs.Compile.Signatures
import GoIdl.Proofs.Compile.Recursion
import GoIdl.Proofs.Syntax.Docs
import GoIdl.Proofs.Syntax.Comments
import GoIdl.Proofs.Tag.Grammar
import GoIdl.Proofs.Metadata.Joining
import GoIdl.Proofs.Metadata.Annotations
import GoIdl.Proofs.Syntax.SkippedTexts
import GoIdl.Proofs.Syntax.Semicolons
import GoIdl.Proofs.Syntax.Grouping
import GoIdl.Proofs.Package.Trees
import GoIdl.Proofs.Package.Repeating
import GoIdl.Proofs.Output.LineComments
import GoIdl.Proofs.Output.HtmlComments
import GoIdl.Proofs.Output.Delivering
import GoIdl.Proofs.Compile.Irrelevance
import GoIdl.Proofs.Syntax.Literals
import GoIdl.Proofs.Syntax.QuotedLines
import GoIdl.Proofs.Package.Undecodable
import GoIdl.Proofs.Output.SingleLines
import GoIdl.Proofs.Syntax.NormalDocs
import GoIdl.Proofs.Syntax.Suggestions
import GoIdl.Proofs.Package.ImportPaths
