import ResourceEmbedding.CommandLine.Run
import ResourceEmbedding.Files.Tree
import ResourceEmbedding.Generator.Catalog
import ResourceEmbedding.Json.Reader
import ResourceEmbedding.Main
import ResourceEmbedding.Proofs.Generator.Catalog
import ResourceEmbedding.Proofs.Generator.Consistency
import ResourceEmbedding.Proofs.Generator.Filing
import ResourceEmbedding.Proofs.Generator.Settings
import ResourceEmbedding.Proofs.Properties.Spelling
import ResourceEmbedding.Proofs.Template.Analysis
import ResourceEmbedding.Text.Utf16
import ResourceEmbedding.Proofs.Segment.Optimal
import ResourceEmbedding.Proofs.Symbol.Identifier
import ResourceEmbedding.Proofs.Generator.Resources
import ResourceEmbedding.Proofs.Generation.Request
import ResourceEmbedding.Proofs.CommandLine.Discovery
import ResourceEmbedding.Proofs.CommandLine.ExitCode
import ResourceEmbedding.Proofs.Setting.Violations
import ResourceEmbedding.Proofs.Symbol.Words
import ResourceEmbedding.Proofs.Symbol.Folding
import ResourceEmbedding.Proofs.Symbol.Spelling
import ResourceEmbedding.Proofs.Json.Form
import ResourceEmbedding.Proofs.Generation.Outcome
import ResourceEmbedding.Proofs.Symbol.Sanitize
import ResourceEmbedding.Proofs.Symbol.Agreement
import ResourceEmbedding.Proofs.Template.Rendering
import ResourceEmbedding.Proofs.Template.Fault
import ResourceEmbedding.Proofs.Properties.Composition
import ResourceEmbedding.Proofs.Template.Shape
import ResourceEmbedding.Proofs.Properties.Continuation
import ResourceEmbedding.Proofs.Properties.Units
import ResourceEmbedding.Proofs.Template.Arguments
import ResourceEmbedding.Proofs.Setting.Extension
import ResourceEmbedding.Proofs.Generator.Delegation
import ResourceEmbedding.Proofs.Segment.Calls
import ResourceEmbedding.Proofs.Generator.Site
import ResourceEmbedding.Proofs.Properties.Backslash
import ResourceEmbedding.Proofs.Segment.Reads
