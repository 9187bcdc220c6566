import PageBundle.Archive.Read
import PageBundle.Bundle
import PageBundle.Digest
import PageBundle.Mhtml
import PageBundle.Repository.Basic
import PageBundle.Size
import PageBundle.FileTree.Disk
import PageBundle.FileTree.Walk
import PageBundle.Source.Basic
import PageBundle.Source.Local
import PageBundle.Toml.Parse
import PageBundle.Settings
import PageBundle.Build
import PageBundle.CommandLine.Run
import PageBundle.Main
import PageBundle.Proofs.FileSet.Lookup
import PageBundle.Proofs.Asset.Resolve
import PageBundle.Proofs.Asset.Log
import PageBundle.Proofs.Asset.Unconsumed
import PageBundle.Proofs.Bundle.Basic
import PageBundle.Proofs.Bundle.Relevance
import PageBundle.Proofs.Text.Cut
import PageBundle.Proofs.Markup.Shape
import PageBundle.Proofs.Markup.Local
import PageBundle.Proofs.Markup.Span
import PageBundle.Proofs.Bundle.Overlap
import PageBundle.Proofs.Markup.Patch
import PageBundle.Proofs.Text.Mention
import PageBundle.Proofs.Asset.Styled
import PageBundle.Proofs.Bundle.Preview
import PageBundle.Proofs.Bundle.Survival
import PageBundle.Proofs.Markup.Comment
import PageBundle.Proofs.Minify.Pass
import PageBundle.Proofs.Minify.Spacing
import PageBundle.Proofs.Minify.Fixpoint
import PageBundle.Proofs.Minify.Iteration
import PageBundle.Proofs.Asset.Root
import PageBundle.Proofs.Bundle.Leftover
import PageBundle.Proofs.Source.Read
import PageBundle.Proofs.Source.Directory
import PageBundle.Proofs.Build.Phases
import PageBundle.Proofs.Archive.Budget
import PageBundle.Proofs.Source.Agreement
import PageBundle.Proofs.Build.Ceiling
import PageBundle.Proofs.FileTree.Write
import PageBundle.Proofs.Text.Order
import PageBundle.Proofs.FileTree.Walk
import PageBundle.Proofs.CommandLine.Atomic
import PageBundle.Proofs.FileSet.History
import PageBundle.Proofs.Markup.Plain
import PageBundle.Proofs.Text.Word
import PageBundle.Proofs.Asset.Spelling
import PageBundle.Proofs.Asset.Fragment
import PageBundle.Proofs.Minify.Layout
import PageBundle.Proofs.Minify.LineComment
import PageBundle.Proofs.Bundle.Shrunk
import PageBundle.Proofs.Asset.Discovery
import PageBundle.Proofs.Asset.Dangling
import PageBundle.Proofs.Bundle.Once
import PageBundle.Proofs.FileSet.Tier
import PageBundle.Proofs.Asset.Best
import PageBundle.Proofs.Asset.Nameless
import PageBundle.Proofs.Text.First
import PageBundle.Proofs.Markup.Extraction
import PageBundle.Proofs.Markup.Structure
import PageBundle.Proofs.Markup.Severed
import PageBundle.Proofs.Bundle.Structure
import PageBundle.Proofs.Markup.Stripping
import PageBundle.Proofs.Asset.Contained
import PageBundle.Proofs.Text.Last
import PageBundle.Proofs.Markup.Wrapped
import PageBundle.Proofs.Markup.Closing
import PageBundle.Proofs.Bundle.Title
import PageBundle.Proofs.Bundle.Selection
import PageBundle.Proofs.Bundle.Manifest
import PageBundle.Proofs.Url.Path
import PageBundle.Proofs.Archive.Whole
import PageBundle.Proofs.Repository.Address
import PageBundle.Proofs.Repository.Limit
import PageBundle.Proofs.Source.Failure
