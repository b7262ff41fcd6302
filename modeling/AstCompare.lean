import AstCompare.Analysis
import AstCompare.Artifacts
import AstCompare.CommandLine.Commands
import AstCompare.CommandLine.Footprint
import AstCompare.CommandLine.Grammar
import AstCompare.CommandLine.Invocation
import AstCompare.CommandLine.Output
import AstCompare.CommandLine.Program
import AstCompare.CommandLine.Reading
import AstCompare.CommandLine.Style
import AstCompare.Comparison.Plan
import AstCompare.Comparison.Run
import AstCompare.Compression.Checksum
import AstCompare.Compression.Deflate
import AstCompare.Compression.Huffman
import AstCompare.Compression.Inflate
import AstCompare.Disk.Basic
import AstCompare.Disk.Files
import AstCompare.Disk.Walk
import AstCompare.Drawing
import AstCompare.Dump
import AstCompare.Environment
import AstCompare.Failure
import AstCompare.Graph.Basic
import AstCompare.Highlight
import AstCompare.LabelSet
import AstCompare.Layout.Basic
import AstCompare.Layout.Program
import AstCompare.Main
import AstCompare.Path
import AstCompare.Picture.Basic
import AstCompare.Picture.Binary32
import AstCompare.Picture.Compose
import AstCompare.Picture.Png.Chunk
import AstCompare.Picture.Png.Decode
import AstCompare.Picture.Png.Encode
import AstCompare.Picture.Png.Filter
import AstCompare.Picture.Scalar
import AstCompare.Picture.Stretch
import AstCompare.Proofs.Acceptance
import AstCompare.Proofs.Arborescence
import AstCompare.Proofs.ArtifactNames
import AstCompare.Proofs.CallEffects
import AstCompare.Proofs.ComparisonFrame
import AstCompare.Proofs.ComparisonRun
import AstCompare.Proofs.ConcurrentRuns
import AstCompare.Proofs.DiskDirectories
import AstCompare.Proofs.DiskFiles
import AstCompare.Proofs.DiskFrame
import AstCompare.Proofs.DiskPaths
import AstCompare.Proofs.DotReading
import AstCompare.Proofs.DrawnStatus
import AstCompare.Proofs.DrawnTrees
import AstCompare.Proofs.DumpRoundTrip
import AstCompare.Proofs.EffectOrder
import AstCompare.Proofs.FlatColumns
import AstCompare.Proofs.Flattening
import AstCompare.Proofs.Footprints
import AstCompare.Proofs.GraphNames
import AstCompare.Proofs.Leftovers
import AstCompare.Proofs.LineDifference
import AstCompare.Proofs.Lines
import AstCompare.Proofs.Mirroring
import AstCompare.Proofs.Nesting
import AstCompare.Proofs.Numbering
import AstCompare.Proofs.PathExpansion
import AstCompare.Proofs.PathPieces
import AstCompare.Proofs.Provenance
import AstCompare.Proofs.QuotedStrings
import AstCompare.Proofs.Reading
import AstCompare.Proofs.Renumbering
import AstCompare.Proofs.Rose
import AstCompare.Proofs.RoundTrip
import AstCompare.Proofs.SameShape
import AstCompare.Proofs.Sections
import AstCompare.Proofs.SeparateRuns
import AstCompare.Proofs.SettingsLayers
import AstCompare.Proofs.SettingsRoundTrip
import AstCompare.Proofs.SideBySide
import AstCompare.Proofs.TomlDocuments
import AstCompare.Settings.Basic
import AstCompare.Settings.Expansion
import AstCompare.Settings.Load
import AstCompare.Settings.Toml
import AstCompare.Settings.Variables
import AstCompare.Shell.Arithmetic
import AstCompare.Shell.Builtins
import AstCompare.Shell.Condition
import AstCompare.Shell.Data
import AstCompare.Shell.Decimal
import AstCompare.Shell.Executable
import AstCompare.Shell.Expansion
import AstCompare.Shell.Faults
import AstCompare.Shell.Fields
import AstCompare.Shell.Installation
import AstCompare.Shell.Launch
import AstCompare.Shell.Machine
import AstCompare.Shell.Octets
import AstCompare.Shell.Opening
import AstCompare.Shell.Pattern
import AstCompare.Shell.Perform
import AstCompare.Shell.Printf
import AstCompare.Shell.Process
import AstCompare.Shell.Programs
import AstCompare.Shell.Queue
import AstCompare.Shell.Reader
import AstCompare.Shell.Regex
import AstCompare.Shell.Run
import AstCompare.Shell.Schedule
import AstCompare.Shell.Script
import AstCompare.Shell.Signal
import AstCompare.Shell.Starting
import AstCompare.Shell.Stream
import AstCompare.Shell.Tool.Basic
import AstCompare.Shell.Tool.Bytes
import AstCompare.Shell.Tool.Columns
import AstCompare.Shell.Tool.Difference
import AstCompare.Shell.Tool.Digest
import AstCompare.Shell.Tool.Directories
import AstCompare.Shell.Tool.Edit
import AstCompare.Shell.Tool.Files
import AstCompare.Shell.Tool.Find
import AstCompare.Shell.Tool.Listing
import AstCompare.Shell.Tool.Modes
import AstCompare.Shell.Tool.Moments
import AstCompare.Shell.Tool.Parts
import AstCompare.Shell.Tool.Paths
import AstCompare.Shell.Tool.Quoting
import AstCompare.Shell.Tool.Search
import AstCompare.Shell.Tool.Sort
import AstCompare.Shell.Tool.Values
import AstCompare.Shell.View
import AstCompare.Text.Alphanumeric
import AstCompare.Text.Blank
import AstCompare.Text.Lines
import AstCompare.Text.Lowercase
import AstCompare.Text.Ranges
import AstCompare.Text.Utf8
import AstCompare.Text.Visible
import AstCompare.Toml.Number
import AstCompare.Toml.Quoted
import AstCompare.Toml.Reader
import AstCompare.Toml.Table
import AstCompare.Toml.Value
import AstCompare.Tree.Basic
import AstCompare.Tree.Indented
import AstCompare.Tree.Rose
