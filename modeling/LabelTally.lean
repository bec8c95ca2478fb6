import LabelTally.Check.Finding
import LabelTally.Check.Rules
import LabelTally.Check.Unchecked
import LabelTally.Collection.Basic
import LabelTally.Collection.Gather
import LabelTally.Command.Arguments
import LabelTally.Command.Closeness
import LabelTally.Command.Run
import LabelTally.Comment.Arguments
import LabelTally.Comment.Scan
import LabelTally.Comment.Span
import LabelTally.Decimal.Digits
import LabelTally.Decimal.Integer
import LabelTally.Decimal.Layout
import LabelTally.Decimal.Shortest
import LabelTally.FileTree.FileSystem
import LabelTally.FileTree.Node
import LabelTally.FileTree.Path
import LabelTally.FileTree.Resolve
import LabelTally.FileTree.Walk
import LabelTally.Ignore.Filter
import LabelTally.Ignore.Glob
import LabelTally.Ignore.Rule
import LabelTally.Label.Acronym
import LabelTally.Label.Style
import LabelTally.Label.Words
import LabelTally.Main
import LabelTally.Occurrence.Border
import LabelTally.Occurrence.Needle
import LabelTally.Occurrence.Search
import LabelTally.Pattern.Basic
import LabelTally.Pattern.Escape
import LabelTally.Pattern.Fault
import LabelTally.Pattern.Part
import LabelTally.Pattern.Reader
import LabelTally.Pattern.Run
import LabelTally.Pattern.Single
import LabelTally.Pattern.Token
import LabelTally.Pattern.Ways
import LabelTally.Pattern.Width
import LabelTally.Proofs.Check.BlankSuggestion
import LabelTally.Proofs.Check.Completion
import LabelTally.Proofs.Check.CountBlame
import LabelTally.Proofs.Check.FileOrder
import LabelTally.Proofs.Check.Locations
import LabelTally.Proofs.Check.Resumption
import LabelTally.Proofs.Check.Verdict
import LabelTally.Proofs.Collection.Gather
import LabelTally.Proofs.Collection.Partition
import LabelTally.Proofs.Collection.Views
import LabelTally.Proofs.Comment.Arguments
import LabelTally.Proofs.Comment.Coverage
import LabelTally.Proofs.Comment.Grammar
import LabelTally.Proofs.Comment.LineEndings
import LabelTally.Proofs.Comment.MarkerLines
import LabelTally.Proofs.Comment.Relocation
import LabelTally.Proofs.Comment.Replacement
import LabelTally.Proofs.Comment.Scan
import LabelTally.Proofs.Comment.Spans
import LabelTally.Proofs.Comment.Writing
import LabelTally.Proofs.FileTree.Admission
import LabelTally.Proofs.FileTree.Distinct
import LabelTally.Proofs.FileTree.Walk
import LabelTally.Proofs.Label.Acronyms
import LabelTally.Proofs.Label.Forms
import LabelTally.Proofs.Label.Grammar
import LabelTally.Proofs.Label.Joined
import LabelTally.Proofs.Label.LetterAcronyms
import LabelTally.Proofs.Label.Letters
import LabelTally.Proofs.Label.Passage
import LabelTally.Proofs.Label.Places
import LabelTally.Proofs.Label.Raised
import LabelTally.Proofs.Label.Recase
import LabelTally.Proofs.Label.Reconversion
import LabelTally.Proofs.Label.Separated
import LabelTally.Proofs.Label.WordAware
import LabelTally.Proofs.Label.WordForms
import LabelTally.Proofs.Label.Words
import LabelTally.Proofs.Occurrence.Border
import LabelTally.Proofs.Occurrence.Comparison
import LabelTally.Proofs.Occurrence.Disjoint
import LabelTally.Proofs.Occurrence.Search
import LabelTally.Proofs.Occurrence.TableRun
import LabelTally.Proofs.Pattern.Marks
import LabelTally.Proofs.Pattern.Possessive
import LabelTally.Proofs.Pattern.Sequencing
import LabelTally.Proofs.Report.Blame
import LabelTally.Proofs.Report.Carets
import LabelTally.Proofs.Report.LabelRows
import LabelTally.Proofs.Report.LaterStates
import LabelTally.Proofs.Report.Layout
import LabelTally.Proofs.Report.LineNumbers
import LabelTally.Proofs.Report.Locate
import LabelTally.Proofs.Report.Sources
import LabelTally.Proofs.Settings.Checks
import LabelTally.Proofs.Settings.Distinct
import LabelTally.Proofs.Settings.InPlace
import LabelTally.Proofs.Settings.Merging
import LabelTally.Proofs.Settings.Nearest
import LabelTally.Proofs.Settings.Outcomes
import LabelTally.Proofs.Text.Lines
import LabelTally.Proofs.Text.Seams
import LabelTally.Proofs.Text.SmallForms
import LabelTally.Proofs.Text.Terminators
import LabelTally.Proofs.Text.Utf8
import LabelTally.Report.ErrorLine
import LabelTally.Report.LabelTable
import LabelTally.Report.Locate
import LabelTally.Report.Render
import LabelTally.Report.Sources
import LabelTally.Report.Styled
import LabelTally.Settings.Basic
import LabelTally.Settings.Load
import LabelTally.Text.Blank
import LabelTally.Text.Casing
import LabelTally.Text.Cells
import LabelTally.Text.Emoji.Codes
import LabelTally.Text.Emoji.Replace
import LabelTally.Text.Folding
import LabelTally.Text.Grapheme
import LabelTally.Text.Letter
import LabelTally.Text.Lines
import LabelTally.Text.Name
import LabelTally.Text.Name.Alphabet
import LabelTally.Text.Name.Ancient
import LabelTally.Text.Name.Brahmic
import LabelTally.Text.Name.Cuneiform
import LabelTally.Text.Name.EastOfIndia
import LabelTally.Text.Name.Gesture
import LabelTally.Text.Name.Hieroglyph
import LabelTally.Text.Name.Ideograph
import LabelTally.Text.Name.India
import LabelTally.Text.Name.Kana
import LabelTally.Text.Name.Modern
import LabelTally.Text.Name.Music
import LabelTally.Text.Name.NearEast
import LabelTally.Text.Name.OldKana
import LabelTally.Text.Name.Ornament
import LabelTally.Text.Name.Other
import LabelTally.Text.Name.Phonetic
import LabelTally.Text.Name.Picture
import LabelTally.Text.Name.Presentation
import LabelTally.Text.Name.Run
import LabelTally.Text.Name.Sign
import LabelTally.Text.Name.Syllable
import LabelTally.Text.Property.Alphabetic
import LabelTally.Text.Property.Alphanumeric
import LabelTally.Text.Property.CaseIgnorable
import LabelTally.Text.Property.CaseMapping
import LabelTally.Text.Property.CellWidth
import LabelTally.Text.Property.CharSet
import LabelTally.Text.Property.Digit
import LabelTally.Text.Property.Identifier
import LabelTally.Text.Property.LetterCase
import LabelTally.Text.Property.Unprintable
import LabelTally.Text.Quoted
import LabelTally.Text.Utf8
import LabelTally.Text.Wrap
import LabelTally.Toml.Reader
import LabelTally.Toml.Scalar
import LabelTally.Toml.Table
import LabelTally.Value
import LabelTally.Value.Json
import LabelTally.Value.Order
import LabelTally.Value.Source
