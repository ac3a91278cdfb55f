import Subword.Batch
import Subword.ByteAlphabet
import Subword.BytePair
import Subword.Config
import Subword.Decimal.Number
import Subword.Decimal.Shortest
import Subword.Descriptor
import Subword.Descriptor.Component
import Subword.Descriptor.Table
import Subword.Directory.Hints
import Subword.Directory.Layout
import Subword.Directory.Loading
import Subword.Directory.Reading
import Subword.Error
import Subword.FileTree
import Subword.Json.Basic
import Subword.Json.Reader
import Subword.Merges
import Subword.Numbering
import Subword.Outcome
import Subword.PieceFile
import Subword.PieceModel
import Subword.Proofs.Batch
import Subword.Proofs.ByteAlphabet
import Subword.Proofs.BytePair
import Subword.Proofs.Encoding
import Subword.Proofs.Merges
import Subword.Proofs.Outcome
import Subword.Proofs.Padding
import Subword.Proofs.Regex.Ends
import Subword.Proofs.Regex.Matching
import Subword.Proofs.Segmentation.Optimal
import Subword.Proofs.Segmentation.Search
import Subword.Proofs.Segmentation.Trace
import Subword.Proofs.SpecialTokens
import Subword.Proofs.SplitPattern
import Subword.Proofs.Text.Cut
import Subword.Proofs.Text.Search
import Subword.Proofs.Text.Utf8
import Subword.Proofs.Tokenizer
import Subword.Proofs.Unigram.Best
import Subword.Proofs.Unigram.Joining
import Subword.Proofs.Unigram.Pieces
import Subword.Proofs.Unigram.RoundTrip
import Subword.Proofs.Vocabulary
import Subword.Regex.Brackets
import Subword.Regex.CharSet
import Subword.Regex.ClassName
import Subword.Regex.Ends
import Subword.Regex.Escape
import Subword.Regex.Group
import Subword.Regex.Lead
import Subword.Regex.Matching
import Subword.Regex.Problem
import Subword.Regex.Quantifier
import Subword.Regex.Reader
import Subword.Regex.Scan
import Subword.Regex.Syntax
import Subword.Segmentation
import Subword.SpecialPolicy
import Subword.SplitPattern
import Subword.Text.Blank
import Subword.Text.Block
import Subword.Text.Case
import Subword.Text.Case.Table
import Subword.Text.Category
import Subword.Text.Category.Additions
import Subword.Text.Category.Basic
import Subword.Text.Category.Table
import Subword.Text.Decomposition
import Subword.Text.Decomposition.Table
import Subword.Text.Lines
import Subword.Text.Property
import Subword.Text.Property.Table
import Subword.Text.Quoted
import Subword.Text.Script
import Subword.Text.Script.Table
import Subword.Text.Search
import Subword.Text.Span
import Subword.Text.Utf8
import Subword.Tokenizer
import Subword.Unigram
import Subword.Vocabulary
import Subword.Wire
import Subword.WordPiece
import Subword.Proofs.Vocabulary.Slots
import Subword.Proofs.Vocabulary.Mapping
import Subword.Proofs.Segmentation.Pieces
import Subword.Proofs.Unigram.Ordinary
import Subword.Proofs.Descriptor.Table
import Subword.Proofs.Directory.Loading
import Subword.Proofs.Directory.Declared
import Subword.Proofs.Directory.Document
import Subword.Proofs.Directory.Stated
import Subword.Proofs.Descriptor.Ends
import Subword.Proofs.Descriptor.Template
import Subword.Proofs.Directory.Wrapping
import Subword.Proofs.Merges.Rounds
import Subword.Proofs.Merges.Passes
import Subword.Proofs.Regex.Forward
import Subword.Proofs.Regex.Taken
import Subword.Proofs.WordPiece.Pieces
import Subword.Proofs.Text.Parting
import Subword.Proofs.WordPiece.Words
import Subword.Proofs.WordPiece.Scan
import Subword.Proofs.WordPiece.Normalize
import Subword.Proofs.WordPiece.RoundTrip
import Subword.Proofs.Spelling
import Subword.Proofs.Text.Replace
import Subword.Proofs.BytePair.Suffix
import Subword.Proofs.Regex.Search
import Subword.Proofs.Policies
import Subword.Proofs.Directory.Splitting
import Subword.Proofs.Rows
import Subword.Proofs.Segmentation.Sweep
import Subword.Proofs.Segmentation.Reached
import Subword.Proofs.Unigram.Lowest
import Subword.Proofs.Merges.Written
import Subword.Proofs.Vocabulary.Lines
import Subword.Proofs.Directory.Slots
import Subword.Proofs.Directory.Artifacts
import Subword.Proofs.Directory.Options
import Subword.Proofs.Descriptor.Typed
import Subword.Proofs.Directory.Refusals
import Subword.Proofs.Text.PointSet
import Subword.Proofs.Text.Utf8.Kept
import Subword.Proofs.ByteAlphabet.Regrouping
import Subword.Proofs.Directory.Selection
import Subword.Proofs.Descriptor.Flattening
import Subword.Proofs.Directory.Rearranging
import Subword.Proofs.Text.Fixed
import Subword.Proofs.Text.MarkOrder
import Subword.Proofs.WordPiece.Cleaned
import Subword.Proofs.WordPiece.Idempotence
