import LiterateBook.Main
import LiterateBook.Proofs.Lines
import LiterateBook.Proofs.Passage
import LiterateBook.Proofs.Segmentation
import LiterateBook.Proofs.MarkerLines
import LiterateBook.Proofs.LineGrammar
import LiterateBook.Proofs.NormalForm
import LiterateBook.Proofs.AskedPaths
import LiterateBook.Proofs.Concatenation
import LiterateBook.Proofs.Indentation
import LiterateBook.Proofs.ClosingFence
import LiterateBook.Proofs.FencedListing
import LiterateBook.Proofs.BlankLines
import LiterateBook.Proofs.HiddenText
import LiterateBook.Proofs.LeftMargin
import LiterateBook.Proofs.ImplicitClose
import LiterateBook.Proofs.LineEndings
import LiterateBook.Proofs.Shape
import LiterateBook.Proofs.Route
import LiterateBook.Proofs.Ancestry
import LiterateBook.Proofs.Resolution
import LiterateBook.Proofs.Writing
import LiterateBook.Proofs.Building
import LiterateBook.Proofs.SourceFiles
import LiterateBook.Proofs.DirectoryBook
import LiterateBook.Proofs.Rebuilding
import LiterateBook.Proofs.Checking
import LiterateBook.Proofs.ChapterBreaks
import LiterateBook.Proofs.DeeperListings
import LiterateBook.Proofs.EditScripts
import LiterateBook.Proofs.LineTerminators
import LiterateBook.Proofs.PrintedDifference
import LiterateBook.Proofs.CharacterBoundaries
import LiterateBook.Proofs.RememberedIndents
import LiterateBook.Proofs.IncludedText
import LiterateBook.Proofs.JsonGrammar
import LiterateBook.Proofs.PrettyJson
import LiterateBook.Proofs.JsonListing
import LiterateBook.Proofs.MetLocations
import LiterateBook.Proofs.ConfigSettings
import LiterateBook.Proofs.ConfigFiles
