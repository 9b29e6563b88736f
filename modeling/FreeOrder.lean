import FreeOrder.Main
import FreeOrder.Script.Scanner
import FreeOrder.Proofs.Layout
import FreeOrder.Proofs.TermReading
import FreeOrder.Proofs.SentenceReading
import FreeOrder.Proofs.Listing
import FreeOrder.Proofs.FirstFault
import FreeOrder.Proofs.Classification
import FreeOrder.Proofs.TermOrder
import FreeOrder.Proofs.TermwiseResolution
import FreeOrder.Proofs.SentenceResult
import FreeOrder.Proofs.Command
import FreeOrder.Proofs.ScriptExecution
import FreeOrder.Proofs.Places
import FreeOrder.Proofs.ScriptReading
import FreeOrder.Proofs.Concatenation
import FreeOrder.Proofs.Writing
import FreeOrder.Proofs.Relocation
import FreeOrder.Proofs.Culprit
import FreeOrder.Proofs.ErrorPlaces
import FreeOrder.Proofs.ScannerRules
import FreeOrder.Proofs.ScannerSafety
import FreeOrder.Proofs.ScannedSentences
import FreeOrder.Proofs.ScannedScripts
import FreeOrder.Proofs.LineAccount
import FreeOrder.Proofs.CarriageReturns
import FreeOrder.Proofs.LineOutput
import FreeOrder.Proofs.RunModes
import FreeOrder.Proofs.TrailingBlanks
import FreeOrder.Proofs.LineBreaks
import FreeOrder.Proofs.OneSentence
import FreeOrder.Proofs.FrontMatter
import FreeOrder.Proofs.Expectations
import FreeOrder.Proofs.FixtureRun
import FreeOrder.Proofs.KeyedEntries
import FreeOrder.Proofs.VerbNames
import FreeOrder.Proofs.TableChecks
import FreeOrder.Proofs.BoundedOutput
import FreeOrder.Proofs.ObjectLines
import FreeOrder.Proofs.Discovery
import FreeOrder.Proofs.TestRun
import FreeOrder.Proofs.CategoryPaths
import FreeOrder.Proofs.CommandInsertion
import FreeOrder.Proofs.SharedOptions
