import GalleryNaming.Text.Unprintable
import GalleryNaming.Text.Quoted
import GalleryNaming.Text.Pattern
import GalleryNaming.Json
import GalleryNaming.Dump
import GalleryNaming.Violation
import GalleryNaming.Report
import GalleryNaming.Validator
import GalleryNaming.Rules
import GalleryNaming.Resource
import GalleryNaming.Chain
import GalleryNaming.Proofs.TextReading
import GalleryNaming.Proofs.WireFormat
import GalleryNaming.Proofs.PatternMeaning
import GalleryNaming.Proofs.VersionGrammar
import GalleryNaming.Proofs.NameReports
import GalleryNaming.Proofs.QuotedReading
import GalleryNaming.Proofs.LogLine
import GalleryNaming.Proofs.CheckRuns
import GalleryNaming.Proofs.ChainRuns
import GalleryNaming.Proofs.MessageReading
import GalleryNaming.Proofs.RepeatedLabels
import GalleryNaming.Proofs.RejectionMessages
import GalleryNaming.Proofs.DumpReading
import GalleryNaming.Proofs.FaithfulDumps
import GalleryNaming.Proofs.PrintableTexts
import GalleryNaming.Proofs.LabelIndependence
import GalleryNaming.Proofs.JoinedMessages
import GalleryNaming.Proofs.Outsiders
import GalleryNaming.Proofs.NameParts
import GalleryNaming.Proofs.Hyphens
import GalleryNaming.Proofs.NameRepair
import GalleryNaming.Proofs.LengthsInBytes
import GalleryNaming.Proofs.VersionEdits
