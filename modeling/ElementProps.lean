import ElementProps.Main
import ElementProps.Proofs.CallGrammar
import ElementProps.Session
import ElementProps.Survey
import ElementProps.Proofs.CallScan
import ElementProps.Proofs.CallWindow
import ElementProps.Proofs.CallSplit
import ElementProps.Proofs.BraceWalk
import ElementProps.Proofs.WholeDocument
import ElementProps.Proofs.LookbackCut
import ElementProps.Proofs.ClientBuffer
import ElementProps.Proofs.RequestEffect
import ElementProps.Proofs.ClientSync
import ElementProps.Proofs.DocumentHistory
import ElementProps.Proofs.SettingsHistory
import ElementProps.Proofs.CompletionAnswers
import ElementProps.Proofs.LineBreaks
import ElementProps.Proofs.CommandLineAgreement
import ElementProps.Proofs.BraceStack
import ElementProps.Proofs.CompletionItems
import ElementProps.Proofs.ClientPositions
import ElementProps.Proofs.EditPlacement
import ElementProps.Proofs.EditOrder
import ElementProps.Proofs.SnippetText
import ElementProps.Proofs.SettingsNormalForm
import ElementProps.Proofs.Calendar
import ElementProps.Proofs.TimestampOrder
import ElementProps.Proofs.Utf8Bytes
import ElementProps.Proofs.FileUris
import ElementProps.Proofs.JsonLimits
import ElementProps.Proofs.CommandFailures
import ElementProps.Proofs.LineCut
import ElementProps.Proofs.CursorPlaces
