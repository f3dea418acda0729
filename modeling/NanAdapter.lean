import NanAdapter.Adapter.Operation
import NanAdapter.Main
import NanAdapter.Proofs.ChannelHistory
import NanAdapter.Proofs.CounterHistory
import NanAdapter.Proofs.RevisionGate
import NanAdapter.Proofs.TraceRoundTrip
import NanAdapter.Proofs.Announcements
import NanAdapter.Proofs.Forwarding
import NanAdapter.Proofs.NegotiatedRevision
import NanAdapter.Proofs.OlderShapes
import NanAdapter.Proofs.PumpedReplay
import NanAdapter.Proofs.Introspection
import NanAdapter.Proofs.IndependentEvents
import NanAdapter.Proofs.EventDocuments
import NanAdapter.Proofs.ForwardedChannels
import NanAdapter.Proofs.SharedRevision
import NanAdapter.Proofs.MemberOrder
import NanAdapter.Proofs.WholeTexts
import NanAdapter.Proofs.Rearrangement
import NanAdapter.Proofs.CutNumbers
import NanAdapter.Proofs.CutStrings
import NanAdapter.Proofs.CutTokens
import NanAdapter.Proofs.CutTexts
import NanAdapter.Proofs.CutTraces
import NanAdapter.Proofs.RefusedPaths
import NanAdapter.Proofs.Observation
import NanAdapter.Proofs.FailedWrites
import NanAdapter.Proofs.LeadingFlags
import NanAdapter.Proofs.PrintedLines
import NanAdapter.Proofs.ReplayProgram
import NanAdapter.Proofs.DefinedSuites
import NanAdapter.Proofs.ReportedSuites
import NanAdapter.Proofs.TranslatedMasks
import NanAdapter.Proofs.ArgumentLooks
import NanAdapter.Proofs.CommandGrammar
import NanAdapter.Proofs.GivenRevision
import NanAdapter.Proofs.RenderedTables
import NanAdapter.Proofs.LimitedOutputs
import NanAdapter.Proofs.Payloads
import NanAdapter.Proofs.EnvironmentReadings
import NanAdapter.Proofs.RevisionTexts
