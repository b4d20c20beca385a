import JobWatch.Text.Blank
import JobWatch.Text.DecimalDigit
import JobWatch.Text.Printable
import JobWatch.Text.Utf8
import JobWatch.Number.Shortest
import JobWatch.Value.Display
import JobWatch.Json.Octets
import JobWatch.Time.Wire
import JobWatch.Job.State
import JobWatch.Message.Order
import JobWatch.Sink
import JobWatch.Uri.Address
import JobWatch.Http.Session
import JobWatch.Tail
import JobWatch.WordCount.Arguments
import JobWatch.Main
import JobWatch.Proofs.Outcomes
import JobWatch.Proofs.StableSort
import JobWatch.Proofs.InstantOrder
import JobWatch.Proofs.PageWalk
import JobWatch.Proofs.PollTrace
import JobWatch.Proofs.ScriptFetch
import JobWatch.Proofs.PollingCompleteness
import JobWatch.Proofs.PollingSafety
import JobWatch.Proofs.DigitText
import JobWatch.Proofs.DigitOrder
import JobWatch.Proofs.CalendarOrder
import JobWatch.Proofs.StampGrammar
import JobWatch.Proofs.WireRoundTrip
import JobWatch.Proofs.WireNormalForm
import JobWatch.Proofs.WireOrder
import JobWatch.Proofs.MessageSort
import JobWatch.Proofs.WireFailure
import JobWatch.Proofs.Utf8RoundTrip
import JobWatch.Proofs.PercentRoundTrip
import JobWatch.Proofs.AddressParts
import JobWatch.Proofs.AddressNormal
import JobWatch.Proofs.ListingRequest
import JobWatch.Proofs.ListingFailures
import JobWatch.Proofs.HttpRefinement
import JobWatch.Proofs.PageCuts
import JobWatch.Proofs.RequestPath
import JobWatch.Proofs.JobLinks
import JobWatch.Proofs.PageDecoding
import JobWatch.Proofs.Interleaving
import JobWatch.Proofs.ConsoleText
import JobWatch.Proofs.TailPolls
import JobWatch.Proofs.TailOutput
import JobWatch.Proofs.TextPieces
import JobWatch.Proofs.SinkNotices
import JobWatch.Proofs.SinkAgreement
import JobWatch.Proofs.ConsoleLines
import JobWatch.Proofs.Utf8Validity
import JobWatch.Proofs.DiskLaws
import JobWatch.Proofs.WordRuns
import JobWatch.Proofs.WordGaps
import JobWatch.Proofs.WordTally
import JobWatch.Proofs.LineCuts
import JobWatch.Proofs.FileLines
import JobWatch.Proofs.WordTable
import JobWatch.Proofs.WordCountFiles
import JobWatch.Proofs.LaterCheckpoint
import JobWatch.Proofs.MillisCheckpoint
import JobWatch.Proofs.ZonedTimes
import JobWatch.Proofs.CanonicalOrder
import JobWatch.Proofs.ListingOutcomes
