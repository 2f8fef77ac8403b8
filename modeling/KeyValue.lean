import KeyValue.Environment
import KeyValue.Pipeline
import KeyValue.Delivery
import KeyValue.Proofs.Pipeline.Outcome
import KeyValue.Proofs.Pipeline.CallOrder
import KeyValue.Proofs.EntryList.FirstFailure
import KeyValue.Proofs.Text.Encoding
import KeyValue.Proofs.Text.LossyDecoding
import KeyValue.Proofs.EntryList.RoundTrip
import KeyValue.Proofs.Environment.Decoding
import KeyValue.Proofs.Table.LastValue
import KeyValue.Proofs.EntryList.Leniency
import KeyValue.Proofs.Environment.Report
import KeyValue.Proofs.Pipeline.Fusion
import KeyValue.Proofs.Callback.Stopping
import KeyValue.Proofs.Pipeline.Nested
import KeyValue.Proofs.Listing.Enumeration
import KeyValue.Proofs.Source.Agreement
import KeyValue.Proofs.Callback.MappedErrors
import KeyValue.Proofs.Source.Concatenation
import KeyValue.Proofs.Pipeline.ErrorMapping
import KeyValue.Proofs.Table.Lookup
import KeyValue.Proofs.Text.Message
import KeyValue.Proofs.Table.Independence
import KeyValue.Proofs.FlatPairs.RoundTrip
import KeyValue.Proofs.Text.ByteSearch
import KeyValue.Proofs.Listing.Lookups
import KeyValue.Proofs.EntryList.Adjustments
import KeyValue.Proofs.Text.PrintableLine
