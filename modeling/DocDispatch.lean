import DocDispatch.Action
import DocDispatch.CommandLine.Run
import DocDispatch.Descriptor.Codec
import DocDispatch.Descriptor.Reader
import DocDispatch.Dispatch.Session
import DocDispatch.Filter.Codec
import DocDispatch.Filter.Parser
import DocDispatch.Json.Pointer
import DocDispatch.Json.Printer
import DocDispatch.Json.Reader
import DocDispatch.Main
import DocDispatch.Reference.Codec
import DocDispatch.Replay.Log
import DocDispatch.Schema.Normalize
import DocDispatch.Snapshot.Codec
import DocDispatch.Store.Scripted
import DocDispatch.Text.Quoted
import DocDispatch.Proofs.Descriptor.Compiling
import DocDispatch.Proofs.Descriptor.Reading
import DocDispatch.Proofs.Store.Audit
import DocDispatch.Proofs.Store.Order
import DocDispatch.Proofs.Store.Children
import DocDispatch.Proofs.Store.Convergence
import DocDispatch.Proofs.Store.Chronicle
import DocDispatch.Proofs.Store.Removal
import DocDispatch.Proofs.Store.Registration
import DocDispatch.Proofs.Store.Orphans
import DocDispatch.Proofs.Store.Exhaustion
import DocDispatch.Proofs.Dispatch.Deeds
import DocDispatch.Proofs.Dispatch.Lifecycle
import DocDispatch.Proofs.Dispatch.Operating
import DocDispatch.Proofs.Dispatch.Recording
import DocDispatch.Proofs.Replay.Log
import DocDispatch.Proofs.Store.Atomicity
import DocDispatch.Proofs.Assoc
import DocDispatch.Proofs.Store.Matching
import DocDispatch.Proofs.Schema.Collection
import DocDispatch.Proofs.Store.Shapes
import DocDispatch.Proofs.Dispatch.Content
import DocDispatch.Proofs.Descriptor.Method
import DocDispatch.Proofs.Dispatch.Agreement
import DocDispatch.Proofs.Json.ReadBack
import DocDispatch.Proofs.RoundTrip
import DocDispatch.Proofs.Dispatch.Marker
import DocDispatch.Proofs.Dispatch.Breakage
import DocDispatch.Proofs.Reference.Location
import DocDispatch.Proofs.Store.Visibility
import DocDispatch.Proofs.FieldPath.Write
import DocDispatch.Proofs.FieldPath.Update
import DocDispatch.Proofs.Store.Updating
import DocDispatch.Proofs.Store.Scan
import DocDispatch.Proofs.Reference.Tag
import DocDispatch.Proofs.Binary64.Integers
import DocDispatch.Proofs.Binary64.Decimal
import DocDispatch.Proofs.Text.Words
import DocDispatch.Proofs.Filter.Numeral
import DocDispatch.Proofs.Filter.Coercion
import DocDispatch.Proofs.Filter.Canonical
import DocDispatch.Proofs.Filter.Comparison
import DocDispatch.Proofs.Schema.Filing
import DocDispatch.Proofs.Descriptor.Lossless
import DocDispatch.Proofs.Store.Adding
import DocDispatch.Proofs.Descriptor.Editing
import DocDispatch.Proofs.Descriptor.Rules
import DocDispatch.Proofs.Descriptor.FirstFault
