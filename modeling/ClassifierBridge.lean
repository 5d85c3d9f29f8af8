import ClassifierBridge.Decimal.Layout
import ClassifierBridge.Json.Number
import ClassifierBridge.Json.StringBody
import ClassifierBridge.Json.Value
import ClassifierBridge.Json.Document
import ClassifierBridge.Settings.Basic
import ClassifierBridge.Settings.Reader
import ClassifierBridge.Settings.Writer
import ClassifierBridge.Classification
import ClassifierBridge.Classifier
import ClassifierBridge.Log.Filter
import ClassifierBridge.Registry.Basic
import ClassifierBridge.Host.Reply
import ClassifierBridge.Host.Session
import ClassifierBridge.Engines.Brightness
import ClassifierBridge.Engines.Echo
import ClassifierBridge.Engines.Sample
import ClassifierBridge.Owner
import ClassifierBridge.Registry.Holder
import ClassifierBridge.Proofs.Registry.Exclusive
import ClassifierBridge.Proofs.Registry.Ownership
import ClassifierBridge.Proofs.Host.Run
import ClassifierBridge.Proofs.Host.Reply
import ClassifierBridge.Proofs.Host.Handles
import ClassifierBridge.Proofs.Host.Isolation
import ClassifierBridge.Proofs.Json.Grammar
import ClassifierBridge.Proofs.Json.Number
import ClassifierBridge.Proofs.Json.StringBody
import ClassifierBridge.Proofs.Json.Value
import ClassifierBridge.Proofs.Json.Items
import ClassifierBridge.Proofs.Settings.HostShape
import ClassifierBridge.Proofs.Settings.Reader
import ClassifierBridge.Proofs.Binary.Rounding
import ClassifierBridge.Proofs.Decimal.Shortest
import ClassifierBridge.Proofs.Decimal.Layout
import ClassifierBridge.Proofs.Json.Scale
import ClassifierBridge.Proofs.Json.Document
import ClassifierBridge.Proofs.Settings.RoundTrip
import ClassifierBridge.Proofs.Binary.Midpoint
import ClassifierBridge.Proofs.Decimal.ReadBack
import ClassifierBridge.Proofs.Decimal.CloseCalls
import ClassifierBridge.Proofs.Json.Reading
import ClassifierBridge.Proofs.Json.Written
import ClassifierBridge.Proofs.Json.ReadBack
import ClassifierBridge.Proofs.Settings.Threshold
import ClassifierBridge.Proofs.Text.Utf8
import ClassifierBridge.Proofs.Host.Answer
import ClassifierBridge.Proofs.Host.Deletion
import ClassifierBridge.Proofs.Host.Panic
import ClassifierBridge.Proofs.Registry.Lifetime
import ClassifierBridge.Proofs.Host.Events
import ClassifierBridge.Proofs.Host.Discretion
import ClassifierBridge.Proofs.Host.Record
import ClassifierBridge.Proofs.Host.Verdict
import ClassifierBridge.Proofs.Host.Asked
import ClassifierBridge.Proofs.Host.Settings
import ClassifierBridge.Proofs.Host.Entries
import ClassifierBridge.Proofs.Host.Init
import ClassifierBridge.Proofs.Host.Classify
import ClassifierBridge.Proofs.Json.Unambiguous
import ClassifierBridge.Proofs.Settings.ListForm
import ClassifierBridge.Proofs.Settings.EngineText
import ClassifierBridge.Proofs.Json.Range
import ClassifierBridge.Proofs.Settings.Range
import ClassifierBridge.Proofs.Frame.Addressing
import ClassifierBridge.Proofs.Frame.Tiling
