import TopicLifecycle.Text.Blank
import TopicLifecycle.Text.Ranges
import TopicLifecycle.Text.Case
import TopicLifecycle.Text.Quoted
import TopicLifecycle.Text.Debug
import TopicLifecycle.Binary64.Basic
import TopicLifecycle.Binary64.Round
import TopicLifecycle.Binary64.Shortest
import TopicLifecycle.Binary64.Decimal
import TopicLifecycle.Duration.Basic
import TopicLifecycle.Duration.Human
import TopicLifecycle.Json.Value
import TopicLifecycle.Json.Write
import TopicLifecycle.Json.Malformed
import TopicLifecycle.Json.Cursor
import TopicLifecycle.Json.Scan
import TopicLifecycle.Json.Read
import TopicLifecycle.Decode.Error
import TopicLifecycle.Decode.Shape
import TopicLifecycle.Decode.Tree
import TopicLifecycle.Decode.Environment
import TopicLifecycle.Decode.Text
import TopicLifecycle.Settings.Mechanism
import TopicLifecycle.Settings.Issue
import TopicLifecycle.Settings.Client
import TopicLifecycle.Settings.Finalize
import TopicLifecycle.Settings.Manager
import TopicLifecycle.Settings.Debug
import TopicLifecycle.Settings.Serialize
import TopicLifecycle.Settings.Library
import TopicLifecycle.ClientLibrary.Property
import TopicLifecycle.ClientLibrary.Number
import TopicLifecycle.ClientLibrary.Pattern
import TopicLifecycle.ClientLibrary.Configure
import TopicLifecycle.ClientLibrary.Create
import TopicLifecycle.Broker.Code
import TopicLifecycle.Broker.Outcome
import TopicLifecycle.Broker.Reconcile
import TopicLifecycle.Broker.Failure
import TopicLifecycle.Tracing.Sampling
import TopicLifecycle.Manager.Observe
import TopicLifecycle.Manager.Delete
import TopicLifecycle.Manager.Session
import TopicLifecycle.Admin.Scripted
import TopicLifecycle.Proofs.Reconcile
import TopicLifecycle.Proofs.Delete
import TopicLifecycle.Proofs.ExactlyOnce
import TopicLifecycle.Proofs.BrokerList
import TopicLifecycle.Proofs.Finalize
import TopicLifecycle.Proofs.Issues
import TopicLifecycle.Proofs.Environment
import TopicLifecycle.Proofs.Session
import TopicLifecycle.Proofs.Decode
import TopicLifecycle.Proofs.Document
import TopicLifecycle.Proofs.Flatten
import TopicLifecycle.Proofs.Variables
import TopicLifecycle.Proofs.Mechanism
import TopicLifecycle.Proofs.Properties
import TopicLifecycle.Proofs.Library
import TopicLifecycle.Proofs.Scalar
import TopicLifecycle.Proofs.Redaction
import TopicLifecycle.Proofs.Bootstrap
