import SpireEnroll.Decimal.Shortest
import SpireEnroll.Decimal.Layout
import SpireEnroll.Duration
import SpireEnroll.Text.Literal
import SpireEnroll.Text.Numeral
import SpireEnroll.Value.Basic
import SpireEnroll.Value.Json
import SpireEnroll.Codec.Base64
import SpireEnroll.Error
import SpireEnroll.Settings
import SpireEnroll.Deadline
import SpireEnroll.Identity
import SpireEnroll.Lifecycle
import SpireEnroll.Cluster.Context
import SpireEnroll.Registry.Request
import SpireEnroll.Metrics
import SpireEnroll.Handler
import SpireEnroll.Text.Utf8
import SpireEnroll.Yaml.Mark
import SpireEnroll.Yaml.Token
import SpireEnroll.Yaml.Reader
import SpireEnroll.Yaml.Scalar
import SpireEnroll.Yaml.Scanner
import SpireEnroll.Yaml.Parser
import SpireEnroll.Codec.Inflate
import SpireEnroll.Text.Charset
import SpireEnroll.Text.CodePages
import SpireEnroll.Text.CodeSet
import SpireEnroll.Text.Lowercase
import SpireEnroll.Text.Direction
import SpireEnroll.Text.Normalization
import SpireEnroll.Hostname.Permitted
import SpireEnroll.Text.Joining
import SpireEnroll.Hostname.Idna
import SpireEnroll.Hostname.Punycode
import SpireEnroll.Http.Url
import SpireEnroll.Http.Response
import SpireEnroll.Registry.Client
import SpireEnroll.Cluster.Objects
import SpireEnroll.Cluster.Store
import SpireEnroll.Reconciler.Outside
import SpireEnroll.Reconciler.Lookup
import SpireEnroll.Reconciler.Basic
import SpireEnroll.Reconciler.Trace
import SpireEnroll.World
import SpireEnroll.Proofs.Traces
import SpireEnroll.Proofs.Calls
import SpireEnroll.Proofs.Writes
import SpireEnroll.Proofs.Plan
import SpireEnroll.Proofs.Concurrent
import SpireEnroll.Proofs.Finalizers
import SpireEnroll.Proofs.Idempotence
import SpireEnroll.Proofs.Timeouts
import SpireEnroll.Proofs.Deadlines
import SpireEnroll.Proofs.Registry
import SpireEnroll.Proofs.Requests
import SpireEnroll.Proofs.Handlers
import SpireEnroll.Proofs.Base64
import SpireEnroll.Proofs.Numeral
import SpireEnroll.Proofs.YamlReading
import SpireEnroll.Proofs.YamlTokens
import SpireEnroll.Proofs.YamlEvents
import SpireEnroll.Proofs.YamlDocument
import SpireEnroll.Proofs.ClusterName
