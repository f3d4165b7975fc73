import AwsKmsDemo.Interaction.Program
import AwsKmsDemo.Interaction.Unwinding
import AwsKmsDemo.Interaction.Ensures
import AwsKmsDemo.Interaction.Eventually
import AwsKmsDemo.Interaction.Oracle
import AwsKmsDemo.Interaction.Worlds
import AwsKmsDemo.Interaction.Twins
import AwsKmsDemo.Interaction.Service
import AwsKmsDemo.Interaction.Solo
import AwsKmsDemo.Interaction.Handlers
import AwsKmsDemo.Interaction.Likeness
import AwsKmsDemo.Json.Render
import AwsKmsDemo.Json.Length
import AwsKmsDemo.Json.Parse
import AwsKmsDemo.Stream.Reader
import AwsKmsDemo.Stream.Socket
import AwsKmsDemo.Stream.Flow
import AwsKmsDemo.Storage.WriteOnce
import AwsKmsDemo.Text.Pieces
import AwsKmsDemo.Text.Trim
import AwsKmsDemo.Text.Paths
import AwsKmsDemo.Memory.Ledger
import AwsKmsDemo.Types
import AwsKmsDemo.Serde
import AwsKmsDemo.Deserialize
import AwsKmsDemo.Crates
import AwsKmsDemo.Debug
import AwsKmsDemo.Crypto.Sha2
import AwsKmsDemo.Crypto.AesGcm
import AwsKmsDemo.Crypto.Base64
import AwsKmsDemo.Crypto.Ed25519
import AwsKmsDemo.Reference
import AwsKmsDemo.Framing
import AwsKmsDemo.S3
import AwsKmsDemo.Retries
import AwsKmsDemo.Broker
import AwsKmsDemo.BrokerRuns
import AwsKmsDemo.Settings
import AwsKmsDemo.Enclave
import AwsKmsDemo.DataKeys
import AwsKmsDemo.Shim
import AwsKmsDemo.ShimWorld
import AwsKmsDemo.Native
import AwsKmsDemo.Exchange
import AwsKmsDemo.KeyMaterial
import AwsKmsDemo.Startup
import AwsKmsDemo.Restore
import AwsKmsDemo.Stored
import AwsKmsDemo.Initialize
import AwsKmsDemo.Names
import AwsKmsDemo.Contexts
import AwsKmsDemo.Delivery
import AwsKmsDemo.Sizes
import AwsKmsDemo.Replies
import AwsKmsDemo.RoundTrip
import AwsKmsDemo.Gating
import AwsKmsDemo.System
import AwsKmsDemo.Commit
import AwsKmsDemo.Alone
import AwsKmsDemo.Faultless
import AwsKmsDemo.Recovery
import AwsKmsDemo.Writers
import AwsKmsDemo.Absence
import AwsKmsDemo.Fallback
import AwsKmsDemo.AnyOne
import AwsKmsDemo.Binding
import AwsKmsDemo.Disclosure
import AwsKmsDemo.Deployments
import AwsKmsDemo.Guarantees
import AwsKmsDemo.Targets
import AwsKmsDemo.BrokerStart
import AwsKmsDemo.Slots
import AwsKmsDemo.Processes
import AwsKmsDemo.Agreement
import AwsKmsDemo.Lifecycle
import AwsKmsDemo.Operation
import AwsKmsDemo.Sockets
import AwsKmsDemo.Transport
import AwsKmsDemo.Foresight
import AwsKmsDemo.Refinement
import AwsKmsDemo.Session
import AwsKmsDemo.SessionRuns
import AwsKmsDemo.EnclaveShim
import AwsKmsDemo.Secrecy
