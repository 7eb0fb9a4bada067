import RegistryGateway.Catalogue
import RegistryGateway.Client.Session
import RegistryGateway.Contract.Validation
import RegistryGateway.Http.Service
import RegistryGateway.Proofs.Duration
import RegistryGateway.Proofs.Execution
import RegistryGateway.Proofs.Exit
import RegistryGateway.Proofs.Envelope
import RegistryGateway.Proofs.Dispatch
import RegistryGateway.Proofs.Authority
import RegistryGateway.Proofs.Tracing
import RegistryGateway.Proofs.Order
import RegistryGateway.Proofs.Conformance
import RegistryGateway.Proofs.Admission
import RegistryGateway.Proofs.Strictness
import RegistryGateway.Proofs.Answering
import RegistryGateway.Proofs.Refusal
import RegistryGateway.Proofs.Comparison
import RegistryGateway.Proofs.NormalForm
import RegistryGateway.Proofs.Addressing
import RegistryGateway.Proofs.LastExecution
import RegistryGateway.Proofs.WireFormat
import RegistryGateway.Proofs.Unwrapping
import RegistryGateway.Proofs.ContextHeaders
import RegistryGateway.Proofs.Resolution
import RegistryGateway.Proofs.Host
import RegistryGateway.Proofs.Legibility
import RegistryGateway.Proofs.Echo
import RegistryGateway.Proofs.Identity
import RegistryGateway.Proofs.Observation
import RegistryGateway.Proofs.Transport
import RegistryGateway.Proofs.RequestPath
import RegistryGateway.Proofs.RequestQuery
import RegistryGateway.Proofs.Adaptation
import RegistryGateway.Proofs.DefaultHeaders
import RegistryGateway.Proofs.ErrorReply
import RegistryGateway.Proofs.Listing
import RegistryGateway.Proofs.SearchQuery
import RegistryGateway.Proofs.Submission
import RegistryGateway.Proofs.KeyCheck
import RegistryGateway.Proofs.FirstMisfit
import RegistryGateway.Proofs.FirstInvalid
import RegistryGateway.Proofs.Registration
import RegistryGateway.Proofs.LaxInteger
import RegistryGateway.Proofs.Retention
import RegistryGateway.Proofs.LetterCase
import RegistryGateway.Proofs.RequestForm
import RegistryGateway.Proofs.RepeatedHeaders
import RegistryGateway.Proofs.SinkRecords
import RegistryGateway.Proofs.SummaryLine
import RegistryGateway.Proofs.Environment
import RegistryGateway.Proofs.Convergence
