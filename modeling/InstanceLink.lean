import InstanceLink.Key.Generation
import InstanceLink.Main
import InstanceLink.Proofs.Fetch.Combination
import InstanceLink.Proofs.Fetch.Progress
import InstanceLink.Registry.Executors
import InstanceLink.Tls.Properties
import InstanceLink.Proofs.Fetch.Joining
import InstanceLink.Proofs.Fetch.Schedule
import InstanceLink.Proofs.Fetch.Settling
import InstanceLink.Proofs.Fetch.Verdict
import InstanceLink.Proofs.Fetch.Delivery
import InstanceLink.Proofs.Fetch.Ending
import InstanceLink.Proofs.Fetch.Precedence
import InstanceLink.Proofs.Fetch.Isolation
import InstanceLink.Proofs.Fetch.Cancelling
import InstanceLink.Proofs.Fetch.Accepting
import InstanceLink.Proofs.Fetch.Deadline
import InstanceLink.Proofs.Fetch.Serving
import InstanceLink.Proofs.Fetch.Retrying
import InstanceLink.Proofs.Base64.Decoding
import InstanceLink.Proofs.Der.Contents
import InstanceLink.Proofs.Key.Block
import InstanceLink.Proofs.Instance.Grammar
import InstanceLink.Proofs.Config.Properties
import InstanceLink.Proofs.Tls.Connecting
import InstanceLink.Proofs.Tls.Releasing
import InstanceLink.Proofs.Number.Writing
import InstanceLink.Proofs.Fetch.Closing
import InstanceLink.Proofs.Console.Escaping
import InstanceLink.Proofs.Console.Fitting
import InstanceLink.Proofs.Console.Wrapping
import InstanceLink.Proofs.Console.FirstLine
import InstanceLink.Proofs.CommandLine.Planning
import InstanceLink.Proofs.CommandLine.Overriding
import InstanceLink.Proofs.CommandLine.Cleanup
import InstanceLink.Proofs.CommandLine.Outcome
import InstanceLink.Proofs.Fetch.Requesting
import InstanceLink.Proofs.Failure.Handling
import InstanceLink.Proofs.Certificate.Refusing
import InstanceLink.Proofs.Fetch.Addressing
import InstanceLink.Proofs.Instance.RoundTrip
import InstanceLink.Proofs.Base64.Strict
import InstanceLink.Proofs.Key.Grammar
import InstanceLink.Proofs.Der.Shortest
import InstanceLink.Proofs.Tls.Loading
import InstanceLink.Proofs.Tls.Contents
import InstanceLink.Proofs.Connection.Construction
import InstanceLink.Proofs.Config.Variables
import InstanceLink.Proofs.Json.Printing
import InstanceLink.Proofs.CommandLine.JsonOutput
import InstanceLink.Proofs.CommandLine.TableOutput
import InstanceLink.Proofs.Key.Layout
import InstanceLink.Proofs.Registry.Sharing
import InstanceLink.Proofs.Fetch.ClosingOnce
