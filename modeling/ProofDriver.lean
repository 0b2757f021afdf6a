import ProofDriver.Bytes
import ProofDriver.Cbor
import ProofDriver.Cli.Command
import ProofDriver.Cli.Options
import ProofDriver.CountTable
import ProofDriver.Curve.Bn254
import ProofDriver.Delivery
import ProofDriver.Failure
import ProofDriver.FileSystem.Basic
import ProofDriver.FileSystem.Errno
import ProofDriver.FileSystem.Path
import ProofDriver.FileSystem.Save
import ProofDriver.Fixture
import ProofDriver.Guest
import ProofDriver.Hash.Sha256
import ProofDriver.Hash.Tagged
import ProofDriver.Hex
import ProofDriver.Journal
import ProofDriver.Json.Printer
import ProofDriver.Json.Reader
import ProofDriver.Main
import ProofDriver.Metering.Metered
import ProofDriver.Metering.Usage
import ProofDriver.Number
import ProofDriver.Number.Binary64
import ProofDriver.Number.Fixed
import ProofDriver.Number.Reading
import ProofDriver.Number.Shortest
import ProofDriver.Proof
import ProofDriver.Proofs.Bytes
import ProofDriver.Prover.Client
import ProofDriver.Prover.External
import ProofDriver.Prover.Host
import ProofDriver.Prover.Mock
import ProofDriver.Prover.Output
import ProofDriver.Prover.Select
import ProofDriver.PublicValues
import ProofDriver.Settings
import ProofDriver.Sorting.Adaptive
import ProofDriver.Sorting.Merge
import ProofDriver.Sorting.Search
import ProofDriver.Strategy
import ProofDriver.Text.Blank
import ProofDriver.Text.CodeString
import ProofDriver.Text.Digit
import ProofDriver.Text.Line
import ProofDriver.Text.LowerCase
import ProofDriver.Text.Printable
import ProofDriver.Text.Quoted
import ProofDriver.Text.Utf8
import ProofDriver.Value
import ProofDriver.World
import ProofDriver.Proofs.Act
import ProofDriver.Proofs.Cli.Prove
import ProofDriver.Proofs.FileSystem.Save
import ProofDriver.Proofs.Prover.Trace
import ProofDriver.Proofs.Strategy
import ProofDriver.Proofs.Delivery.Course
import ProofDriver.Proofs.Delivery.Discipline
import ProofDriver.Proofs.Delivery.Export
import ProofDriver.Proofs.Delivery.External
import ProofDriver.Proofs.Delivery.Marker
import ProofDriver.Proofs.Delivery.Meters
import ProofDriver.Proofs.Delivery.Mock
import ProofDriver.Proofs.Delivery.Modes
import ProofDriver.Proofs.Delivery.Recheck
import ProofDriver.Proofs.Delivery.Requested
import ProofDriver.Proofs.Delivery.Session
import ProofDriver.Proofs.FileSystem.Concurrent
import ProofDriver.Proofs.FileSystem.Refusals
import ProofDriver.Proofs.Prover.Errors
import ProofDriver.Proofs.Prover.Flaws
import ProofDriver.Proofs.Prover.KeyCache
import ProofDriver.Proofs.Delivery.Errors
import ProofDriver.Proofs.FileSystem.Traceless
import ProofDriver.Proofs.Fixture.Acceptance
import ProofDriver.Proofs.Delivery.RoundTrip
import ProofDriver.Proofs.Hex.Acceptance
import ProofDriver.Proofs.Fixture.Encoding
import ProofDriver.Proofs.Prover.Exits
import ProofDriver.Proofs.Prover.Reports
import ProofDriver.Proofs.Delivery.Arbitrary
import ProofDriver.Proofs.Delivery.Guard
import ProofDriver.Proofs.Delivery.Notes
import ProofDriver.Proofs.Cli.Launch
import ProofDriver.Proofs.Cbor.Reading
import ProofDriver.Proofs.Prover.Envelope
import ProofDriver.Proofs.Prover.Wrapping
import ProofDriver.Proofs.Settings.Resolution
import ProofDriver.Proofs.Prover.Progress
import ProofDriver.Proofs.CountTable.Lines
