import BenchSuite.Archive
import BenchSuite.Clock
import BenchSuite.Command
import BenchSuite.Command.Args
import BenchSuite.Command.Perform
import BenchSuite.Command.Table
import BenchSuite.Config
import BenchSuite.Config.File
import BenchSuite.Config.Reader
import BenchSuite.Decimal.Binary
import BenchSuite.Decimal.Fixed
import BenchSuite.Decimal.Numeral
import BenchSuite.Decimal.Shortest
import BenchSuite.Error
import BenchSuite.Fault
import BenchSuite.Files.Error
import BenchSuite.Files.Path
import BenchSuite.Files.System
import BenchSuite.Files.Tree
import BenchSuite.Harness
import BenchSuite.Harness.Script
import BenchSuite.Harness.Workload
import BenchSuite.Host
import BenchSuite.Json.Number
import BenchSuite.Json.Printer
import BenchSuite.Json.Reader
import BenchSuite.Json.Value
import BenchSuite.Kernel
import BenchSuite.Kernel.Biquad
import BenchSuite.Kernel.Bounce
import BenchSuite.Kernel.Crc
import BenchSuite.Kernel.Mandelbrot
import BenchSuite.Kernel.NBody
import BenchSuite.Kernel.Permute
import BenchSuite.Kernel.Queens
import BenchSuite.Kernel.Random
import BenchSuite.Kernel.Sha256
import BenchSuite.Kernel.Sieve
import BenchSuite.Kernel.Storage
import BenchSuite.Kernel.Takeuchi
import BenchSuite.Kernel.Towers
import BenchSuite.Log
import BenchSuite.Machine
import BenchSuite.Main
import BenchSuite.Outcome
import BenchSuite.Plan
import BenchSuite.Proofs.Archive.Apart
import BenchSuite.Proofs.Archive.Lasting
import BenchSuite.Proofs.Archive.Listing
import BenchSuite.Proofs.Archive.Loading
import BenchSuite.Proofs.Archive.Saving
import BenchSuite.Proofs.Archive.Times
import BenchSuite.Proofs.Bounce.Alone
import BenchSuite.Proofs.Bounce.Box
import BenchSuite.Proofs.Bounce.Spacing
import BenchSuite.Proofs.Command.Agreement
import BenchSuite.Proofs.Command.Lines
import BenchSuite.Proofs.Command.Planning
import BenchSuite.Proofs.Command.Reporting
import BenchSuite.Proofs.Command.Suite
import BenchSuite.Proofs.Config.Accepted
import BenchSuite.Proofs.Config.FirstFault
import BenchSuite.Proofs.Counter
import BenchSuite.Proofs.Crc.Burst
import BenchSuite.Proofs.Crc.Linear
import BenchSuite.Proofs.Crc.Register
import BenchSuite.Proofs.Decimal.Canonical
import BenchSuite.Proofs.Decimal.Digits
import BenchSuite.Proofs.Decimal.Nearest
import BenchSuite.Proofs.Decimal.Products
import BenchSuite.Proofs.Decimal.Rounding
import BenchSuite.Proofs.Decimal.Search
import BenchSuite.Proofs.Decimal.Sizes
import BenchSuite.Proofs.Decimal.Words
import BenchSuite.Proofs.Files.Directory
import BenchSuite.Proofs.Files.Entries
import BenchSuite.Proofs.Files.Keeping
import BenchSuite.Proofs.Files.Making
import BenchSuite.Proofs.Files.Places
import BenchSuite.Proofs.Harness.Protocol
import BenchSuite.Proofs.Harness.Records
import BenchSuite.Proofs.Harness.Run
import BenchSuite.Proofs.Json.Decimals
import BenchSuite.Proofs.Json.Members
import BenchSuite.Proofs.Json.Numerals
import BenchSuite.Proofs.Json.Quoting
import BenchSuite.Proofs.Json.Readable
import BenchSuite.Proofs.Json.Reading
import BenchSuite.Proofs.Keyed
import BenchSuite.Proofs.Machine.Commands
import BenchSuite.Proofs.Machine.Running
import BenchSuite.Proofs.Mandelbrot.Packing
import BenchSuite.Proofs.NBody.Steps
import BenchSuite.Proofs.Permute.Calls
import BenchSuite.Proofs.Permute.Rearrangements
import BenchSuite.Proofs.Plan.Checks
import BenchSuite.Proofs.Plan.Decoding
import BenchSuite.Proofs.Queens.Board
import BenchSuite.Proofs.Queens.Calls
import BenchSuite.Proofs.Queens.Search
import BenchSuite.Proofs.Random.Stream
import BenchSuite.Proofs.Registry.Applying
import BenchSuite.Proofs.Registry.Calls
import BenchSuite.Proofs.Registry.Combining
import BenchSuite.Proofs.Registry.Lookup
import BenchSuite.Proofs.Registry.Positions
import BenchSuite.Proofs.Registry.Selectors
import BenchSuite.Proofs.Report.Comparing
import BenchSuite.Proofs.Report.Durations
import BenchSuite.Proofs.Report.Reading
import BenchSuite.Proofs.Sha256.Compression
import BenchSuite.Proofs.Sha256.Intake
import BenchSuite.Proofs.Sha256.Padding
import BenchSuite.Proofs.Sha256.Room
import BenchSuite.Proofs.Sha256.Streaming
import BenchSuite.Proofs.Sha256.Unambiguous
import BenchSuite.Proofs.Sieve.Primes
import BenchSuite.Proofs.Sieve.Scan
import BenchSuite.Proofs.Sieve.Settled
import BenchSuite.Proofs.Storage.Perfect
import BenchSuite.Proofs.Table.Cells
import BenchSuite.Proofs.Table.Shape
import BenchSuite.Proofs.Takeuchi.Arena
import BenchSuite.Proofs.Takeuchi.ClosedForm
import BenchSuite.Proofs.Takeuchi.Tail
import BenchSuite.Proofs.Takeuchi.Walks
import BenchSuite.Proofs.Timestamp.Calendar
import BenchSuite.Proofs.Timestamp.FileStamp
import BenchSuite.Proofs.Timestamp.Naming
import BenchSuite.Proofs.Timestamp.RoundTrip
import BenchSuite.Proofs.Towers.Building
import BenchSuite.Proofs.Towers.Disks
import BenchSuite.Proofs.Towers.Moving
import BenchSuite.Proofs.Towers.Piles
import BenchSuite.Proofs.Towers.Steps
import BenchSuite.Registry
import BenchSuite.Report
import BenchSuite.Report.Json
import BenchSuite.Sample
import BenchSuite.Text.Blank
import BenchSuite.Text.Digits
import BenchSuite.Timestamp
import BenchSuite.Timestamp.Printer
import BenchSuite.Timestamp.Reader
import BenchSuite.Workload
import BenchSuite.Yaml.Cursor
import BenchSuite.Yaml.Node
import BenchSuite.Yaml.Node.Reader
import BenchSuite.Yaml.Problem
import BenchSuite.Yaml.Schema
import BenchSuite.Yaml.Token
import BenchSuite.Yaml.Token.Name
import BenchSuite.Yaml.Token.Scalar
import BenchSuite.Yaml.Token.Scanner
