import FilterQuery.Main
import FilterQuery.Query.Program
import FilterQuery.Proofs.Clause.Numeric
import FilterQuery.Proofs.Clause.Quoting
import FilterQuery.Proofs.Clause.Replay
import FilterQuery.Proofs.Clause.Surrounded
import FilterQuery.Proofs.CommandLine.Run
import FilterQuery.Proofs.Compact.Document
import FilterQuery.Proofs.File.Notation
import FilterQuery.Proofs.Fragment.Operation
import FilterQuery.Proofs.Json.Elementwise
import FilterQuery.Proofs.Json.Members
import FilterQuery.Proofs.Json.Reading
import FilterQuery.Proofs.Json.Sequence
import FilterQuery.Proofs.Number.Canonical
import FilterQuery.Proofs.Number.Conversion
import FilterQuery.Proofs.Number.Single
import FilterQuery.Proofs.Operator.Spelling
import FilterQuery.Proofs.Program.Flat
import FilterQuery.Proofs.Query.Agreement
import FilterQuery.Proofs.Query.Unambiguous
import FilterQuery.Proofs.Value.Classification
import FilterQuery.Proofs.Yaml.Comparison
