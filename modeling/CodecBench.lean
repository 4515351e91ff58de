import CodecBench.Main
import CodecBench.Outcome
import CodecBench.Proofs.Category
import CodecBench.Proofs.Pairing
import CodecBench.Proofs.Ratio
import CodecBench.Proofs.Verdict
import CodecBench.Proofs.Grid
import CodecBench.Proofs.Comparison
import CodecBench.Proofs.Diagnostics
import CodecBench.Proofs.RunLabel
import CodecBench.Proofs.VariantOrder
import CodecBench.Proofs.Standing
import CodecBench.Proofs.Isolation
import CodecBench.Proofs.Overall
import CodecBench.Proofs.Cells
import CodecBench.Proofs.Reordering
import CodecBench.Proofs.ChartFolder
import CodecBench.Proofs.Provenance
import CodecBench.Proofs.Rounding
import CodecBench.Proofs.Underflow
import CodecBench.Proofs.Counting
import CodecBench.Proofs.Agreement
import CodecBench.Proofs.Exclusion
import CodecBench.Proofs.CommandLine
import CodecBench.Proofs.Disk
import CodecBench.Proofs.Printing
import CodecBench.Proofs.ChartValue
import CodecBench.Proofs.ChartStore
import CodecBench.Proofs.Emission
import CodecBench.Proofs.Overflow
import CodecBench.Proofs.Absence
import CodecBench.Proofs.Sorting
import CodecBench.Proofs.Diagnosis
import CodecBench.Proofs.Grammar
import CodecBench.Proofs.Splitting
import CodecBench.Proofs.Accounting
import CodecBench.Proofs.Outcome
import CodecBench.Proofs.Document
import CodecBench.Proofs.Relating
import CodecBench.Proofs.Tally
import CodecBench.Proofs.Coverage
import CodecBench.Proofs.Replicas
import CodecBench.Proofs.Layout
import CodecBench.Proofs.Colouring
import CodecBench.Proofs.Rows
