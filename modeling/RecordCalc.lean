import RecordCalc.Dependency.Formulas
import RecordCalc.Engine.Basic
import RecordCalc.Log.Output
import RecordCalc.Operator.BuiltIn
import RecordCalc.Pipeline.Chain
import RecordCalc.Pipeline.Trace
import RecordCalc.Proofs.Cache.Inclusion
import RecordCalc.Proofs.Cache.Recency
import RecordCalc.Proofs.Dependency.Distance
import RecordCalc.Proofs.Engine.Failures
import RecordCalc.Proofs.Engine.References
import RecordCalc.Proofs.Evaluation.Arguments
import RecordCalc.Proofs.Evaluation.Certainty
import RecordCalc.Proofs.Evaluation.Containment
import RecordCalc.Proofs.Evaluation.Dispatch
import RecordCalc.Proofs.Evaluation.Duality
import RecordCalc.Proofs.Evaluation.Inlining
import RecordCalc.Proofs.Evaluation.Named
import RecordCalc.Proofs.Evaluation.Recalculation
import RecordCalc.Proofs.Evaluation.ShortCircuit
import RecordCalc.Proofs.Evaluation.ThreeValued
import RecordCalc.Proofs.Formula.LeadingSign
import RecordCalc.Proofs.Formula.Offence
import RecordCalc.Proofs.Formula.Printing
import RecordCalc.Proofs.Formula.Unclosed
import RecordCalc.Proofs.Number.NotANumber
import RecordCalc.Proofs.Operator.Counts
import RecordCalc.Proofs.Operator.DateShift
import RecordCalc.Proofs.Operator.DecimalPlaces
import RecordCalc.Proofs.Operator.Distinct
import RecordCalc.Proofs.Operator.Extremes
import RecordCalc.Proofs.Operator.Multiples
import RecordCalc.Proofs.Operator.Outputs
import RecordCalc.Proofs.Operator.Sessions
import RecordCalc.Proofs.Operator.Slices
import RecordCalc.Proofs.Operator.Substitution
import RecordCalc.Proofs.Operator.Totality
import RecordCalc.Proofs.Pipeline.Composed
import RecordCalc.Proofs.Pipeline.Failures
import RecordCalc.Proofs.Value.Coercion
import RecordCalc.Proofs.Value.Conversion
import RecordCalc.Proofs.Value.DateText
import RecordCalc.Proofs.Value.Dominance
import RecordCalc.Proofs.Value.IntegerText
import RecordCalc.Report
import RecordCalc.Settings.Load
