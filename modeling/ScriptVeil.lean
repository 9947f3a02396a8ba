import ScriptVeil.Main
import ScriptVeil.Proofs.Masking.KeyPlace
import ScriptVeil.Proofs.Masking.Renaming
import ScriptVeil.Proofs.Masking.Independent
import ScriptVeil.Proofs.Masking.Agreement
import ScriptVeil.Proofs.ByteOrderMark
import ScriptVeil.Proofs.CommandLine.Run
import ScriptVeil.Proofs.Literal.Encoding
import ScriptVeil.Proofs.Literal.Exact
import ScriptVeil.Proofs.Masking.Splice
import ScriptVeil.Proofs.Masking.LiteralAgreement
import ScriptVeil.Proofs.Masking.LiteralValue
import ScriptVeil.Proofs.Masking.Found
import ScriptVeil.Proofs.Masking.Gaps
import ScriptVeil.Proofs.Masking.Labels
import ScriptVeil.Proofs.Masking.Layout
import ScriptVeil.Proofs.Masking.DeclaredWord
import ScriptVeil.Proofs.Masking.Ranged
import ScriptVeil.Proofs.Script.Reached
import ScriptVeil.Proofs.Masking.Erasure
import ScriptVeil.Proofs.Masking.RunByRun
import ScriptVeil.Proofs.Mask.Rejection
import ScriptVeil.Proofs.Mask.Uniform
import ScriptVeil.Proofs.Masking.RenameMap
import ScriptVeil.Proofs.Masking.PlanStability
