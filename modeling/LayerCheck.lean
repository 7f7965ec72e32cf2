import LayerCheck.Main
import LayerCheck.Proofs.Exactness
import LayerCheck.Proofs.Inertness
import LayerCheck.Proofs.Rearrangement
import LayerCheck.Proofs.Selection
import LayerCheck.Proofs.History
import LayerCheck.Proofs.Universe
import LayerCheck.Proofs.Validation
import LayerCheck.Proofs.Faults
import LayerCheck.Proofs.Writing
import LayerCheck.Proofs.Command
import LayerCheck.Proofs.Streaming
import LayerCheck.Proofs.ByteOrder
import LayerCheck.Proofs.Enumeration
import LayerCheck.Proofs.Glob
import LayerCheck.Proofs.Directories
import LayerCheck.Proofs.Outline
import LayerCheck.Proofs.Qualification
import LayerCheck.Proofs.TextOrder
import LayerCheck.Proofs.Variables
import LayerCheck.Proofs.Loads
import LayerCheck.Proofs.Redundancy
import LayerCheck.Proofs.ImportGrammar
import LayerCheck.Proofs.ImportStatements
import LayerCheck.Proofs.Identifiers
import LayerCheck.Proofs.ImportAgreement
import LayerCheck.Proofs.Anchoring
import LayerCheck.Proofs.Inheritance
import LayerCheck.Proofs.Probes
import LayerCheck.Proofs.BareTokens
import LayerCheck.Proofs.BareExpressions
import LayerCheck.Proofs.BareStatements
import LayerCheck.Proofs.Relaxation
import LayerCheck.Proofs.NormalForm
import LayerCheck.Proofs.Problems
import LayerCheck.Proofs.Json
import LayerCheck.Proofs.JsonReport
import LayerCheck.Proofs.Representatives
import LayerCheck.Proofs.HtmlReport
import LayerCheck.Proofs.PathOrder
import LayerCheck.Proofs.TextReport
