import ContractLowering.CommandLine.Run
import ContractLowering.Main
import ContractLowering.Session
import ContractLowering.Proofs.Lowering.Node
import ContractLowering.Proofs.Lowering.Outcome
import ContractLowering.Proofs.Lowering.Accounting
import ContractLowering.Proofs.Lowering.Pruning
import ContractLowering.Proofs.Json.Tree
import ContractLowering.Proofs.Json.Written
import ContractLowering.Proofs.Json.Decoder
import ContractLowering.Proofs.Target.Decoder
import ContractLowering.Proofs.Lowering.Canonical
import ContractLowering.Proofs.Decimal.Value
import ContractLowering.Proofs.Source.Rejection
import ContractLowering.Proofs.Lowering.Inference
import ContractLowering.Proofs.Source.Variable
import ContractLowering.Proofs.Lowering.Declarator
import ContractLowering.Proofs.Lowering.TypeSlot
import ContractLowering.Proofs.Lowering.WellFormed
import ContractLowering.Proofs.Lowering.Draft
import ContractLowering.Proofs.Lowering.Lookup
import ContractLowering.Proofs.Lowering.Concatenation
import ContractLowering.Proofs.Lowering.Independence
import ContractLowering.Proofs.Lowering.Monotone
import ContractLowering.Proofs.Schema.Supply
import ContractLowering.Proofs.Lowering.Completion
import ContractLowering.Proofs.Source.Agreement
import ContractLowering.Proofs.Source.Likeness
import ContractLowering.Proofs.Source.Relevance
import ContractLowering.Proofs.Lowering.Names
import ContractLowering.Proofs.Lowering.Correspondence
import ContractLowering.Proofs.Lowering.Renaming
import ContractLowering.Proofs.Lowering.Relevance
import ContractLowering.Proofs.Lowering.Respelling
import ContractLowering.Proofs.Json.Numeral
import ContractLowering.Proofs.Json.Spelling
import ContractLowering.Proofs.Source.Document
import ContractLowering.Proofs.Lowering.Statement
import ContractLowering.Proofs.Lowering.Function
import ContractLowering.Proofs.CommandLine.Directory
import ContractLowering.Proofs.CommandLine.Run
import ContractLowering.Proofs.CommandLine.Arguments
import ContractLowering.Proofs.CommandLine.Redirection
import ContractLowering.Proofs.Source.Blame
import ContractLowering.Proofs.Lowering.Uint8
import ContractLowering.Proofs.Lowering.Location
import ContractLowering.Proofs.Lowering.Rearrangement
import ContractLowering.Proofs.Schema.Rearrangement
import ContractLowering.Lowering.Shared
import ContractLowering.Proofs.Schema.Document
import ContractLowering.Proofs.Lowering.Events
import ContractLowering.Proofs.Lowering.Shared
import ContractLowering.Proofs.Schema.Presentation
