import GrammarRefs.Text.CharRanges
import GrammarRefs.Text.WhiteSpace
import GrammarRefs.Text.Alphanumeric
import GrammarRefs.Text.IdentifierStart
import GrammarRefs.Text.IdentifierContinue
import GrammarRefs.NameOrder
import GrammarRefs.NameTable
import GrammarRefs.Token
import GrammarRefs.GrammarKind
import GrammarRefs.PrintLevel
import GrammarRefs.Label
import GrammarRefs.Attribute
import GrammarRefs.Dict
import GrammarRefs.Declaration.Nesting
import GrammarRefs.Declaration
import GrammarRefs.Predefined
import GrammarRefs.Code
import GrammarRefs.Reference
import GrammarRefs.Code.Identifier
import GrammarRefs.Code.Number
import GrammarRefs.Code.Quoted
import GrammarRefs.Code.Comment
import GrammarRefs.Code.Reader
import GrammarRefs.Fault
import GrammarRefs.Diagnostic
import GrammarRefs.Emission
import GrammarRefs.Action
import GrammarRefs.Alternative
import GrammarRefs.Rule
import GrammarRefs.Registry
import GrammarRefs.Rule.Edit
import GrammarRefs.Grammar
import GrammarRefs.Grammar.Build
import GrammarRefs.Site
import GrammarRefs.Printout
import GrammarRefs.Check.Verdict
import GrammarRefs.Check.Inspection
import GrammarRefs.Check.Directive
import GrammarRefs.Check.Duplicates
import GrammarRefs.Check.Labels
import GrammarRefs.Check.References
import GrammarRefs.Check.Rules
import GrammarRefs.Check
import GrammarRefs.Session
import GrammarRefs.Proofs.Findings
import GrammarRefs.Proofs.Lookups
import GrammarRefs.Proofs.Sites
import GrammarRefs.Proofs.Checking
import GrammarRefs.Proofs.Agreement
import GrammarRefs.Proofs.Frame
import GrammarRefs.Proofs.Construction
import GrammarRefs.Proofs.History
import GrammarRefs.Proofs.Issuance
import GrammarRefs.Proofs.Numbering
import GrammarRefs.Proofs.Filing
import GrammarRefs.Proofs.RuleTable
import GrammarRefs.Proofs.WellFormed
import GrammarRefs.Proofs.Scanning
import GrammarRefs.Proofs.Trimming
import GrammarRefs.Proofs.Reading
import GrammarRefs.Proofs.Listing
import GrammarRefs.Proofs.Writing
import GrammarRefs.Proofs.Acceptance
import GrammarRefs.Proofs.Coherence
import GrammarRefs.Proofs.Sessions
import GrammarRefs.Proofs.Sorting
import GrammarRefs.Proofs.Mapping
import GrammarRefs.Proofs.Catalogues
import GrammarRefs.Proofs.Records
import GrammarRefs.Proofs.Reordering
import GrammarRefs.Proofs.OrderFreedom
import GrammarRefs.Proofs.Erasure
import GrammarRefs.Proofs.ErasedSteps
import GrammarRefs.Proofs.ErasedChecks
import GrammarRefs.Proofs.Positions
import GrammarRefs.Proofs.Answers
import GrammarRefs.Proofs.Isolation
import GrammarRefs.Proofs.Alternation
import GrammarRefs.Proofs.Arrangement
import GrammarRefs.Proofs.Repetition
import GrammarRefs.Proofs.Rechecking
import GrammarRefs.Proofs.Denotation
import GrammarRefs.Proofs.Judgement
import GrammarRefs.Proofs.Extraction
import GrammarRefs.Proofs.Cuts
import GrammarRefs.Proofs.Strays
import GrammarRefs.Proofs.Naming
import GrammarRefs.Proofs.Redefinition
import GrammarRefs.Proofs.Recognition
import GrammarRefs.Proofs.Redeclaration
import GrammarRefs.Proofs.LabelConflicts
import GrammarRefs.Proofs.Undeclared
import GrammarRefs.Proofs.StartRules
import GrammarRefs.Proofs.Merging
import GrammarRefs.Proofs.Terminals
import GrammarRefs.Proofs.Insertions
import GrammarRefs.Proofs.Asking
import GrammarRefs.Proofs.Appending
