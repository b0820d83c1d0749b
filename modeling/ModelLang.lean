import ModelLang.FileTree
import ModelLang.Main
import ModelLang.Proofs.Absolute
import ModelLang.Proofs.Arithmetic
import ModelLang.Proofs.Collect
import ModelLang.Proofs.Conditional
import ModelLang.Proofs.Constraint
import ModelLang.Proofs.Families
import ModelLang.Proofs.Names
import ModelLang.Proofs.WellFormed
import ModelLang.Proofs.Extension
import ModelLang.Proofs.Chunks
import ModelLang.Proofs.Complaint
import ModelLang.Proofs.Expected
import ModelLang.Proofs.Lines
import ModelLang.Proofs.Spelling
import ModelLang.Proofs.Cover
import ModelLang.Proofs.Rendering
import ModelLang.Proofs.Bare
import ModelLang.Proofs.Starts
import ModelLang.Proofs.Formula
import ModelLang.Proofs.Precedence
import ModelLang.Proofs.Alike
import ModelLang.Proofs.Groups
import ModelLang.Proofs.Blameless
import ModelLang.Proofs.Spanless
import ModelLang.Proofs.Interactive
import ModelLang.Proofs.Decimal
import ModelLang.Proofs.Progress
import ModelLang.Proofs.Congruence
import ModelLang.Proofs.Expansion
import ModelLang.Proofs.Layout
import ModelLang.Proofs.Pointing
import ModelLang.Proofs.Operands
import ModelLang.Proofs.Power
import ModelLang.Proofs.Excerpt
import ModelLang.Proofs.Quotation
import ModelLang.Proofs.Literal
import ModelLang.Proofs.SetAlgebra
import ModelLang.Proofs.Choices
import ModelLang.Proofs.Progression
import ModelLang.Proofs.Enumeration
import ModelLang.Proofs.Listing
import ModelLang.Proofs.Extremal
import ModelLang.Proofs.Products
import ModelLang.Proofs.Extensional
import ModelLang.Proofs.Totals
import ModelLang.Proofs.Filtering
import ModelLang.Proofs.MinMax
import ModelLang.Proofs.Effects
import ModelLang.Proofs.Canonical
import ModelLang.Proofs.Division
import ModelLang.Proofs.Locals
import ModelLang.Proofs.Matrix
import ModelLang.Proofs.Tight
import ModelLang.Proofs.Machine.Basic
import ModelLang.Proofs.Proper
import ModelLang.Proofs.Machine.Declaration
import ModelLang.Proofs.Machine.Constraint
import ModelLang.Proofs.Machine.Statement
import ModelLang.Proofs.Machine.Discipline
