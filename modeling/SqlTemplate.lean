import SqlTemplate.Binary64.Bits
import SqlTemplate.Main
import SqlTemplate.Proofs.Nearest
import SqlTemplate.Proofs.Secrecy
import SqlTemplate.Proofs.Decimal
import SqlTemplate.Proofs.Comparison
import SqlTemplate.Proofs.Composition
import SqlTemplate.Proofs.Loop
import SqlTemplate.Proofs.Lexeme
import SqlTemplate.Proofs.Derivation
import SqlTemplate.Proofs.Follow
import SqlTemplate.Proofs.Spelling
import SqlTemplate.Proofs.Grammar
import SqlTemplate.Proofs.Construction
import SqlTemplate.Proofs.Transparency
import SqlTemplate.Proofs.Nil
import SqlTemplate.Proofs.Fragment
import SqlTemplate.Proofs.NotFound
import SqlTemplate.Proofs.Scope
import SqlTemplate.Proofs.Validity
import SqlTemplate.Proofs.Assembly
import SqlTemplate.Proofs.Visibility
import SqlTemplate.Proofs.Choice
import SqlTemplate.Proofs.Window
import SqlTemplate.Proofs.Identifier
import SqlTemplate.Proofs.Membership
import SqlTemplate.Proofs.Integers
import SqlTemplate.Proofs.Order
import SqlTemplate.Proofs.Directive
import SqlTemplate.Proofs.Pattern
import SqlTemplate.Proofs.Filling
import SqlTemplate.Proofs.Numeral
import SqlTemplate.Proofs.Verbs
import SqlTemplate.Proofs.Places
import SqlTemplate.Proofs.Leaf
import SqlTemplate.Proofs.Session
import SqlTemplate.Proofs.Collection
import SqlTemplate.Proofs.Document
import SqlTemplate.Proofs.Priority
import SqlTemplate.Proofs.Progress
