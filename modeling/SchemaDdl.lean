import SchemaDdl.Main
import SchemaDdl.Proofs.Idempotence
import SchemaDdl.Proofs.Multiplicity
import SchemaDdl.Proofs.WellFormed
import SchemaDdl.Proofs.Stability
import SchemaDdl.Proofs.DeclarationOrder
import SchemaDdl.Proofs.Interruption
import SchemaDdl.Proofs.Casing
import SchemaDdl.Proofs.Dialects
import SchemaDdl.Proofs.Members
import SchemaDdl.Proofs.Origins
import SchemaDdl.Proofs.Spelling
import SchemaDdl.Proofs.Respelling
import SchemaDdl.Proofs.Faults
import SchemaDdl.Proofs.Inverses
import SchemaDdl.Proofs.Deferral
import SchemaDdl.Proofs.Guarantees
import SchemaDdl.Proofs.NormalizationOrder
import SchemaDdl.Proofs.FinalizedFlag
import SchemaDdl.Proofs.Quoting
import SchemaDdl.Proofs.TableNames
import SchemaDdl.Proofs.PairOrder
import SchemaDdl.Proofs.KeyTests
import SchemaDdl.Proofs.KeyDeclaration
import SchemaDdl.Proofs.ErrorContext
import SchemaDdl.Proofs.Mappings
import SchemaDdl.Proofs.Referrers
import SchemaDdl.Proofs.QuotingSwitch
import SchemaDdl.Proofs.TableOptions
import SchemaDdl.Proofs.TargetNames
import SchemaDdl.Proofs.TableSpelling
import SchemaDdl.Proofs.Separators
import SchemaDdl.Proofs.DelimitedLists
