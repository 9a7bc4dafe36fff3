import Dtdl.Exchange
import Dtdl.Main
import Dtdl.Proofs.Reservation
import Dtdl.Proofs.Naming
import Dtdl.Proofs.Registration
import Dtdl.Proofs.Session
import Dtdl.Proofs.Registry
import Dtdl.Proofs.Expansion
import Dtdl.Proofs.Catalog
import Dtdl.Proofs.Protection
import Dtdl.Proofs.Reporting
import Dtdl.Proofs.Growth
import Dtdl.Proofs.Shadowing
import Dtdl.Proofs.Provenance
import Dtdl.Proofs.Definitions
import Dtdl.Proofs.Interchange
import Dtdl.Proofs.Correspondence
import Dtdl.Proofs.Omission
import Dtdl.Proofs.Upgrading
import Dtdl.Proofs.Entries
import Dtdl.Proofs.Accounting
import Dtdl.Proofs.Ledger
import Dtdl.Proofs.Leniency
import Dtdl.Proofs.References
import Dtdl.Proofs.Absolute
import Dtdl.Proofs.Stages
import Dtdl.Proofs.Spelling
import Dtdl.Proofs.Layering
import Dtdl.Proofs.Overriding
import Dtdl.Proofs.Recording
import Dtdl.Proofs.Grammar
import Dtdl.Proofs.Legality
import Dtdl.Proofs.Transcription
import Dtdl.Proofs.Affiliation
import Dtdl.Proofs.ShortNames
import Dtdl.Proofs.Routing
import Dtdl.Proofs.Selection
import Dtdl.Proofs.Reading
import Dtdl.Proofs.Recovery
import Dtdl.Proofs.Structure
import Dtdl.Proofs.Loops
