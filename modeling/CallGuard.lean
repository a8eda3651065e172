import CallGuard.Main
import CallGuard.Proofs.Attribution
import CallGuard.Proofs.Binding
import CallGuard.Proofs.Collapse
import CallGuard.Proofs.Conformance
import CallGuard.Proofs.Course
import CallGuard.Proofs.Drawing
import CallGuard.Proofs.Equivalence
import CallGuard.Proofs.Exactness
import CallGuard.Proofs.Hygiene
import CallGuard.Proofs.Inheritance
import CallGuard.Proofs.Marking
import CallGuard.Proofs.Octets
import CallGuard.Proofs.Passage
import CallGuard.Proofs.Quoting
import CallGuard.Proofs.Relaxation
import CallGuard.Proofs.Renumbering
import CallGuard.Proofs.Requirement
import CallGuard.Proofs.Separation
import CallGuard.Proofs.Session
import CallGuard.Proofs.Stability
import CallGuard.Proofs.Support
import CallGuard.Proofs.Truncation
