import SoapStubs.Main
import SoapStubs.Proofs.Acceptance
import SoapStubs.Proofs.Collisions
import SoapStubs.Proofs.Containment
import SoapStubs.Proofs.Dotted
import SoapStubs.Proofs.Elements
import SoapStubs.Proofs.FaultEntries
import SoapStubs.Proofs.Forest
import SoapStubs.Proofs.History
import SoapStubs.Proofs.Isolation
import SoapStubs.Proofs.Listing
import SoapStubs.Proofs.Methods
import SoapStubs.Proofs.Overwriting
import SoapStubs.Proofs.Packing
import SoapStubs.Proofs.Parallel
import SoapStubs.Proofs.Provenance
import SoapStubs.Proofs.ReadBack
import SoapStubs.Proofs.Reading
import SoapStubs.Proofs.Recording
import SoapStubs.Proofs.RoundTrip
import SoapStubs.Proofs.Settled
import SoapStubs.Proofs.Storing
import SoapStubs.Proofs.RuleSets
import SoapStubs.Proofs.TypesFile
import SoapStubs.Proofs.WireOrder
import SoapStubs.Proofs.Grouping
import SoapStubs.Proofs.Signatures
import SoapStubs.Proofs.Brackets
import SoapStubs.Proofs.Tagging
import SoapStubs.Proofs.ContextPath
