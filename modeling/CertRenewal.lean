import CertRenewal.Lifecycle.Call
import CertRenewal.Logging.Output
import CertRenewal.Main
import CertRenewal.Proofs.Accounting
import CertRenewal.Proofs.Bundles
import CertRenewal.Proofs.Certificates
import CertRenewal.Proofs.Endpoints
import CertRenewal.Proofs.Events
import CertRenewal.Proofs.FailSafe
import CertRenewal.Proofs.LaterBlocks
import CertRenewal.Proofs.Renewals
import CertRenewal.Proofs.Secrecy
import CertRenewal.Proofs.StrictCertificates
import CertRenewal.Proofs.Numerals
import CertRenewal.Proofs.Literals
import CertRenewal.Proofs.Hosts
import CertRenewal.Proofs.HostTexts
import CertRenewal.Proofs.Builds
import CertRenewal.Proofs.Startup
import CertRenewal.Proofs.KeyTexts
import CertRenewal.Proofs.Layouts
import CertRenewal.Proofs.CalendarOrder
import CertRenewal.Proofs.RenewalBodies
import CertRenewal.Proofs.Handlers
import CertRenewal.Proofs.Manifests
import CertRenewal.Proofs.Groups
