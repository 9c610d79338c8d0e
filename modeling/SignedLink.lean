import SignedLink.Files.Tree
import SignedLink.Http.Session
import SignedLink.Logging.Interpolation
import SignedLink.Main
import SignedLink.Proofs.CommandLine.Explicit
import SignedLink.Proofs.Config.Numbers
import SignedLink.Proofs.Config.RawProperties
import SignedLink.Proofs.Conversion.Likeness
import SignedLink.Proofs.Conversion.Unescaped
import SignedLink.Proofs.Http.Caching
import SignedLink.Proofs.Http.Locations
import SignedLink.Proofs.Key.NormalForm
import SignedLink.Proofs.Key.Normalization
import SignedLink.Proofs.Key.Surroundings
import SignedLink.Proofs.Logging.Delivery
import SignedLink.Proofs.Logging.Repetition
import SignedLink.Proofs.Provider.Containment
import SignedLink.Proofs.Provider.Secrecy
import SignedLink.Proofs.Signing.Reference
import SignedLink.Proofs.Signing.Refusals
