import BerOid.Main
import BerOid.Proofs.Grammar
import BerOid.Proofs.Gathering
import BerOid.Proofs.Accounting
import BerOid.Proofs.DefiniteLength
import BerOid.Proofs.Framing
import BerOid.Proofs.RoundTrip
import BerOid.Proofs.Canonical
import BerOid.Proofs.FrameGrammar
import BerOid.Proofs.Chunking
import BerOid.Proofs.Containment
import BerOid.Proofs.DottedText
import BerOid.Proofs.CanonicalText
import BerOid.Proofs.Refusals
import BerOid.Proofs.Agreement
import BerOid.Proofs.ArcBound
import BerOid.Proofs.SharedConfiguration
import BerOid.Proofs.Outcomes
import BerOid.Proofs.LoggingFaults
import BerOid.Proofs.HexText
import BerOid.Proofs.CommandRoundTrip
import BerOid.Proofs.SetUpEffects
import BerOid.Proofs.LoggingRuns
import BerOid.Proofs.LimitFaults
import BerOid.Proofs.SelfDelimiting
import BerOid.Proofs.Overflow
import BerOid.Proofs.LowerLimits
import BerOid.Proofs.TextAndList
import BerOid.Proofs.WrittenHeaders
import BerOid.Proofs.HexRendering
import BerOid.Proofs.Truncation
import BerOid.Proofs.Requests
