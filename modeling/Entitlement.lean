import Entitlement.Account
import Entitlement.Main
import Entitlement.Service.Checkout
import Entitlement.Proofs.Results
import Entitlement.Proofs.Dictionary
import Entitlement.Proofs.Canonical
import Entitlement.Proofs.Gathering
import Entitlement.Proofs.Decoding
import Entitlement.Proofs.Members
import Entitlement.Proofs.ErrorBody
import Entitlement.Proofs.Lawful
import Entitlement.Proofs.RoundTrip
import Entitlement.Proofs.Normalisation
import Entitlement.Proofs.Tolerance
import Entitlement.Proofs.WireFormat
import Entitlement.Proofs.Lookup
import Entitlement.Proofs.Resolution
import Entitlement.Proofs.Consistency
import Entitlement.Proofs.OutOfBand
import Entitlement.Proofs.Grouping
import Entitlement.Proofs.Join
import Entitlement.Proofs.Conservation
import Entitlement.Proofs.Narrowing
import Entitlement.Proofs.Distinct
import Entitlement.Proofs.NarrowedLookup
import Entitlement.Proofs.Growth
import Entitlement.Proofs.Classification
import Entitlement.Proofs.Cards
import Entitlement.Proofs.ByteOrder
import Entitlement.Proofs.Exhaustion
import Entitlement.Proofs.LocaleChoice
import Entitlement.Proofs.Summary
import Entitlement.Proofs.Completion
import Entitlement.Proofs.BaseAddress
import Entitlement.Proofs.Authorization
import Entitlement.Proofs.Interpretation
import Entitlement.Proofs.Dependence
import Entitlement.Proofs.Gating
import Entitlement.Proofs.FormEncoding
import Entitlement.Proofs.PathBelow
import Entitlement.Proofs.EndpointAddress
import Entitlement.Proofs.JsonText
import Entitlement.Proofs.Absence
import Entitlement.Proofs.Flattening
import Entitlement.Proofs.CheckedShapes
import Entitlement.Proofs.FaithfulRequests
import Entitlement.Proofs.PriceLookup
import Entitlement.Proofs.ServedBase
import Entitlement.Proofs.HostText
import Entitlement.Proofs.CheckoutLinks
import Entitlement.Proofs.AmountText
import Entitlement.Proofs.IntactText
import Entitlement.Proofs.Variables
import Entitlement.Proofs.Places
import Entitlement.Proofs.Reordering
import Entitlement.Proofs.Agreement
import Entitlement.Proofs.Continuation
import Entitlement.Proofs.TextParts
import Entitlement.Proofs.TextOrder
import Entitlement.Proofs.TextAgreement
import Entitlement.Proofs.Cancellation
import Entitlement.Proofs.Patching
import Entitlement.Proofs.Session
