import Reconciliation.AppStack.Controller
import Reconciliation.Json.Reader
import Reconciliation.Proofs.Composition
import Reconciliation.Proofs.Control
import Reconciliation.Proofs.DeletionPrecedence
import Reconciliation.Proofs.FieldConvergence
import Reconciliation.Proofs.Flattening
import Reconciliation.Proofs.IndependentRules
import Reconciliation.Proofs.InitContainerImages
import Reconciliation.Proofs.InitContainers
import Reconciliation.Proofs.Interleaving
import Reconciliation.Proofs.MapUnions
import Reconciliation.Proofs.MetadataGrowth
import Reconciliation.Proofs.NamedItems
import Reconciliation.Proofs.OwnerReferences
import Reconciliation.Proofs.QuantityValues
import Reconciliation.Proofs.RepeatedVariables
import Reconciliation.Proofs.RequirementLaws
import Reconciliation.Proofs.ResourceSettling
import Reconciliation.Proofs.RoundTrip
import Reconciliation.Proofs.SelectingParts
import Reconciliation.Proofs.SpecChange
import Reconciliation.Proofs.StoreAgreement
import Reconciliation.Proofs.StoredValues
import Reconciliation.Proofs.TagMerging
import Reconciliation.Proofs.Toggles
import Reconciliation.Proofs.Waiting
import Reconciliation.Session
import Reconciliation.Settings
