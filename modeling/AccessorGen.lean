import AccessorGen.Main
import AccessorGen.Proofs.Agreement
import AccessorGen.Proofs.Validity
import AccessorGen.Proofs.Reordering
import AccessorGen.Proofs.Grouping
import AccessorGen.Proofs.Spelling
import AccessorGen.Proofs.Naming
import AccessorGen.Proofs.OwnName
import AccessorGen.Proofs.Casts
import AccessorGen.Proofs.Directions
import AccessorGen.Proofs.Isolation
import AccessorGen.Proofs.RoundTrip
import AccessorGen.Proofs.Accounting
import AccessorGen.Proofs.UnitNames
import AccessorGen.Proofs.Writing
import AccessorGen.Proofs.Unrelated
import AccessorGen.Proofs.Violations
import AccessorGen.Proofs.Confinement
import AccessorGen.Proofs.CanonicalForms
import AccessorGen.Proofs.Shadowing
import AccessorGen.Proofs.Arguments
import AccessorGen.Proofs.FieldCases
import AccessorGen.Proofs.Layout
import AccessorGen.Proofs.WrittenTypes
import AccessorGen.Proofs.Filing
import AccessorGen.Proofs.Promotion
import AccessorGen.Proofs.Recognition
import AccessorGen.Proofs.Partition
import AccessorGen.Proofs.NormalSpelling
