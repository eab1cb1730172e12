import TemplateScript.Main
import TemplateScript.Evaluation.Inspect
import TemplateScript.Proofs.Document.Composition
import TemplateScript.Proofs.Document.UniqueReading
import TemplateScript.Proofs.Document.WellFormedTrees
import TemplateScript.Proofs.Template.LeafObservation
import TemplateScript.Proofs.Evaluation.BigStep
import TemplateScript.Proofs.Evaluation.EquivalentPrograms
import TemplateScript.Proofs.Script.Sources
import TemplateScript.Proofs.Template.CompactedTrees
import TemplateScript.Proofs.Template.Configurations
import TemplateScript.Proofs.Script.RoundTrip
import TemplateScript.Proofs.Template.Constants
import TemplateScript.Proofs.Template.Projection
import TemplateScript.Proofs.Template.Refusals
import TemplateScript.Proofs.Template.ReadableCode
import TemplateScript.Proofs.Template.ScopedCode
import TemplateScript.Proofs.Document.Additions
import TemplateScript.Proofs.Document.Towers
import TemplateScript.Proofs.Script.Branches
import TemplateScript.Proofs.Template.ComputedTags
import TemplateScript.Proofs.Document.CanonicalTrees
import TemplateScript.Proofs.Evaluation.NodeValues
import TemplateScript.Proofs.Evaluation.RenderedValues
import TemplateScript.Proofs.Template.Fragments
import TemplateScript.Proofs.Document.Flattening
import TemplateScript.Proofs.Text.Literals
import TemplateScript.Proofs.Text.Folding
import TemplateScript.Proofs.Evaluation.Bindings
import TemplateScript.Proofs.Template.Media
