import Stencil.Main
import Stencil.Proofs.ArtifactNames
import Stencil.Proofs.AssignedMerge
import Stencil.Proofs.BlankData
import Stencil.Proofs.ConditionComposition
import Stencil.Proofs.ConditionMemory
import Stencil.Proofs.DataReads
import Stencil.Proofs.DefaultsAsData
import Stencil.Proofs.DefaultsRoundTrip
import Stencil.Proofs.DirectiveForms
import Stencil.Proofs.DirectiveGrammar
import Stencil.Proofs.ErrorPlaces
import Stencil.Proofs.InertOutput
import Stencil.Proofs.ItemNames
import Stencil.Proofs.LexemeTiling
import Stencil.Proofs.LoopOverlay
import Stencil.Proofs.MarkerSpans
import Stencil.Proofs.Passthrough
import Stencil.Proofs.RefusedCommands
import Stencil.Proofs.RenderDelivery
import Stencil.Proofs.Scaffolding
import Stencil.Proofs.SpelledIntegers
import Stencil.Proofs.StringLiterals
import Stencil.Proofs.TemplateCheck
import Stencil.Proofs.ValueReports
