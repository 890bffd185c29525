import Aviary.Main
import Aviary.Config.Shelf
import Aviary.Engine.Scripted
import Aviary.Proofs.Training
import Aviary.Proofs.Refusal
import Aviary.Proofs.Override
import Aviary.Proofs.Sample
import Aviary.Proofs.Grammar
import Aviary.Proofs.Rounding
import Aviary.Proofs.Arithmetic
import Aviary.Proofs.Drawable
import Aviary.Proofs.Kinds
import Aviary.Proofs.Restart
import Aviary.Proofs.Accounting
import Aviary.Proofs.Summaries
import Aviary.Proofs.Rendering
import Aviary.Proofs.Window
import Aviary.Proofs.Loop
import Aviary.Proofs.Headless
import Aviary.Proofs.Complaints
import Aviary.Proofs.Literal
import Aviary.Proofs.Arguments
import Aviary.Proofs.Program
import Aviary.Proofs.Unattended
import Aviary.Proofs.Outcome
import Aviary.Proofs.Wrapping
import Aviary.Proofs.TrainingLines
import Aviary.Proofs.Scrolling
import Aviary.Proofs.Blending
import Aviary.Proofs.EyeCells
import Aviary.Proofs.Routing
import Aviary.Proofs.Layout
import Aviary.Proofs.Comparison
import Aviary.Proofs.StatusLine
