import Ambience.Host.Ledger
import Ambience.Main
import Ambience.Proofs.Player.Whole
import Ambience.Proofs.Player.Coherence
import Ambience.Proofs.Engine.Births
import Ambience.Proofs.Engine.Layers
import Ambience.Proofs.Engine.Changes
import Ambience.Proofs.Engine.Population
import Ambience.Proofs.Screen.Basic
import Ambience.Proofs.Screen.Reading
import Ambience.Proofs.Screen.Writing
import Ambience.Proofs.Screen.Frame
import Ambience.Proofs.Canvas.Sizes
import Ambience.Proofs.Canvas.Visits
import Ambience.Proofs.Scalar.Exact
import Ambience.Proofs.Color.Mixing
import Ambience.Proofs.Color.Gradients
import Ambience.Proofs.Player.Fitting
import Ambience.Proofs.Session.Sizes
import Ambience.Proofs.Engine.Turnover
import Ambience.Proofs.Engine.Identities
import Ambience.Proofs.Engine.Emission
import Ambience.Proofs.Engine.Placement
import Ambience.Proofs.Engine.Zones
import Ambience.Proofs.Player.Settings
import Ambience.Proofs.Theme.Order
import Ambience.Proofs.Session.Presses
import Ambience.Proofs.Session.Batches
import Ambience.Proofs.Picture.Repainting
import Ambience.Proofs.Picture.Dimming
import Ambience.Proofs.Random.Ranges
import Ambience.Proofs.Scalar.Rounding
import Ambience.Proofs.Engine.Spacing
import Ambience.Proofs.Engine.Terrain
import Ambience.Proofs.Player.Histories
import Ambience.Proofs.Player.Appearance
import Ambience.Proofs.Player.Restarts
import Ambience.Proofs.Player.Handles
import Ambience.Proofs.Player.Commuting
import Ambience.Proofs.Session.Frames
import Ambience.Proofs.Session.Places
import Ambience.Proofs.Engine.Newcomers
import Ambience.Proofs.Engine.Standstill
import Ambience.Proofs.Engine.Strewing
import Ambience.Proofs.Engine.Rebuilding
import Ambience.Proofs.Picture.Order
import Ambience.Proofs.Canvas.Clipping
import Ambience.Proofs.Canvas.Tinting
import Ambience.Proofs.Canvas.Areas
import Ambience.Proofs.Profiles
import Ambience.Proofs.Canvas.Indexing
import Ambience.Proofs.Engine.Snow
import Ambience.Proofs.Engine.Mortality
import Ambience.Proofs.Wishes
import Ambience.Proofs.Records
import Ambience.Proofs.Session.Requests
import Ambience.Proofs.Engine.Slots
import Ambience.Proofs.Body.Wandering
import Ambience.Proofs.Body.Raking
import Ambience.Proofs.Engine.Groves
import Ambience.Proofs.Engine.Steering
import Ambience.Proofs.Theme.Cycling
import Ambience.Proofs.Motion.Fading
