import DirtSim.Foundation.Transition
import DirtSim.Foundation.Grid
import DirtSim.Foundation.Dict
import DirtSim.Organisms.Ownership
import DirtSim.Organisms.RigidBodyMotion
import DirtSim.Organisms.RigidStructures
import DirtSim.Organisms.TreeGrowth
import DirtSim.Organisms.TreeEnergy
import DirtSim.Render.OrganismTransport
import DirtSim.Core.Cell
import DirtSim.Core.UuidText
import DirtSim.Grid.GridOfCells
import DirtSim.Activity.WakeGuarantees
import DirtSim.Evolution.Deduplication
import DirtSim.Evolution.Pruning
import DirtSim.Evolution.Reopening
import DirtSim.Search.BranchingEvaluation
import DirtSim.Search.Transposition
import DirtSim.Physics.LawfulCollisions
import DirtSim.Physics.OrganismMoves
import DirtSim.Physics.StaticLoad
import DirtSim.Training.AdaptiveMutation
import DirtSim.Training.BestGenome
import DirtSim.Training.DeliveredOnce
import DirtSim.Training.GenerationBookkeeping
import DirtSim.Training.GenerationOrder
import DirtSim.Training.CheckpointStoring
import DirtSim.Training.Stopping
import DirtSim.OsManager.PeerTrust
import DirtSim.OsManager.TrustRefusals
import DirtSim.Server.SettingsRequests
import DirtSim.Server.SanitizeGuarantees
import DirtSim.Physics.PerCellArrays
import DirtSim.Search.PlanReplay
import DirtSim.Search.ScenarioDriver
import DirtSim.Search.PlaybackEnds
import DirtSim.Foundation.Gathering
import DirtSim.Light.LightPropagator
import DirtSim.Light.LightTransport
import DirtSim.Foundation.Crossings
import DirtSim.Light.TraceRay
import DirtSim.Light.RayPath
import DirtSim.Foundation.GraphSearch
import DirtSim.Maze.MazeModel
import DirtSim.Maze.PerfectMazes
import DirtSim.Maze.SolvedMazes
import DirtSim.Foundation.Apportionment
import DirtSim.Foundation.UniqueDraws
import DirtSim.Training.Mutation
import DirtSim.Evolution.RobustHistory
import DirtSim.Training.ScenarioOverride
import DirtSim.Training.UnsavedTrainingResult
import DirtSim.Grid.WorldInterpolation
import DirtSim.Physics.PressureDiffusion
import DirtSim.Physics.DisplacedMaterial
import DirtSim.Physics.FrictionMirror
import DirtSim.Physics.CachedForces
import DirtSim.Water.WaterBalance
import DirtSim.OsManager.RemoteSshExecutor
import DirtSim.OsManager.ScanCoverage
import DirtSim.OsManager.RadioCapture
import DirtSim.OsManager.AccessFlags
import DirtSim.OsManager.ChanspecCodec
import DirtSim.Nes.TileTokenizer
import DirtSim.Audio.PulseRate
import DirtSim.Audio.NesAudioPlayer
import DirtSim.Audio.CountedLosses
import DirtSim.Audio.AudioEngine
import DirtSim.Audio.VoiceAllocation
import DirtSim.Audio.SampleReading
import DirtSim.Clock.EventConflicts
import DirtSim.Clock.OpenDoors
import DirtSim.Evolution.ObstacleCredits
import DirtSim.OsManager.RefreshScheduling
import DirtSim.Network.CleanConnects
import DirtSim.Network.PendingRequests
