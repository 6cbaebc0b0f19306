import PuzzleWorlds.Log.Record
import PuzzleWorlds.Log.Template
import PuzzleWorlds.Main
import PuzzleWorlds.Program.Node
import PuzzleWorlds.Service.Basic
import PuzzleWorlds.Proofs.BackEnds
import PuzzleWorlds.Proofs.Bookkeeping
import PuzzleWorlds.Proofs.BubbleSort
import PuzzleWorlds.Proofs.CompiledPrograms
import PuzzleWorlds.Proofs.CountingLoops
import PuzzleWorlds.Proofs.Cursor
import PuzzleWorlds.Proofs.EarnedProgress
import PuzzleWorlds.Proofs.EndedRuns
import PuzzleWorlds.Proofs.ExactBudgets
import PuzzleWorlds.Proofs.FloatProduct
import PuzzleWorlds.Proofs.InterleavedOutput
import PuzzleWorlds.Proofs.JsonRoundTrip
import PuzzleWorlds.Proofs.JsonScanners
import PuzzleWorlds.Proofs.LiveWorld
import PuzzleWorlds.Proofs.MalformedWorkspaces
import PuzzleWorlds.Proofs.MappedAnswers
import PuzzleWorlds.Proofs.NamedPrograms
import PuzzleWorlds.Proofs.PixelPaths
import PuzzleWorlds.Proofs.PlayedOut
import PuzzleWorlds.Proofs.PrintedEvents
import PuzzleWorlds.Proofs.RecordedActions
import PuzzleWorlds.Proofs.RegistryCalls
import PuzzleWorlds.Proofs.Replay
import PuzzleWorlds.Proofs.Replayable
import PuzzleWorlds.Proofs.ReportedFaults
import PuzzleWorlds.Proofs.ReportedReplays
import PuzzleWorlds.Proofs.ReportedRuns
import PuzzleWorlds.Proofs.RobotRoutes
import PuzzleWorlds.Proofs.RunningSums
import PuzzleWorlds.Proofs.SchedulerCalls
import PuzzleWorlds.Proofs.SchedulerReplay
import PuzzleWorlds.Proofs.SessionRuns
import PuzzleWorlds.Proofs.Shelf
import PuzzleWorlds.Proofs.Solvable
import PuzzleWorlds.Proofs.StaleRuns
import PuzzleWorlds.Proofs.StepBudget
import PuzzleWorlds.Proofs.SupersededPlays
import PuzzleWorlds.Proofs.Termination
import PuzzleWorlds.Proofs.Timeline
import PuzzleWorlds.Proofs.WorldBounds
import PuzzleWorlds.Proofs.NearestFloat
import PuzzleWorlds.Proofs.ShortestDecimal
import PuzzleWorlds.Proofs.FloatTexts
import PuzzleWorlds.Proofs.SwapBudget
import PuzzleWorlds.Proofs.DumpedLevels
import PuzzleWorlds.Proofs.AlreadySolved
import PuzzleWorlds.Proofs.ReachedGoals
import PuzzleWorlds.Proofs.UnjudgedGoals
import PuzzleWorlds.Proofs.BuiltStructures
import PuzzleWorlds.Proofs.AttainableGoals
import PuzzleWorlds.Proofs.StageGoals
import PuzzleWorlds.Proofs.ShelfVerdicts
import PuzzleWorlds.Proofs.StarVerdicts
import PuzzleWorlds.Proofs.ArenaReplays
import PuzzleWorlds.Proofs.StructureVerdicts
import PuzzleWorlds.Proofs.LastingGoals
import PuzzleWorlds.Proofs.UnrolledLoops
import PuzzleWorlds.Proofs.ChosenBranches
import PuzzleWorlds.Proofs.DroppedBranches
import PuzzleWorlds.Proofs.SingleActions
import PuzzleWorlds.Proofs.NumericTexts
import PuzzleWorlds.Proofs.BoundedResults
import PuzzleWorlds.Proofs.CompiledNesting
import PuzzleWorlds.Proofs.ComparedTexts
import PuzzleWorlds.Proofs.ProgramMoves
import PuzzleWorlds.Proofs.BlamedStatements
import PuzzleWorlds.Proofs.SubmittedLines
import PuzzleWorlds.Proofs.TracedLines
import PuzzleWorlds.Proofs.CreatedSessions
import PuzzleWorlds.Proofs.WrittenActions
import PuzzleWorlds.Proofs.DisabledBlocks
import PuzzleWorlds.Proofs.AnsweredRuns
import PuzzleWorlds.Proofs.RespelledLevels
