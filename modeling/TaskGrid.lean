import TaskGrid.Lib.Transition
import TaskGrid.Lib.Keyed
import TaskGrid.Lib.Retry
import TaskGrid.Lib.Liveness
import TaskGrid.Lib.Refinement
import TaskGrid.Lib.Counting
import TaskGrid.Lib.RoundRobin
import TaskGrid.Lib.Fibers
import TaskGrid.Lib.Numeral
import TaskGrid.Lib.Fields
import TaskGrid.Proto.Messages
import TaskGrid.Common.Protocol
import TaskGrid.Dispatcher.StateMachine
import TaskGrid.Dispatcher.State
import TaskGrid.Dispatcher.DispatchLoop
import TaskGrid.Dispatcher.Servicer
import TaskGrid.Dispatcher.Slot
import TaskGrid.Dispatcher.SlotStep
import TaskGrid.Dispatcher.Inversion
import TaskGrid.Dispatcher.Invariant
import TaskGrid.Dispatcher.Obligations
import TaskGrid.Dispatcher.Terminal
import TaskGrid.Dispatcher.Accounting
import TaskGrid.Dispatcher.Progress
import TaskGrid.Dispatcher.Executor
import TaskGrid.Dispatcher.Fifo
import TaskGrid.Dispatcher.Retries
import TaskGrid.Dispatcher.Atomicity
import TaskGrid.Dispatcher.Stop
import TaskGrid.Dispatcher.Results
import TaskGrid.Dispatcher.Superseded
import TaskGrid.Dispatcher.StatusCollector
import TaskGrid.Dispatcher.GetStatus
import TaskGrid.Dispatcher.Times
import TaskGrid.Dispatcher.WorkerSelector
import TaskGrid.Dispatcher.Work
import TaskGrid.Dispatcher.Limits
import TaskGrid.Dispatcher.Balance
import TaskGrid.Worker.Worker
import TaskGrid.Worker.TaskHandlers
import TaskGrid.Worker.PythonInt
import TaskGrid.Worker.SumHandler
import TaskGrid.Worker.Runtime
import TaskGrid.Worker.Shutdown
import TaskGrid.Namensdienst.Nameservice
import TaskGrid.Namensdienst.Entries
import TaskGrid.Namensdienst.Draining
import TaskGrid.Namensdienst.Heartbeat
import TaskGrid.Namensdienst.Registration
import TaskGrid.Namensdienst.Commutation
import TaskGrid.Namensdienst.Monitor
import TaskGrid.Namensdienst.Interleaving
import TaskGrid.Client.Client
import TaskGrid.Client.CommandLine
import TaskGrid.System.System
import TaskGrid.System.EndToEnd
import TaskGrid.System.Restart
import TaskGrid.System.Presence
import TaskGrid.System.Grid
import TaskGrid.System.Routing
import TaskGrid.System.Failures
import TaskGrid.System.Silence
import TaskGrid.System.Startup
import TaskGrid.System.Completion
import TaskGrid.System.HandOver
import TaskGrid.System.JobBoard
import TaskGrid.System.Refinement
import TaskGrid.System.Session
