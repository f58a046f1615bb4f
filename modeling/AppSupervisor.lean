import AppSupervisor.Command.Build
import AppSupervisor.Command.Environment
import AppSupervisor.CommandLine.Display
import AppSupervisor.CommandLine.Help
import AppSupervisor.CommandLine.KeyValues
import AppSupervisor.CommandLine.Option
import AppSupervisor.CommandLine.Program
import AppSupervisor.CommandLine.Run
import AppSupervisor.CommandLine.RunOptions
import AppSupervisor.CommandLine.Usage
import AppSupervisor.Deployer
import AppSupervisor.Deployer.Launch
import AppSupervisor.Deployer.LogStream
import AppSupervisor.Deployer.WorkDirectory
import AppSupervisor.Document.Build
import AppSupervisor.Document.Json
import AppSupervisor.Document.Mark
import AppSupervisor.Document.Node
import AppSupervisor.Document.Plain
import AppSupervisor.Document.Token
import AppSupervisor.Fault
import AppSupervisor.Field
import AppSupervisor.Files.Path
import AppSupervisor.Files.Tree
import AppSupervisor.Health
import AppSupervisor.Launcher
import AppSupervisor.Logging
import AppSupervisor.Machine
import AppSupervisor.Main
import AppSupervisor.Numeral.Double
import AppSupervisor.Numeral.Integer
import AppSupervisor.Numeral.Real
import AppSupervisor.Pattern.Fault
import AppSupervisor.Pattern.Match
import AppSupervisor.Pattern.Parser
import AppSupervisor.Pattern.Syntax
import AppSupervisor.Ports
import AppSupervisor.Proofs.Agreement
import AppSupervisor.Proofs.BeforeLaunch
import AppSupervisor.Proofs.Calls
import AppSupervisor.Proofs.ClientMoves
import AppSupervisor.Proofs.CommaLists
import AppSupervisor.Proofs.CommandLine
import AppSupervisor.Proofs.Components
import AppSupervisor.Proofs.CountsAndPorts
import AppSupervisor.Proofs.Custody
import AppSupervisor.Proofs.DeployFaults
import AppSupervisor.Proofs.Deploying
import AppSupervisor.Proofs.DeploymentIds
import AppSupervisor.Proofs.ExclusiveLogs
import AppSupervisor.Proofs.FileTrees
import AppSupervisor.Proofs.Frame
import AppSupervisor.Proofs.FreshDirectories
import AppSupervisor.Proofs.InstanceEnvironment
import AppSupervisor.Proofs.InstanceIds
import AppSupervisor.Proofs.Interleaving
import AppSupervisor.Proofs.Journal
import AppSupervisor.Proofs.KeyValues
import AppSupervisor.Proofs.LaunchOrders
import AppSupervisor.Proofs.Launching
import AppSupervisor.Proofs.Loading
import AppSupervisor.Proofs.NothingLeft
import AppSupervisor.Proofs.Numerals
import AppSupervisor.Proofs.Operations
import AppSupervisor.Proofs.PortAllocation
import AppSupervisor.Proofs.PortSearch
import AppSupervisor.Proofs.Precedence
import AppSupervisor.Proofs.ReachedWorlds
import AppSupervisor.Proofs.Recording
import AppSupervisor.Proofs.Registry
import AppSupervisor.Proofs.RegistryHistory
import AppSupervisor.Proofs.Removal
import AppSupervisor.Proofs.Reports
import AppSupervisor.Proofs.Rounding
import AppSupervisor.Proofs.RunCounts
import AppSupervisor.Proofs.RunProtocol
import AppSupervisor.Proofs.Sessions
import AppSupervisor.Proofs.SettingFields
import AppSupervisor.Proofs.ShuttingDown
import AppSupervisor.Proofs.Stages
import AppSupervisor.Proofs.StartWait
import AppSupervisor.Proofs.StopBudget
import AppSupervisor.Proofs.StopCalls
import AppSupervisor.Proofs.StopOrder
import AppSupervisor.Proofs.Stopping
import AppSupervisor.Proofs.Supervision
import AppSupervisor.Proofs.Trimming
import AppSupervisor.Proofs.UndeployOutcome
import AppSupervisor.Proofs.Undeploying
import AppSupervisor.Proofs.Variables
import AppSupervisor.Proofs.Watching
import AppSupervisor.Proofs.WorkDirectories
import AppSupervisor.Proofs.Yields
import AppSupervisor.Registry
import AppSupervisor.Rehearsal.Binding
import AppSupervisor.Rehearsal.Child
import AppSupervisor.Rehearsal.Deployer
import AppSupervisor.Rehearsal.Machine
import AppSupervisor.Rehearsal.Reading
import AppSupervisor.Rehearsal.Script
import AppSupervisor.Rehearsal.Shell.Arithmetic
import AppSupervisor.Rehearsal.Shell.Builtin
import AppSupervisor.Rehearsal.Shell.Condition
import AppSupervisor.Rehearsal.Shell.Expansion
import AppSupervisor.Rehearsal.Shell.Form
import AppSupervisor.Rehearsal.Shell.Grammar
import AppSupervisor.Rehearsal.Shell.Host
import AppSupervisor.Rehearsal.Shell.Print
import AppSupervisor.Rehearsal.Shell.Programs
import AppSupervisor.Rehearsal.Shell.Run
import AppSupervisor.Rehearsal.Shell.Script
import AppSupervisor.Rehearsal.Shell.Search
import AppSupervisor.Rehearsal.Shell.Session
import AppSupervisor.Rehearsal.Shell.Signal
import AppSupervisor.Rehearsal.Shell.Token
import AppSupervisor.Request
import AppSupervisor.Resource
import AppSupervisor.RuntimeInfo
import AppSupervisor.Settings
import AppSupervisor.Settings.Load
import AppSupervisor.Status
import AppSupervisor.Text.Alphanumeric
import AppSupervisor.Text.Blank
import AppSupervisor.Text.CharacterName
import AppSupervisor.Text.CharacterName.AsiaAfricaAmerica
import AppSupervisor.Text.CharacterName.EastAsia
import AppSupervisor.Text.CharacterName.EuropeNearEast
import AppSupervisor.Text.CharacterName.HistoricScripts
import AppSupervisor.Text.CharacterName.MarkedLetters
import AppSupervisor.Text.CharacterName.Notation
import AppSupervisor.Text.CharacterName.Pictographs
import AppSupervisor.Text.CharacterName.PresentationForms
import AppSupervisor.Text.CharacterName.Row
import AppSupervisor.Text.CharacterName.Symbols
import AppSupervisor.Text.Digit
import AppSupervisor.Text.LetterCase
import AppSupervisor.Text.Printable
import AppSupervisor.Text.Quoted
import AppSupervisor.Text.Ranges
import AppSupervisor.Text.Similarity
import AppSupervisor.Text.Utf8
import AppSupervisor.Value
