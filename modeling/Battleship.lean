import Battleship.Library.Machine
import Battleship.Library.Decimal
import Battleship.Library.Targets
import Battleship.Protocol
import Battleship.BoardCore
import Battleship.BoardPlacement
import Battleship.BoardFleet
import Battleship.BoardShots
import Battleship.MatchCore
import Battleship.MatchRun
import Battleship.PlacementCore
import Battleship.PlacementAgreement
import Battleship.PlacementCheck
import Battleship.Library.Table
import Battleship.Messages
import Battleship.Database
import Battleship.ServerCore
import Battleship.ChallengeHandling
import Battleship.ChallengeFacts
import Battleship.GameplayHandling
import Battleship.AuthHandling
import Battleship.ServerStep
import Battleship.DatabaseFacts
import Battleship.SessionStore
import Battleship.ServerFrames
import Battleship.GamesInvariant
import Battleship.MatchLife
import Battleship.MatchSteps
import Battleship.ServerInvariant
import Battleship.ServerRuns
import Battleship.ServerEdits
import Battleship.PlacementReset
import Battleship.PlacementScreen
import Battleship.PlacementText
import Battleship.RandomPlacement
import Battleship.Readiness
import Battleship.MatchConclusion
import Battleship.Accounts
import Battleship.DrawConsent
import Battleship.Disconnects
import Battleship.Connections
import Battleship.Outsiders
import Battleship.Availability
import Battleship.ChallengeThreads
import Battleship.ChallengeContract
import Battleship.Library.Framing
import Battleship.Transfer
import Battleship.SendThreads
import Battleship.Statements
import Battleship.Routine
import Battleship.EloRatings
import Battleship.FrameLengths
import Battleship.People
import Battleship.Presence
import Battleship.PendingChallenges
import Battleship.StaleChallenges
import Battleship.MatchRecords
import Battleship.Activity
import Battleship.Participants
import Battleship.TurnAnnouncements
import Battleship.MatchThreads
import Battleship.MatchRaces
import Battleship.TimeoutRaces
import Battleship.DescriptorThreads
import Battleship.ClientNetwork
import Battleship.ResponseRouting
import Battleship.UIManager
import Battleship.MoveResults
import Battleship.SunkInference
import Battleship.ShooterView
import Battleship.SunkRecords
import Battleship.TurnAgreement
import Battleship.BoardRemoval
import Battleship.BoardCalls
import Battleship.MoveReports
import Battleship.MoveRows
import Battleship.MatchEndings
import Battleship.Sweeps
import Battleship.RejectedMessages
import Battleship.CachedRatings
import Battleship.ListedClients
import Battleship.Resubmissions
import Battleship.AfterLogout
import Battleship.StatusThreads
import Battleship.LobbyReplica
import Battleship.SessionTokens
import Battleship.ClientSession
import Battleship.AccountRoundTrip
import Battleship.Library.Fields
import Battleship.PasswordHashing
import Battleship.SessionStorage
import Battleship.TextFields
import Battleship.ClientPayloads
import Battleship.ClientReceiving
import Battleship.ClientScreens
import Battleship.Library.Locks
import Battleship.ServerLocks
import Battleship.Library.Totals
import Battleship.RatingTotals
import Battleship.Origins
import Battleship.MatchMessages
import Battleship.MatchReplay
import Battleship.Library.Layouts
import Battleship.RequestBytes
import Battleship.RequestDelivery
import Battleship.PayloadBytes
import Battleship.PayloadReading
import Battleship.SentStructs
import Battleship.ResponseDelivery
import Battleship.ChallengeDialogs
