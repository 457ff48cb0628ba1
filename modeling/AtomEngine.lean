import AtomEngine.Models.Value
import AtomEngine.Models.Token
import AtomEngine.Process.Callback
import AtomEngine.Process.CallbackDelivery
import AtomEngine.Process.CallActivity
import AtomEngine.Server.Substring
import AtomEngine.Server.JobCallback
import AtomEngine.Server.JobsChannel
import AtomEngine.Handlers.Exchange
import AtomEngine.Server.ExternalServices
import AtomEngine.Server.ExpressionTest
import AtomEngine.Utils.RandomString
import AtomEngine.Handlers.ProcessStats
import AtomEngine.Cli.MessageCommands
import AtomEngine.Middleware.RateLimit
import AtomEngine.Server.ExpressionService
import AtomEngine.Server.JsonDecode
import AtomEngine.Server.CallbackDecode
import AtomEngine.Handlers.ParserHandler
import AtomEngine.Server.JsonObjects
import AtomEngine.Handlers.JobsHandler
