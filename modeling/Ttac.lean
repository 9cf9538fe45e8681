import Ttac.Lib.Ascii
import Ttac.CString
import Ttac.Lib.Leftmost
import Ttac.Lib.StepMachine
import Ttac.StringUtil
import Ttac.DicList
import Ttac.UrlDecode
import Ttac.FindStrLoop
import Ttac.Parameter
import Ttac.Lib.Reader
import Ttac.Stream
import Ttac.StreamText
import Ttac.LineLoop
import Ttac.LineFraming
import Ttac.LineIndices
import Ttac.Formdata
import Ttac.FormdataSteps
import Ttac.FormdataTermination
import Ttac.FormdataRun
import Ttac.FormdataSafety
import Ttac.FormdataFiles
import Ttac.Request
import Ttac.RequestChunking
import Ttac.RequestText
import Ttac.HeaderWhitespace
import Ttac.RequestBody
import Ttac.DecoderChoice
import Ttac.OutputStream
import Ttac.RequestLine
import Ttac.RequestDelivery
import Ttac.FormSerialization
import Ttac.Response
import Ttac.AcceptLoop
import Ttac.Lib.SqlLexer
import Ttac.Lib.SqlTemplate
import Ttac.Lib.Program
import Ttac.Queries
import Ttac.Handlers
import Ttac.HandlerParameters
import Ttac.Injection
import Ttac.Environment
import Ttac.Session
import Ttac.Lib.History
import Ttac.HandlerHistory
import Ttac.Connections
import Ttac.Dispatch
import Ttac.QueryLengths
import Ttac.ListRows
import Ttac.Statement
import Ttac.Buffers
import Ttac.Lib.Json
import Ttac.ListResponses
import Ttac.Lib.Table
import Ttac.Tables
import Ttac.Mysql
import Ttac.Lib.Threads
import Ttac.MissingRows
import Ttac.TableChanges
import Ttac.HandlerTables
import Ttac.Requests
import Ttac.Lib.Completion
import Ttac.Lib.Recording
import Ttac.SerialRequests
import Ttac.OwnConnection
import Ttac.GroupCreation
import Ttac.Lib.Heap
import Ttac.Lib.LastWrite
import Ttac.LocationList
import Ttac.DicHeap
import Ttac.LocationMap
import Ttac.LocationText
import Ttac.LocationRaces
import Ttac.StreamEnd
import Ttac.HandlerRuns
import Ttac.GroupAtomicity
import Ttac.Memberships
import Ttac.MemberGrants
import Ttac.LocationLookup
import Ttac.Lib.FirstWrite
import Ttac.ProgressTable
import Ttac.Attendance
import Ttac.ChatMembers
import Ttac.SignupLogin
import Ttac.Accounts
import Ttac.Snapshots
import Ttac.TodoList
import Ttac.ProgressRaces
import Ttac.Lib.Critical
import Ttac.LocationSteps
import Ttac.LocationLock
import Ttac.ConnectionHandles
import Ttac.RequestFraming
import Ttac.Sockets
import Ttac.TodoDelivery
