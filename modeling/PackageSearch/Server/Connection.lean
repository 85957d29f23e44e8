import PackageSearch.Http.Head
import PackageSearch.Server.Schedule

/-!
Connections: the head of a request is waited for, the operation it asks for is carried out, and one
response is sent.
-/

namespace PackageSearch.Server

/-- The milliseconds for which a head is waited for. -/
def headPatience : Nat := 10000

structure Connection where
  /-- The address from which the connection has been made. -/
  peer : String
  /-- What the client sends; arrivals without bytes are the end of the connection. -/
  arrivals : List Http.Arrival

def Connection.reads (connection : Connection) : List Http.Arrival :=
  connection.arrivals.flatMap Http.Arrival.reads

/-- What has become of a connection: the state when all operations have ended, the response if one
has been sent, and the lines that are logged for the connection. -/
structure Served where
  state : State
  response? : Option Http.Response
  notes : List LogLine

def acceptedLine (peer : String) : LogLine := .debug ("新连接: " ++ peer)

def failedLine (peer : String) (fault : Host.Fault) : LogLine :=
  .error ("处理连接 " ++ peer ++ " 失败: " ++ fault.message)

def lateHeadLine : LogLine := .debug "读取请求超时"

def statusLines (response : Http.Response) : List LogLine :=
  if response.status = 200 || response.status = 204 then []
  else [.debug ("响应状态 " ++ toString response.status)]

namespace State

/-- Lets the time come, and all operations under way end. -/
def rest (settings : Settings) (world : World) (state : State) (time : Nat) : State :=
  let ended := state.runGroup settings world []
  { ended with now := max ended.now time }

/-- Serves a connection that is accepted now. Without a head in time there is no response. -/
def serve (settings : Settings) (world : World) (arrangement : Arrangement) (state : State)
    (connection : Connection) : Served :=
  let accepted := acceptedLine connection.peer
  match Http.awaitHead headPatience 0 [] connection.reads with
  | .received time head =>
      let operation := Operation.ofHead (head.map Text.decodeLossy)
      let ended := state.runGroup settings world [(time, operation)]
      let response? := (ended.answersFrom state.tasks.length).head?.bind fun (answer, _) =>
        answer.toResponse? arrangement
      ⟨ended, response?, accepted :: (response?.map statusLines).getD []⟩
  | .failed time fault =>
      ⟨state.rest settings world (state.now + time), none,
        [accepted, failedLine connection.peer fault]⟩
  | .late =>
      ⟨state.rest settings world (state.now + headPatience), none, [accepted, lateHeadLine]⟩

end State

end PackageSearch.Server
