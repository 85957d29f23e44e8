import PackageSearch.Digest.Fingerprint
import PackageSearch.Host.Command
import PackageSearch.Installed.Error
import PackageSearch.Installed.Snapshot
import PackageSearch.Journal.Line
import PackageSearch.Search.Error
import PackageSearch.Search.Response

/-!
What happens while the server works, and the log lines that tell of it.
-/

namespace PackageSearch

inductive Event where
  | cacheHit (query : String) (key : Fingerprint)
  | searching (query : String)
  /-- A line that the package query itself logs. -/
  | queryNote (line : LogLine)
  | entriesSwept (count : Nat)
  | responseStored (query : String) (response : SearchResponse)
  | searchFailed (query : String) (error : SearchError)
  | cacheCleared (count : Nat)
  | refreshing
  | probeTried (name : String)
  | probeSucceeded (name : String) (count : Nat)
  | probeFailed (name : String) (error : ProbeError)
  | noProbeSucceeded
  /-- A detection has ended with the given snapshot. -/
  | detected (snapshot : Snapshot)
  /-- The result of a detection is not kept because a reset came in between. -/
  | refreshDiscarded
  | snapshotReset
  | commandStarted (command : Host.Command)
  deriving DecidableEq

namespace Event

/-- The log line of an event. The end of a detection, a reset and the start of a command leave
none. -/
def line? : Event → Option LogLine
  | .cacheHit query key => some (.info ("缓存命中 '" ++ query ++ "' (" ++ key.render ++ ")"))
  | .searching query => some (.info ("正在搜索 '" ++ query ++ "'..."))
  | .queryNote line => some line
  | .entriesSwept count => some (.info ("清理了 " ++ toString count ++ " 个过期缓存条目"))
  | .responseStored query response =>
      some (.info ("已缓存 '" ++ query ++ "' 的搜索结果 (" ++ toString response.results.length ++
        " 条)"))
  | .searchFailed query error =>
      some (.warn ("搜索 '" ++ query ++ "' 失败: " ++ error.message))
  | .cacheCleared count => some (.info ("已清空缓存，移除 " ++ toString count ++ " 个条目"))
  | .refreshing => some (.info "正在刷新已安装包缓存...")
  | .probeTried name => some (.debug ("尝试 '" ++ name ++ "'..."))
  | .probeSucceeded name count =>
      some (.info ("通过 '" ++ name ++ "' 找到 " ++ toString count ++ " 个已安装包"))
  | .probeFailed name error => some (.warn ("'" ++ name ++ "' 失败: " ++ error.message))
  | .noProbeSucceeded =>
      some (.warn (SearchError.probeUnavailable.message ++ "，已安装状态功能暂时停用"))
  | .detected _ => none
  | .refreshDiscarded => some (.info "刷新期间缓存已被清空，丢弃本次检测结果")
  | .snapshotReset => none
  | .commandStarted _ => none

def command? : Event → Option Host.Command
  | .commandStarted command => some command
  | _ => none

end Event

end PackageSearch
