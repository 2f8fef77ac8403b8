import KeyValue.EntryList
import KeyValue.Table
import KeyValue.Text.Utf8

namespace KeyValue

structure Variable where
  name : List UInt8
  value : List UInt8
deriving DecidableEq

namespace Variable

def toPair (v : Variable) : Pair :=
  { key := Text.Utf8.decodeLossy v.name, value := Text.Utf8.decodeLossy v.value }

def toEntry (v : Variable) : String :=
  v.toPair.toEntry '='

end Variable

abbrev Environment :=
  List Variable

namespace Environment

def entries (env : Environment) : List String :=
  env.map (·.toEntry)

def entryList (env : Environment) : EntryList :=
  { entries := env.entries }

def table (env : Environment) : Except MalformedEntry Table :=
  Table.ofEntries {} env.entries

end Environment

end KeyValue
