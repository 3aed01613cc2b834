import Multimethod.Config.Basic
import Multimethod.Number.Shortest
import Multimethod.Text.Quoted
import Multimethod.Toml.Document

/-! # Reading a configuration -/

namespace Multimethod

inductive Expected where
  | flag
  | capacity
  | cache
deriving DecidableEq

inductive ConfigError where
  | noFile (path : String)
  | notText (path : String)
  | malformed
  | wrongKind (found : Toml.Value) (expected : Expected)
  | negative (n : Int)

namespace Expected

def text : Expected → String
  | flag => "a boolean"
  | capacity => "usize"
  | cache => "struct CacheConfig"

end Expected

namespace ConfigError

def foundText : Toml.Value → String
  | .boolean b => "boolean `" ++ toString b ++ "`"
  | .integer n => "integer `" ++ Text.decimalInt n ++ "`"
  | .float x => "floating point `" ++ x.text ++ "`"
  | .string s => "string " ++ Text.quoted s
  | .array _ => "sequence"
  | .table _ | .moment _ => "map"

/-- What there is to say; nothing about a text that is not a document. -/
def message? : ConfigError → Option String
  | noFile path => some ("failed to read " ++ path ++ ": No such file or directory (os error 2)")
  | notText path => some ("failed to read " ++ path ++ ": stream did not contain valid UTF-8")
  | malformed => none
  | wrongKind found expected =>
    some ("invalid type: " ++ foundText found ++ ", expected " ++ expected.text)
  | negative n =>
    some ("invalid value: " ++ foundText (.integer n) ++ ", expected " ++ Expected.capacity.text)

def isUnreadable : ConfigError → Bool
  | noFile _ | notText _ => true
  | _ => false

end ConfigError

/-! ## Fields -/

def readFlag : Toml.Value → Except ConfigError Bool
  | .boolean b => .ok b
  | v => .error (.wrongKind v .flag)

def readCapacity : Toml.Value → Except ConfigError Nat
  | .integer n => if n < 0 then .error (.negative n) else .ok n.toNat
  | v => .error (.wrongKind v .capacity)

namespace CacheConfig

def readEntry (c : CacheConfig) (entry : String × Toml.Value) : Except ConfigError CacheConfig :=
  if entry.1 = "enabled" then
    (readFlag entry.2).map fun enabled => { c with enabled }
  else if entry.1 = "initial_capacity" then
    (readCapacity entry.2).map fun initialCapacity => { c with initialCapacity }
  else .ok c

/-- The fields of a table in the order of the document; the first bad one is reported. -/
def ofTable (entries : Toml.Table) : Except ConfigError CacheConfig := entries.foldlM readEntry {}

/-- The fields by position. -/
def ofArray : List Toml.Value → Except ConfigError CacheConfig
  | [] => .ok {}
  | [flag] => (readFlag flag).map fun enabled => { enabled }
  | flag :: capacity :: _ => do
    let enabled ← readFlag flag
    let initialCapacity ← readCapacity capacity
    return { enabled, initialCapacity }

/-- A date or a time counts as a table without known fields. -/
def ofValue : Toml.Value → Except ConfigError CacheConfig
  | .table entries => ofTable entries
  | .array elements => ofArray elements
  | .moment _ => .ok {}
  | v => .error (.wrongKind v .cache)

end CacheConfig

namespace Config

def readEntry (c : Config) (entry : String × Toml.Value) : Except ConfigError Config :=
  if entry.1 = "cache" then (CacheConfig.ofValue entry.2).map fun cache => { c with cache }
  else .ok c

def ofTable (entries : Toml.Table) : Except ConfigError Config := entries.foldlM readEntry {}

def ofToml (document : String) : Except ConfigError Config :=
  match Toml.read document with
  | none => .error .malformed
  | some table => ofTable table

def ofFile (path : String) (contents : Option ByteArray) : Except ConfigError Config :=
  match contents with
  | none => .error (.noFile path)
  | some bytes =>
    match String.fromUTF8? bytes with
    | none => .error (.notText path)
    | some document => ofToml document

end Config

end Multimethod
