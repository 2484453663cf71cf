import SnippetReview.Chat.Reply
import SnippetReview.CommandLine
import SnippetReview.Reviewer
import SnippetReview.Text.Quoted
import SnippetReview.Toml.Document

namespace SnippetReview

structure EnrichmentTable where
  enabled : Bool := true
  baseUrl : Text := "https://api.openai.com/v1".toList
  model : Text := "gpt-3.5-turbo".toList
  timeoutSecs : Nat := 15
  minChars : Nat := 10
  keyVariable : Text := "OPENAI_API_KEY".toList
  deriving DecidableEq, Repr

structure SettingsFile where
  bind : Option SocketAddress := none
  enrichment : EnrichmentTable := {}
  deriving DecidableEq, Repr

namespace EnrichmentTable

def fieldNames : List String :=
  ["enabled", "base_url", "model", "timeout_secs", "min_code_chars", "api_key_env"]

open Toml.Value in
def ofToml? (value : Toml.Value) : Option EnrichmentTable := do
  let standard : EnrichmentTable := {}
  match ← value.fields? fieldNames 0 with
  | [enabled, baseUrl, model, timeoutSecs, minChars, keyVariable] =>
    return ⟨← fieldOr? boolean? standard.enabled enabled,
      ← fieldOr? text? standard.baseUrl baseUrl,
      ← fieldOr? text? standard.model model,
      ← fieldOr? natural? standard.timeoutSecs timeoutSecs,
      ← fieldOr? natural? standard.minChars minChars,
      ← fieldOr? text? standard.keyVariable keyVariable⟩
  | _ => none

end EnrichmentTable

namespace SettingsFile

def address? (value : Toml.Value) : Option SocketAddress := do
  SocketAddress.read? (← value.text?)

open Toml.Value in
def ofToml? (value : Toml.Value) : Option SettingsFile := do
  match ← value.fields? ["bind", "enrichment"] 0 with
  | [bind, enrichment] =>
    return ⟨← fieldOr? (fun v => (address? v).map some) none bind,
      ← fieldOr? EnrichmentTable.ofToml? {} enrichment⟩
  | _ => none

def read? (text : Text) : Option SettingsFile :=
  (Toml.read? text).bind ofToml?

end SettingsFile

inductive FileContent where
  | missing
  | unreadable
  | text (t : Text)
  deriving DecidableEq, Repr

inductive SettingsFault where
  | unreadable (path : Text)
  | malformed (path : Text)
  deriving DecidableEq, Repr

def SettingsFault.message : SettingsFault → Text
  | unreadable path => "failed to read config file ".toList ++ path
  | malformed path => "failed to parse config file ".toList ++ path

def SettingsFile.ofContent (path : Text) : FileContent → Except SettingsFault SettingsFile
  | .text t =>
    match SettingsFile.read? t with
    | some file => .ok file
    | none => .error (.malformed path)
  | _ => .error (.unreadable path)

inductive Transport where
  | web
  | editor
  deriving DecidableEq, Repr

structure EnrichmentSettings where
  service : Chat.Service
  policy : Enrichment.Policy
  deriving DecidableEq, Repr

def EnrichmentSettings.describe (s : EnrichmentSettings) : Text :=
  "EnrichmentConfig \x7b base_url: ".toList ++ Text.quoted s.service.baseUrl ++
    ", model: ".toList ++ Text.quoted s.service.model ++
    ", timeout: ".toList ++ s.policy.timeout.text ++
    ", min_code_chars: ".toList ++ Text.ofNat s.policy.minChars ++ ", .. \x7d".toList

structure Settings where
  transport : Transport
  bind : SocketAddress
  enrichment : Option EnrichmentSettings
  logLevel : Text
  deriving DecidableEq, Repr

structure Environment where
  file : Text → FileContent
  usualPath : Option Text
  valueOf? : Text → Option Text

namespace Settings

def transportOf : Option CommandLine.Command → Transport
  | some .lsp => .editor
  | _ => .web

def enrichment? (table : EnrichmentTable) (key : Option Text) : Option EnrichmentSettings := do
  let key ← key
  if !table.enabled || (Text.trim key).isEmpty then none
  return ⟨⟨table.baseUrl, key, table.model⟩, ⟨.ofSecs table.timeoutSecs, table.minChars⟩⟩

def resolve (call : CommandLine.Invocation) (file : SettingsFile) (key : Option Text) :
    Settings where
  transport := transportOf call.command
  bind := (call.bind.or file.bind).getD .local3000
  enrichment := enrichment? file.enrichment key
  logLevel := call.logLevel

def file (world : Environment) (call : CommandLine.Invocation) :
    Except SettingsFault SettingsFile :=
  match call.config with
  | some path => SettingsFile.ofContent path (world.file path)
  | none =>
    match world.usualPath with
    | none => .ok {}
    | some path =>
      match world.file path with
      | .missing => .ok {}
      | content => SettingsFile.ofContent path content

def load (world : Environment) (call : CommandLine.Invocation) : Except SettingsFault Settings := do
  let file ← file world call
  return resolve call file (world.valueOf? file.enrichment.keyVariable)

def reviewer (s : Settings) (catalog : Catalog) : Reviewer :=
  ⟨catalog, s.enrichment.map EnrichmentSettings.policy⟩

def reply (s : Settings) (network : Chat.Network) (q : Enrichment.Question) : Enrichment.Reply :=
  match s.enrichment with
  | none => .silence
  | some e => e.service.reply network q

end Settings

end SnippetReview
